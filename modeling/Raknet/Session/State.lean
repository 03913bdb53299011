-- SUMMARY: The session record, its construction, and the methods that only read or set single fields.
import Raknet.Lib.Heap
import Raknet.Session.AckQueue
import Raknet.Session.Congestion
import Raknet.Session.OrderingChannels
import Raknet.Session.ReliableTracker

/-!
# The session

`Session F H` is the state of one connection, over the `f64` numbers `F` and the
priority queue `H` of frames to send. The configuration constants that the
source copies into the record, the congestion fields and the pacing fields are
grouped in `flush`, `congestion` and `pacing`; all other fields are the
source's own.
-/

namespace Raknet

inductive RakPriority where
  | immediate
  | high
  | normal
  | low
deriving DecidableEq, Repr

def RakPriority.asIndex : RakPriority → Nat
  | immediate => 0
  | high => 1
  | normal => 2
  | low => 3

inductive SessionState where
  | offline
  | req1Recv
  | reply1Sent
  | req2Recv
  | reply2Sent
  | connReqRecv
  | connReqAcceptedSent
  | newIncomingRecv
  | connected
  | closing
  | closed
deriving DecidableEq, Repr

def SessionState.canTransitionTo (self next : SessionState) : Bool :=
  if self = next then
    true
  else
    match self, next with
    | .offline, .req1Recv
    | .req1Recv, .reply1Sent
    | .reply1Sent, .req2Recv
    | .req2Recv, .reply2Sent
    | .reply2Sent, .connReqRecv
    | .connReqRecv, .connReqAcceptedSent
    | .connReqAcceptedSent, .newIncomingRecv
    | .newIncomingRecv, .connected
    | .connected, .closing
    | .closing, .closed => true
    | _, _ => false

structure TrackedDatagram where
  datagram : Datagram
  sendTime : Instant
  nextSend : Instant
  retries : Nat
  nackResendPending : Bool
  resendable : Bool
  receiptIds : List UInt64
deriving DecidableEq, Repr

structure ReceiptProgress where
  acked : Nat
  nacked : Nat
  ackedReceiptIds : List UInt64
deriving DecidableEq, Repr

inductive QueuePayloadResult where
  | enqueued (reliableBytes : Nat)
  | dropped
  | deferred
  | disconnectRequested
deriving DecidableEq, Repr

structure SessionMetrics where
  ingressDatagrams : Nat := 0
  ingressFrames : Nat := 0
  duplicateReliableDrops : Nat := 0
  orderedStaleDrops : Nat := 0
  orderedBufferFullDrops : Nat := 0
  sequencedStaleDrops : Nat := 0
  sequencedMissingIndexDrops : Nat := 0
  reliableSentDatagrams : Nat := 0
  resentDatagrams : Nat := 0
  ackOutDatagrams : Nat := 0
  nackOutDatagrams : Nat := 0
  ackedDatagrams : Nat := 0
  nackedDatagrams : Nat := 0
  splitTtlDrops : Nat := 0
  outgoingQueueDrops : Nat := 0
  outgoingQueueDefers : Nat := 0
  outgoingQueueDisconnects : Nat := 0
  backpressureDelays : Nat := 0
  backpressureDrops : Nat := 0
  backpressureDisconnects : Nat := 0
deriving DecidableEq, Repr

/-- `u64::saturating_add`. -/
def satAdd (n k : Nat) : Nat := min (n + k) (2 ^ 64 - 1)

/-- A frame in the send queue. Its size and its reliability are the frame's
    own, as `push_outgoing_frame` writes them. -/
structure QueuedFrame where
  weight : Nat
  encodedSize : Nat
  isReliable : Bool
  priority : RakPriority
  receiptId : Option UInt64
  frame : Frame
  encodedSize_eq : encodedSize = frame.encodedSize
  isReliable_eq : isReliable = frame.header.reliability.isReliable
deriving DecidableEq, Repr

structure Session (F H : Type) where
  state : SessionState
  mtu : Nat
  lastActivity : Instant
  lastKeepaliveSent : Instant
  datagramReadIndex : Sequence24
  datagramWriteIndex : Sequence24
  reliableWriteIndex : Sequence24
  splitWriteIndex : UInt16
  orderingWriteIndex : List Sequence24
  sequencingWriteIndex : List Sequence24
  reliableTracker : ReliableTracker
  splitAssembler : SplitAssembler
  ordering : OrderingChannels
  outgoingHeap : H
  outgoingNextWeights : List Nat
  lastMinWeight : Nat
  outgoingAcks : AckQueue
  outgoingNacks : AckQueue
  flush : AckNackFlushSettings
  nextAckFlushAt : Instant
  nextNackFlushAt : Instant
  incomingAcks : List SequenceRange
  incomingNacks : List SequenceRange
  sentDatagrams : AssocMap Sequence24 TrackedDatagram
  receiptTracking : AssocMap UInt64 Nat
  congestion : Congestion F
  pacing : Pacing F
  outgoingQueuedBytes : Nat
  outgoingQueueMaxFrames : Nat
  outgoingQueueMaxBytes : Nat
  outgoingQueueSoftRatio : F
  backpressureMode : BackpressureMode
  disconnectRequestedByBackpressure : Bool
  metrics : SessionMetrics

variable {F H : Type} [F64 F] [MinHeap H QueuedFrame QueuedFrame.weight]

namespace Session

/-- `(1 << level) * level + level`, the first weight of a priority level. -/
def levelWeight (level : Nat) : Nat := 2 ^ level * level + level

def withTunables (mtu : Nat) (tunables : SessionTunables F) (now : Instant) : Session F H :=
  { state := .offline
    mtu
    lastActivity := now
    lastKeepaliveSent := now
    datagramReadIndex := Sequence24.new 0
    datagramWriteIndex := Sequence24.new 0
    reliableWriteIndex := Sequence24.new 0
    splitWriteIndex := 0
    orderingWriteIndex := List.replicate 16 (Sequence24.new 0)
    sequencingWriteIndex := List.replicate 16 (Sequence24.new 0)
    reliableTracker := ReliableTracker.new tunables.reliableWindow
    splitAssembler := SplitAssembler.new tunables.splitTtl tunables.maxSplitParts
      tunables.maxConcurrentSplits
    ordering := OrderingChannels.new tunables.maxOrderingChannels
      tunables.maxOrderedPendingPerChannel tunables.maxOrderGap
    outgoingHeap := MinHeap.empty
    outgoingNextWeights := [levelWeight 0, levelWeight 1, levelWeight 2, levelWeight 3]
    lastMinWeight := 0
    outgoingAcks := AckQueue.new tunables.ackQueueCapacity
    outgoingNacks := AckQueue.new tunables.ackQueueCapacity
    flush := tunables.resolvedAckNackFlushSettings
    nextAckFlushAt := now
    nextNackFlushAt := now
    incomingAcks := []
    incomingNacks := []
    sentDatagrams := ∅
    receiptTracking := ∅
    congestion := Congestion.withSettings tunables.resolvedCongestionSettings now
    pacing := Pacing.withTunables tunables now
    outgoingQueuedBytes := 0
    outgoingQueueMaxFrames := max tunables.outgoingQueueMaxFrames 1
    outgoingQueueMaxBytes := max tunables.outgoingQueueMaxBytes 1
    outgoingQueueSoftRatio :=
      F64.clamp tunables.outgoingQueueSoftRatio (F64.decimal 5 2) (F64.decimal 99 2)
    backpressureMode := tunables.backpressureMode
    disconnectRequestedByBackpressure := false
    metrics := {} }

def new (mtu : Nat) (now : Instant) : Session F H := withTunables mtu SessionTunables.standard now

def transitionTo (s : Session F H) (next : SessionState) : Bool × Session F H :=
  if s.state.canTransitionTo next then (true, { s with state := next }) else (false, s)

def setMtu (s : Session F H) (mtu : Nat) : Session F H := { s with mtu }

def touchActivity (s : Session F H) (now : Instant) : Session F H := { s with lastActivity := now }

def idleFor (s : Session F H) (now : Instant) : Duration := now - s.lastActivity

def shouldSendKeepalive (s : Session F H) (now : Instant) (interval : Duration) : Bool :=
  if s.state ≠ .connected ∨ interval = 0 then
    false
  else
    s.idleFor now ≥ interval && now - s.lastKeepaliveSent ≥ interval

def markKeepaliveSent (s : Session F H) (now : Instant) : Session F H :=
  { s with lastKeepaliveSent := now }

def nextDatagramSequence (s : Session F H) : Sequence24 × Session F H :=
  (s.datagramWriteIndex, { s with datagramWriteIndex := s.datagramWriteIndex.next })

/-- The frames waiting in the send queue. -/
def queuedFrames (s : Session F H) : List QueuedFrame := MinHeap.toList s.outgoingHeap

def pendingOutgoingFrames (s : Session F H) : Nat := MinHeap.size s.outgoingHeap

def pendingOutgoingBytes (s : Session F H) : Nat := s.outgoingQueuedBytes

def forceControlFlushDeadlines (s : Session F H) (now : Instant) : Session F H :=
  let s := if !s.outgoingAcks.isEmpty then { s with nextAckFlushAt := now } else s
  if !s.outgoingNacks.isEmpty then { s with nextNackFlushAt := now } else s

def takeBackpressureDisconnect (s : Session F H) : Bool × Session F H :=
  (s.disconnectRequestedByBackpressure, { s with disconnectRequestedByBackpressure := false })

def canEmitNewReliableDatagram (s : Session F H) : Bool :=
  s.congestion.windowOpen s.sentDatagrams.size

end Session

end Raknet
