-- SUMMARY: Packing queued frames into datagrams, control datagrams, and the periodic tick.
import Raknet.Session.Resend

namespace Raknet

variable {F H : Type} [F64 F] [MinHeap H QueuedFrame QueuedFrame.weight]

namespace Session

/-! ## Control datagrams -/

def drainAckDatagram (s : Session F H) (now : Instant) : Option Datagram × Session F H :=
  let (ranges, outgoingAcks) :=
    s.outgoingAcks.popForMtu s.mtu 3 s.flush.ackMaxRangesPerDatagram
  let s := { s with outgoingAcks }
  if ranges.isEmpty then
    (none, s)
  else
    (some
      { header := ⟨DatagramFlags.valid ||| DatagramFlags.ack, Sequence24.new 0⟩
        payload := .ack ⟨ranges⟩ },
      { s with
        nextAckFlushAt := now + s.flush.ackFlushInterval
        metrics := { s.metrics with
          ackOutDatagrams := satAdd s.metrics.ackOutDatagrams 1 } })

def drainNackDatagram (s : Session F H) (now : Instant) : Option Datagram × Session F H :=
  let (ranges, outgoingNacks) :=
    s.outgoingNacks.popForMtu s.mtu 3 s.flush.nackMaxRangesPerDatagram
  let s := { s with outgoingNacks }
  if ranges.isEmpty then
    (none, s)
  else
    (some
      { header := ⟨DatagramFlags.valid ||| DatagramFlags.nack, Sequence24.new 0⟩
        payload := .nack ⟨ranges⟩ },
      { s with
        nextNackFlushAt := now + s.flush.nackFlushInterval
        metrics := { s.metrics with
          nackOutDatagrams := satAdd s.metrics.nackOutDatagrams 1 } })

def flushAckIfDue (s : Session F H) (now : Instant) : List Datagram × Session F H :=
  if s.outgoingAcks.isEmpty || now < s.nextAckFlushAt then
    ([], s)
  else
    let (ack, s) := s.drainAckDatagram now
    (ack.toList, s)

def flushNackIfDue (s : Session F H) (now : Instant) : List Datagram × Session F H :=
  if s.outgoingNacks.isEmpty || now < s.nextNackFlushAt then
    ([], s)
  else
    let (nack, s) := s.drainNackDatagram now
    (nack.toList, s)

/-! ## Packing -/

/-- The pop loop of `pop_next_frame_for_datagram`: the selected entry, the ones
    set aside, and the heap. Every round pops an entry, so `fuel` is the size
    of the heap. -/
def popCandidates (fits : QueuedFrame → Bool) :
    Nat → H → List QueuedFrame → Option QueuedFrame × List QueuedFrame × H
  | 0, heap, deferred => (none, deferred, heap)
  | fuel + 1, heap, deferred =>
    match MinHeap.pop heap with
    | none => (none, deferred, heap)
    | some (candidate, heap) =>
      if fits candidate then (some candidate, deferred, heap)
      else popCandidates fits fuel heap (deferred ++ [candidate])

def popNextFrameForDatagram (s : Session F H) (allowReliable : Bool)
    (datagramSize remainingBytesBudget : Nat) : Option QueuedFrame × Session F H :=
  let fits := fun candidate : QueuedFrame =>
    decide (datagramSize + candidate.encodedSize ≤ s.mtu) &&
      decide (candidate.encodedSize ≤ remainingBytesBudget) &&
      (allowReliable || !candidate.isReliable)
  let (selected, deferred, heap) :=
    popCandidates fits (MinHeap.size s.outgoingHeap) s.outgoingHeap []
  (selected, { s with outgoingHeap := deferred.foldl MinHeap.push heap })

/-- The local variables of the packing loop. The frames and the receipt ids
    are read off the entries taken so far. -/
structure Packing where
  taken : List QueuedFrame
  datagramSize : Nat
  remainingBytesBudget : Nat

namespace Packing

def frames (p : Packing) : List Frame := p.taken.map QueuedFrame.frame

def hasReliable (p : Packing) : Bool := p.taken.any QueuedFrame.isReliable

def hasSplit (p : Packing) : Bool := p.taken.any fun q => q.frame.header.isSplit

/-- Note the receipt of an entry, unless it is there already. -/
def addReceipt (ids : List UInt64) (q : QueuedFrame) : List UInt64 :=
  match q.receiptId with
  | some id => if id ∈ ids then ids else ids ++ [id]
  | none => ids

/-- `datagram_receipt_ids`: each receipt once, in the order of its first entry. -/
def receiptIds (p : Packing) : List UInt64 := p.taken.foldl addReceipt []

def add (p : Packing) (queued : QueuedFrame) : Packing :=
  { taken := p.taken ++ [queued]
    datagramSize := p.datagramSize + queued.encodedSize
    remainingBytesBudget := p.remainingBytesBudget - queued.encodedSize }

theorem mem_addReceipt {ids : List UInt64} {q : QueuedFrame} {id : UInt64} :
    id ∈ addReceipt ids q ↔ id ∈ ids ∨ q.receiptId = some id := by
  unfold addReceipt
  cases q.receiptId with
  | none => simp
  | some id' =>
    dsimp only
    split
    · next h =>
      constructor
      · exact .inl
      · rintro (h' | h')
        · exact h'
        · exact Option.some.inj h' ▸ h
    · simp [eq_comm]

theorem mem_foldl_addReceipt {taken : List QueuedFrame} {ids : List UInt64} {id : UInt64} :
    id ∈ taken.foldl addReceipt ids ↔ id ∈ ids ∨ ∃ q ∈ taken, q.receiptId = some id := by
  induction taken generalizing ids with
  | nil => simp
  | cons q taken ih => simp [ih, mem_addReceipt, or_assoc]

theorem nodup_foldl_addReceipt {taken : List QueuedFrame} {ids : List UInt64} (h : ids.Nodup) :
    (taken.foldl addReceipt ids).Nodup := by
  induction taken generalizing ids with
  | nil => exact h
  | cons q taken ih =>
    refine ih ?_
    unfold addReceipt
    cases q.receiptId with
    | none => exact h
    | some id =>
      dsimp only
      split
      · exact h
      · next hid => simpa [List.nodup_append] using ⟨h, fun a ha e => hid (e ▸ ha)⟩

end Packing

/-- The packing loop of `build_data_datagram`; every round takes an entry off
    the heap, so `fuel` is its size. -/
def packLoop : Nat → Packing → Session F H → Packing × Session F H
  | 0, p, s => (p, s)
  | fuel + 1, p, s =>
    let allowReliable := p.hasReliable || s.canEmitNewReliableDatagram
    match s.popNextFrameForDatagram allowReliable p.datagramSize p.remainingBytesBudget with
    | (none, s) => (p, s)
    | (some queued, s) =>
      packLoop fuel (p.add queued)
        { s with outgoingQueuedBytes := s.outgoingQueuedBytes - queued.encodedSize }

/-- A new datagram with the queue entries it carries. -/
structure BuiltDatagram where
  datagram : Datagram
  queued : List QueuedFrame
deriving DecidableEq, Repr

/-- The end of `build_data_datagram`: number the packed frames and track them. -/
def sealDatagram (s : Session F H) (p : Packing) (now : Instant) :
    BuiltDatagram × Session F H :=
  let flags :=
    if s.pendingOutgoingFrames ≠ 0 || p.hasSplit then
      DatagramFlags.valid ||| DatagramFlags.continuousSend
    else
      DatagramFlags.valid ||| DatagramFlags.hasBAndAs
  let (sequence, s) := s.nextDatagramSequence
  let datagram : Datagram := { header := ⟨flags, sequence⟩, payload := .frames p.frames }
  let s :=
    if p.hasReliable || !p.receiptIds.isEmpty then
      s.trackSentReliableDatagram datagram now p.receiptIds
    else
      s
  (⟨datagram, p.taken⟩, s)

/-- The result is the datagram, the remaining byte budget and the session. -/
def buildDataDatagram (s : Session F H) (now : Instant) (remainingBytesBudget : Nat) :
    Option BuiltDatagram × Nat × Session F H :=
  if s.pendingOutgoingFrames = 0 ∨ remainingBytesBudget = 0 then
    (none, remainingBytesBudget, s)
  else
    let (p, s) := packLoop s.pendingOutgoingFrames
      ⟨[], raknetDatagramHeaderSize, remainingBytesBudget⟩ s
    if p.taken.isEmpty then
      (none, p.remainingBytesBudget, s)
    else
      let (built, s) := s.sealDatagram p now
      (some built, p.remainingBytesBudget, s)

/-! ## The tick -/

def hasImmediateOutgoingFrame (s : Session F H) : Bool :=
  s.queuedFrames.any fun q => q.priority = .immediate

def minQueuedFrameSize (s : Session F H) : Option Nat :=
  (s.queuedFrames.map QueuedFrame.encodedSize).min?

def pruneSplitState (s : Session F H) (now : Instant) : Nat × Session F H :=
  let (dropped, splitAssembler) := s.splitAssembler.prune now
  (dropped, { s with
    splitAssembler
    metrics := { s.metrics with splitTtlDrops := satAdd s.metrics.splitTtlDrops dropped } })

/-- The loop of `on_tick` over new datagrams, for at most `n` of them. -/
def buildLoop (now : Instant) :
    Nat → Nat → Session F H → List BuiltDatagram × Session F H
  | 0, _, s => ([], s)
  | n + 1, remaining, s =>
    match s.buildDataDatagram now remaining with
    | (none, _, s) => ([], s)
    | (some built, remaining, s) =>
      if remaining = 0 then
        ([built], s)
      else
        let (rest, s) := buildLoop now n remaining s
        (built :: rest, s)

/-- The datagrams of a tick, by the part of `on_tick` that made them. -/
structure TickOutput where
  control : List Datagram
  resent : List Datagram
  fresh : List BuiltDatagram
deriving DecidableEq, Repr

/-- The vector `on_tick` returns. -/
def TickOutput.datagrams (o : TickOutput) : List Datagram :=
  o.control ++ o.resent ++ o.fresh.map BuiltDatagram.datagram

/-- The acknowledgement part of `on_tick`. -/
def flushControl (s : Session F H) (now : Instant) : List Datagram × Session F H :=
  match s.flush.ackNackPriority with
  | .nackFirst =>
    let (nacks, s) := s.flushNackIfDue now
    let (acks, s) := s.flushAckIfDue now
    (nacks ++ acks, s)
  | .ackFirst =>
    let (acks, s) := s.flushAckIfDue now
    let (nacks, s) := s.flushNackIfDue now
    (acks ++ nacks, s)

/-- The bytes `on_tick` may spend on new datagrams, with the bypass for a queue
    that holds an immediate frame. -/
def newBytesBudget (s : Session F H) (maxNewBytes : Nat) : Nat :=
  let remaining := min maxNewBytes s.pacing.availableBytes
  let tooSmall := match s.minQueuedFrameSize with
    | some minFrame => decide (remaining < minFrame)
    | none => false
  if s.pacing.pacingEnabled && (remaining = 0 || tooSmall) && maxNewBytes > 0 &&
      s.hasImmediateOutgoingFrame then
    max (min s.mtu maxNewBytes) 1
  else
    remaining

def onTick (s : Session F H) (now : Instant)
    (maxNewDatagrams maxNewBytes maxResendDatagrams maxResendBytes : Nat) :
    TickOutput × Session F H :=
  let s := { s with pacing := s.pacing.refreshPacingBudget s.congestion s.mtu now }
  let (control, s) := s.flushControl now
  let resendBytesBudget := min maxResendBytes s.pacing.availableBytes
  let (resent, s) := s.collectResendable now maxResendDatagrams resendBytesBudget
  let s := { s with
    pacing := s.pacing.consumePacingBudget (resent.map Datagram.encodedSize).sum }
  let (fresh, s) := buildLoop now maxNewDatagrams (s.newBytesBudget maxNewBytes) s
  let s := { s with
    pacing := s.pacing.consumePacingBudget
      (fresh.map fun b : BuiltDatagram => b.datagram.encodedSize).sum }
  let (_, s) := s.pruneSplitState now
  (⟨control, resent, fresh⟩, s)

end Session

end Raknet
