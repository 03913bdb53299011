-- SUMMARY: A session as a machine: its operations, what each returns, and the histories of a run.
import Raknet.Lib.Machine
import Raknet.Session.Inbound
import Raknet.Session.Outbound
import Raknet.Session.Tick

/-!
# Runs of a session

The public operations that touch the protocol state, as the actions of a
machine. A run is any list of them: the caller may interleave sending,
receiving, ticks and acknowledgement processing in every way.
-/

namespace Raknet

inductive SessionOp where
  | queuePayload (payload : Bytes) (reliability : Reliability) (channel : UInt8)
      (priority : RakPriority) (receiptId : Option UInt64)
  | ingestDatagram (datagram : Datagram) (now : Instant)
  | processDatagramSequence (seq : Sequence24) (now : Instant)
  | handleAckPayload (payload : AckNackPayload)
  | handleNackPayload (payload : AckNackPayload)
  | processIncomingReceipts (now : Instant)
  | collectResendable (now : Instant) (maxCount maxBytes : Nat)
  | buildDataDatagram (now : Instant) (remainingBytesBudget : Nat)
  | onTick (now : Instant)
      (maxNewDatagrams maxNewBytes maxResendDatagrams maxResendBytes : Nat)
  | drainAckDatagram (now : Instant)
  | drainNackDatagram (now : Instant)
  | pruneSplitState (now : Instant)
  | forceControlFlushDeadlines (now : Instant)
  | setMtu (mtu : Nat)
  | transitionTo (next : SessionState)
  | touchActivity (now : Instant)
  | markKeepaliveSent (now : Instant)
  | takeBackpressureDisconnect
deriving DecidableEq, Repr

inductive SessionOut where
  | queued (result : QueuePayloadResult) (made : List QueuedFrame)
  | received (result : Except DecodeError (List Frame))
  | progress (progress : ReceiptProgress)
  | resent (datagrams : List Datagram)
  | built (built : Option Session.BuiltDatagram)
  | ticked (output : Session.TickOutput)
  | control (datagram : Option Datagram)
  | flag (value : Bool)
  | count (value : Nat)
  | unit

variable {F H : Type} [F64 F] [MinHeap H QueuedFrame QueuedFrame.weight]

namespace Session

def step (s : Session F H) : SessionOp → Session F H × SessionOut
  | .queuePayload payload reliability channel priority receiptId =>
    let (result, made, s) :=
      s.queuePayloadWithReceipt payload reliability channel priority receiptId
    (s, .queued result made)
  | .ingestDatagram datagram now =>
    let (result, s) := s.ingestDatagram datagram now
    (s, .received result)
  | .processDatagramSequence seq now => (s.processDatagramSequence seq now, .unit)
  | .handleAckPayload payload => (s.handleAckPayload payload, .unit)
  | .handleNackPayload payload => (s.handleNackPayload payload, .unit)
  | .processIncomingReceipts now =>
    let (progress, s) := s.processIncomingReceipts now
    (s, .progress progress)
  | .collectResendable now maxCount maxBytes =>
    let (datagrams, s) := s.collectResendable now maxCount maxBytes
    (s, .resent datagrams)
  | .buildDataDatagram now remainingBytesBudget =>
    let (built, _, s) := s.buildDataDatagram now remainingBytesBudget
    (s, .built built)
  | .onTick now maxNewDatagrams maxNewBytes maxResendDatagrams maxResendBytes =>
    let (output, s) :=
      s.onTick now maxNewDatagrams maxNewBytes maxResendDatagrams maxResendBytes
    (s, .ticked output)
  | .drainAckDatagram now =>
    let (datagram, s) := s.drainAckDatagram now
    (s, .control datagram)
  | .drainNackDatagram now =>
    let (datagram, s) := s.drainNackDatagram now
    (s, .control datagram)
  | .pruneSplitState now =>
    let (dropped, s) := s.pruneSplitState now
    (s, .count dropped)
  | .forceControlFlushDeadlines now => (s.forceControlFlushDeadlines now, .unit)
  | .setMtu mtu => (s.setMtu mtu, .unit)
  | .transitionTo next =>
    let (moved, s) := s.transitionTo next
    (s, .flag moved)
  | .touchActivity now => (s.touchActivity now, .unit)
  | .markKeepaliveSent now => (s.markKeepaliveSent now, .unit)
  | .takeBackpressureDisconnect =>
    let (taken, s) := s.takeBackpressureDisconnect
    (s, .flag taken)

end Session

/-- A session as a machine. -/
def sessionMachine (F H : Type) [F64 F] [MinHeap H QueuedFrame QueuedFrame.weight] :
    Machine (Session F H) SessionOp SessionOut :=
  ⟨Session.step⟩

@[simp] theorem sessionMachine_step {F H : Type} [F64 F]
    [MinHeap H QueuedFrame QueuedFrame.weight] (s : Session F H) (op : SessionOp) :
    (sessionMachine F H).step s op = s.step op := rfl

/-- Sessions over exact arithmetic and a sorted queue, for runs on fixed
    inputs. -/
abbrev ConcreteSession := Session ℚ (SortedHeap QueuedFrame QueuedFrame.weight)

abbrev concreteMachine : Machine ConcreteSession SessionOp SessionOut :=
  sessionMachine ℚ (SortedHeap QueuedFrame QueuedFrame.weight)

/-! ## What an output carries -/

namespace SessionOut

/-- The queue entries an operation made. -/
def made : SessionOut → List QueuedFrame
  | .queued _ made => made
  | _ => []

/-- The new data datagrams an operation emitted. -/
def fresh : SessionOut → List Session.BuiltDatagram
  | .built b => b.toList
  | .ticked output => output.fresh
  | _ => []

/-- The datagrams an operation sent again. -/
def resentDatagrams : SessionOut → List Datagram
  | .resent datagrams => datagrams
  | .ticked output => output.resent
  | _ => []

/-- The control datagrams an operation emitted. -/
def controlDatagrams : SessionOut → List Datagram
  | .control datagram => datagram.toList
  | .ticked output => output.control
  | _ => []

/-- The receipts an operation reported. -/
def ackedReceiptIds : SessionOut → List UInt64
  | .progress p => p.ackedReceiptIds
  | _ => []

/-- The data datagrams an operation emitted, sent again or new. -/
def dataDatagrams (o : SessionOut) : List Datagram :=
  o.resentDatagrams ++ o.fresh.map Session.BuiltDatagram.datagram

end SessionOut

end Raknet
