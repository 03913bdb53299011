-- SUMMARY: The sender in the abstract: a bag of queued entries, the live datagrams, and the receipt counters.
import Mathlib.Algebra.Order.Group.Multiset
import Raknet.Lib.Machine
import Raknet.Session.Tick

/-!
# The abstract sender

What the send side of a session is for, without weights, budgets, timers and
congestion control: entries wait in a bag, leave it inside datagrams, and a
datagram that needs an acknowledgement is live under its sequence number until
one arrives. A receipt has a counter of the live datagrams that carry it.
-/

namespace Raknet

/-- What is remembered of a live datagram, apart from its timers. -/
structure LiveDatagram where
  datagram : Datagram
  resendable : Bool
  receiptIds : List UInt64

@[ext]
structure SendView where
  queue : Multiset QueuedFrame
  writeIndex : Sequence24
  live : Sequence24 → Option LiveDatagram
  counters : UInt64 → Option Nat
  acks : List SequenceRange

inductive SendEvent where
  /-- An entry joins the queue. -/
  | enqueue (entry : QueuedFrame)
  /-- A new datagram leaves. -/
  | emit (built : Session.BuiltDatagram)
  /-- Acknowledged ranges arrive from the peer. -/
  | receiveAcks (ranges : List SequenceRange)
  /-- The ranges that arrived are applied. -/
  | processAcks

namespace SendEvent

/-- The datagram an event emits. -/
def emitted : SendEvent → List Session.BuiltDatagram
  | .emit b => [b]
  | _ => []

/-- The entry an event adds to the queue. -/
def made : SendEvent → List QueuedFrame
  | .enqueue entry => [entry]
  | _ => []

@[simp] theorem flatMap_emitted_emit (fresh : List Session.BuiltDatagram) :
    (fresh.map emit).flatMap emitted = fresh := by
  induction fresh with
  | nil => rfl
  | cons b fresh ih => simp [emitted, ih]

@[simp] theorem flatMap_emitted_enqueue (made : List QueuedFrame) :
    (made.map enqueue).flatMap emitted = [] := by
  induction made with
  | nil => rfl
  | cons q made ih => simp [emitted, ih]

@[simp] theorem flatMap_made_emit (fresh : List Session.BuiltDatagram) :
    (fresh.map emit).flatMap made = [] := by
  induction fresh with
  | nil => rfl
  | cons b fresh ih => simp [made, ih]

@[simp] theorem flatMap_made_enqueue (entries : List QueuedFrame) :
    (entries.map enqueue).flatMap made = entries := by
  induction entries with
  | nil => rfl
  | cons q entries ih => simp [made, ih]

theorem mem_flatMap_emitted {es : List SendEvent} {b : Session.BuiltDatagram}
    (h : b ∈ es.flatMap emitted) : ∃ pre post, es = pre ++ .emit b :: post := by
  obtain ⟨e, he, hb⟩ := List.mem_flatMap.mp h
  cases e with
  | emit b' =>
    rw [emitted, List.mem_singleton] at hb
    exact List.append_of_mem (hb ▸ he)
  | _ => cases hb

end SendEvent

namespace Session.BuiltDatagram

def sequence (b : BuiltDatagram) : Sequence24 := b.datagram.header.sequence

def hasReliable (b : BuiltDatagram) : Bool := b.queued.any QueuedFrame.isReliable

/-- The receipts of the carried entries, each once. -/
def receiptIds (b : BuiltDatagram) : List UInt64 := (Packing.mk b.queued 0 0).receiptIds

theorem mem_receiptIds {b : BuiltDatagram} {id : UInt64} :
    id ∈ b.receiptIds ↔ ∃ q ∈ b.queued, q.receiptId = some id := by
  simp [receiptIds, Packing.receiptIds, Packing.mem_foldl_addReceipt]

theorem nodup_receiptIds (b : BuiltDatagram) : b.receiptIds.Nodup :=
  Packing.nodup_foldl_addReceipt List.nodup_nil

/-- The datagram is kept until it is acknowledged. -/
def tracked (b : BuiltDatagram) : Bool := b.hasReliable || !b.receiptIds.isEmpty

def live (b : BuiltDatagram) : LiveDatagram := ⟨b.datagram, b.hasReliable, b.receiptIds⟩

end Session.BuiltDatagram

namespace SendView

/-- One more live datagram carries the receipt. -/
def countReceipt (counters : UInt64 → Option Nat) (id : UInt64) : UInt64 → Option Nat :=
  Function.update counters id (some ((counters id).getD 0 + 1))

def enqueue (v : SendView) (entry : QueuedFrame) : SendView :=
  { v with queue := entry ::ₘ v.queue }

def emit (v : SendView) (b : Session.BuiltDatagram) : SendView :=
  { v with
    queue := v.queue - b.queued
    writeIndex := v.writeIndex.next
    live := if b.tracked then Function.update v.live b.sequence (some b.live) else v.live
    counters := if b.tracked then b.receiptIds.foldl countReceipt v.counters else v.counters }

/-- One live datagram of the receipt is acknowledged. -/
def ackReceipt (acc : (UInt64 → Option Nat) × List UInt64) (id : UInt64) :
    (UInt64 → Option Nat) × List UInt64 :=
  match acc.1 id with
  | none => acc
  | some pending =>
    if pending > 1 then (Function.update acc.1 id (some (pending - 1)), acc.2)
    else (Function.update acc.1 id none, acc.2 ++ [id])

/-- One sequence number is acknowledged; the list collects the receipts that
    are complete. -/
def ackSequence (acc : SendView × List UInt64) (seq : Sequence24) : SendView × List UInt64 :=
  match acc.1.live seq with
  | none => acc
  | some l =>
    let (counters, reported) := l.receiptIds.foldl ackReceipt (acc.1.counters, acc.2)
    ({ acc.1 with live := Function.update acc.1.live seq none, counters }, reported)

def processAcks (v : SendView) : SendView × List UInt64 :=
  (Session.sequencesOf v.acks).foldl ackSequence ({ v with acks := [] }, [])

/-- The transition of an event, with the receipts it reports. -/
def apply (v : SendView) : SendEvent → SendView × List UInt64
  | .enqueue entry => (v.enqueue entry, [])
  | .emit b => (v.emit b, [])
  | .receiveAcks ranges => ({ v with acks := v.acks ++ ranges }, [])
  | .processAcks => v.processAcks

/-- A datagram can leave when it carries entries of the queue and the next
    sequence number. -/
def Enabled (v : SendView) : SendEvent → Prop
  | .emit b => b.queued ≠ [] ∧ (b.queued : Multiset QueuedFrame) ≤ v.queue ∧
      b.sequence = v.writeIndex ∧
      b.datagram.payload = .frames (b.queued.map QueuedFrame.frame)
  | _ => True

/-- The fresh sender. -/
def initial : SendView :=
  { queue := 0, writeIndex := Sequence24.new 0, live := fun _ => none, counters := fun _ => none
    acks := [] }

end SendView

/-- The abstract sender as a machine; its outputs are the reported receipts. -/
def sendMachine : Machine SendView SendEvent (List UInt64) := ⟨SendView.apply⟩

@[simp] theorem sendMachine_step (v : SendView) (e : SendEvent) :
    sendMachine.step v e = v.apply e := rfl

namespace SendView

/-- Queueing and emitting report no receipt. -/
theorem reported_enqueue (v : SendView) (made : List QueuedFrame) :
    (sendMachine.outputs v (made.map .enqueue)).flatten = [] := by
  induction made generalizing v with
  | nil => rfl
  | cons q made ih => exact ih _

theorem reported_emit (v : SendView) (fresh : List Session.BuiltDatagram) :
    (sendMachine.outputs v (fresh.map .emit)).flatten = [] := by
  induction fresh generalizing v with
  | nil => rfl
  | cons b fresh ih => exact ih _

end SendView

end Raknet
