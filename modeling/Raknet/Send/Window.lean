-- SUMMARY: When the congestion window can be held shut, and by which datagrams.
import Raknet.Send.Tracking

/-!
# The congestion window

The window counts every live datagram. One that is live only for the receipt of
an unreliable payload is never sent again, so if its acknowledgement is lost it
counts for ever; enough of them shut the window for good. Payloads with a
receipt that travel in a reliable class do not have this effect.
-/

namespace Raknet

namespace SendView

/-- Whatever carries a receipt is reliable, in the queue and among the live
    datagrams. -/
structure ReceiptsReliable (v : SendView) : Prop where
  queue : ∀ q ∈ v.queue, q.receiptId.isSome = true → q.isReliable = true
  live : ∀ k l, v.live k = some l → l.resendable = true

/-- The event queues no unreliable entry with a receipt. -/
def QueuesReliableReceipt (_ : SendView) : SendEvent → Prop
  | .enqueue q => q.receiptId.isSome = true → q.isReliable = true
  | _ => True

theorem initial_receiptsReliable : initial.ReceiptsReliable :=
  ⟨fun _ h => absurd h (Multiset.notMem_zero _), fun _ _ h => by cases h⟩

/-- A tracked datagram whose receipts are all of reliable entries has a
    reliable frame. -/
theorem hasReliable_of_tracked {b : Session.BuiltDatagram}
    (h : ∀ q ∈ b.queued, q.receiptId.isSome = true → q.isReliable = true)
    (ht : b.tracked = true) : b.hasReliable = true := by
  simp only [Session.BuiltDatagram.tracked, Bool.or_eq_true, Bool.not_eq_true',
    List.isEmpty_eq_false_iff_exists_mem] at ht
  rcases ht with h' | ⟨id, hid⟩
  · exact h'
  · obtain ⟨q, hq, hqid⟩ := Session.BuiltDatagram.mem_receiptIds.mp hid
    exact List.any_eq_true.mpr ⟨q, hq, h q hq (by simp [hqid])⟩

theorem apply_receiptsReliable {v : SendView} {e : SendEvent} (hv : v.ReceiptsReliable)
    (hen : v.Enabled e) (he : QueuesReliableReceipt v e) : (v.apply e).1.ReceiptsReliable := by
  cases e with
  | enqueue q =>
    refine ⟨fun q' hq' => ?_, hv.live⟩
    rcases Multiset.mem_cons.mp hq' with rfl | hq'
    · exact he
    · exact hv.queue q' hq'
  | emit b =>
    refine ⟨fun q hq => hv.queue q (Multiset.mem_of_le (Multiset.sub_le_self _ _) hq), ?_⟩
    intro k l hl
    simp only [apply, emit] at hl
    split at hl
    · next ht =>
      rw [Function.update_apply] at hl
      split at hl
      · obtain rfl := Option.some.inj hl
        refine hasReliable_of_tracked (fun q hq => hv.queue q ?_) ht
        exact Multiset.mem_of_le hen.2.1 (Multiset.mem_coe.mpr hq)
      · exact hv.live k l hl
    · exact hv.live k l hl
  | receiveAcks ranges => exact ⟨hv.queue, hv.live⟩
  | processAcks =>
    refine ⟨fun q hq => hv.queue q ((processAcks_fields v).1 ▸ hq), fun k l hl => ?_⟩
    rw [apply, processAcks_live] at hl
    split at hl
    · cases hl
    · exact hv.live k l hl

end SendView

namespace Session

variable {F H : Type} [F64 F] [MinHeap H QueuedFrame QueuedFrame.weight]

/-- A payload with a receipt travels in a reliable class: by its own, or
    because it is split. -/
def ReceiptIsReliable (s : Session F H) : SessionOp → Prop
  | .queuePayload payload reliability _ _ receiptId =>
    receiptId = none ∨ reliability.isReliable = true ∨
      s.maxPayloadFor reliability false < payload.length
  | _ => True

instance (s : Session F H) : ∀ op, Decidable (ReceiptIsReliable s op)
  | .queuePayload payload reliability _ _ receiptId =>
    inferInstanceAs (Decidable (receiptId = none ∨ reliability.isReliable = true ∨
      s.maxPayloadFor reliability false < payload.length))
  | .ingestDatagram .. | .processDatagramSequence .. | .handleAckPayload ..
  | .handleNackPayload .. | .processIncomingReceipts .. | .collectResendable ..
  | .buildDataDatagram .. | .onTick .. | .drainAckDatagram .. | .drainNackDatagram ..
  | .pruneSplitState .. | .forceControlFlushDeadlines .. | .setMtu .. | .transitionTo ..
  | .touchActivity .. | .markKeepaliveSent .. | .takeBackpressureDisconnect => isTrue trivial

theorem events_queuesReliableReceipt {s : Session F H} {op : SessionOp}
    (h : ReceiptIsReliable s op) :
    sendMachine.AllSteps SendView.QueuesReliableReceipt s.view (events op (s.step op).2) := by
  refine events_allSteps ?_ (fun _ _ _ => trivial) (fun _ _ => trivial) fun _ _ => trivial
  intro q hq v
  cases op with
  | queuePayload payload reliability channel priority receiptId =>
    obtain ⟨hid, hrel⟩ := mem_queuePayloadWithReceipt hq
    rintro hsome
    rcases h with rfl | h
    · rw [hid] at hsome
      cases hsome
    · exact hrel h
  | _ => cases hq

theorem step_receiptsReliable {s : Session F H} {op : SessionOp}
    (hs : s.view.ReceiptsReliable) (h : ReceiptIsReliable s op) :
    (s.step op).1.view.ReceiptsReliable := by
  obtain ⟨hen, hview, -⟩ := s.step_refines op
  rw [hview]
  exact sendMachine.run_invariant_of_steps (P := fun _ _ v => v.ReceiptsReliable) hs
    (fun _ _ v e hv he => SendView.apply_receiptsReliable hv he.1 he.2) _
    (sendMachine.allSteps_and hen (events_queuesReliableReceipt h))

/-- If every payload with a receipt travels in a reliable class, then a shut
    window is held by a datagram that will be sent again. -/
theorem shut_window_has_resendable (mtu : Nat) (tunables : SessionTunables F) (start : Instant)
    (ops : List SessionOp)
    (h : (sessionMachine F H).AllSteps ReceiptIsReliable (withTunables mtu tunables start) ops)
    (hshut : ((sessionMachine F H).exec (withTunables mtu tunables start)
      ops).canEmitNewReliableDatagram = false) :
    ∃ k t, ((sessionMachine F H).exec (withTunables mtu tunables start)
      ops).sentDatagrams.lookup k = some t ∧ t.resendable = true := by
  have hinv := (sessionMachine F H).run_invariant_of_steps
    (P := fun _ _ s => s.view.ReceiptsReliable)
    (view_withTunables (H := H) mtu tunables start ▸ SendView.initial_receiptsReliable)
    (fun _ _ _ _ hs hop => step_receiptsReliable hs hop) ops h
  set s := (sessionMachine F H).exec (withTunables mtu tunables start) ops
  have hpos : 0 < s.sentDatagrams.size := by
    rw [Nat.pos_iff_ne_zero]
    intro hzero
    rw [canEmitNewReliableDatagram, hzero, Congestion.windowOpen_zero] at hshut
    cases hshut
  obtain ⟨k, t, hk⟩ := AssocMap.exists_lookup_of_size_pos hpos
  exact ⟨k, t, hk, hinv.live k t.live (by simp [view, hk])⟩

/-- `n` one-byte payloads with a receipt each, every one sent in a datagram of
    its own and none acknowledged. -/
def lostReceipts (reliability : Reliability) (n : Nat) : List SessionOp :=
  (List.range n).flatMap fun i =>
    [.queuePayload [1] reliability 0 .high (some (UInt64.ofNat i)), .buildDataDatagram 0 1400]

/-- Under the default tunables 64 lost reliable datagrams shut the window; they
    are there to be sent again. -/
theorem shut_window_has_resendable_lost :
    ∃ k t, (concreteMachine.exec (withTunables 1400 SessionTunables.standard 0)
      (lostReceipts .reliableWithAckReceipt 64)).sentDatagrams.lookup k = some t ∧
      t.resendable = true :=
  shut_window_has_resendable (F := ℚ) (H := SortedHeap QueuedFrame QueuedFrame.weight)
    1400 SessionTunables.standard 0 (lostReceipts .reliableWithAckReceipt 64)
    (by decide +kernel) (by decide +kernel)

/-- Under the default tunables 64 lost unreliable datagrams with receipts shut
    the window, and none of them will ever be sent again. -/
theorem window_shut_by_unreliable_receipts :
    (concreteMachine.exec (withTunables 1400 SessionTunables.standard 0)
      (lostReceipts .unreliableWithAckReceipt 64)).canEmitNewReliableDatagram = false ∧
    ∀ e ∈ (concreteMachine.exec (withTunables 1400 SessionTunables.standard 0)
      (lostReceipts .unreliableWithAckReceipt 64)).sentDatagrams.entries,
      e.2.resendable = false := by
  decide +kernel

end Session

end Raknet
