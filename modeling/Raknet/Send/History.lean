-- SUMMARY: What a run has sent: entries are conserved, and every data datagram is a copy of one that was built.
import Raknet.Send.Tracking

namespace Raknet

namespace SendView

/-! ## Conservation of entries -/

theorem apply_queue {v : SendView} {e : SendEvent} (h : v.Enabled e) :
    (v.apply e).1.queue + (e.emitted.flatMap Session.BuiltDatagram.queued : Multiset QueuedFrame)
      = v.queue + (e.made : Multiset QueuedFrame) := by
  cases e with
  | enqueue q =>
    simp only [apply, enqueue, SendEvent.emitted, SendEvent.made, List.flatMap_nil,
      Multiset.coe_nil, add_zero, Multiset.coe_singleton, ← Multiset.singleton_add]
    exact add_comm _ _
  | emit b =>
    simpa [apply, emit, SendEvent.emitted, SendEvent.made] using tsub_add_cancel_of_le h.2.1
  | receiveAcks ranges => simp [apply, SendEvent.emitted, SendEvent.made]
  | processAcks => simp [apply, SendEvent.emitted, SendEvent.made, (processAcks_fields v).1]

/-- Every entry that was queued is still there or left in a datagram. -/
theorem exec_queue {v : SendView} {es : List SendEvent} (h : sendMachine.AllSteps Enabled v es) :
    (sendMachine.exec v es).queue
        + ((es.flatMap SendEvent.emitted).flatMap Session.BuiltDatagram.queued :
            Multiset QueuedFrame)
      = v.queue + (es.flatMap SendEvent.made : Multiset QueuedFrame) := by
  induction es generalizing v with
  | nil => rfl
  | cons e es ih =>
    have hstep := apply_queue h.1
    have hrest := ih h.2
    simp only [List.flatMap_cons, List.flatMap_append, ← Multiset.coe_add, Machine.exec_cons,
      sendMachine_step] at hrest ⊢
    rw [add_left_comm, hrest, ← add_assoc, add_comm (Multiset.ofList _), hstep, add_assoc]

/-! ## Live datagrams were emitted -/

theorem apply_live_emitted {v : SendView} {e : SendEvent} {k : Sequence24} {l : LiveDatagram}
    (h : (v.apply e).1.live k = some l) :
    v.live k = some l ∨ ∃ b ∈ e.emitted, b.live = l := by
  cases e with
  | emit b =>
    simp only [apply, emit] at h
    split at h
    · rw [Function.update_apply] at h
      split at h
      · exact .inr ⟨b, List.mem_singleton_self b, Option.some.inj h⟩
      · exact .inl h
    · exact .inl h
  | processAcks =>
    rw [apply, processAcks_live] at h
    split at h
    · cases h
    · exact .inl h
  | _ => exact .inl h

theorem exec_live_emitted {v : SendView} {es : List SendEvent} {k : Sequence24} {l : LiveDatagram}
    (h : (sendMachine.exec v es).live k = some l) :
    v.live k = some l ∨ ∃ b ∈ es.flatMap SendEvent.emitted, b.live = l := by
  induction es generalizing v with
  | nil => exact .inl h
  | cons e es ih =>
    rw [List.flatMap_cons]
    rcases ih h with h | ⟨b, hb, rfl⟩
    · rcases apply_live_emitted h with h | ⟨b, hb, rfl⟩
      · exact .inl h
      · exact .inr ⟨b, List.mem_append_left _ hb, rfl⟩
    · exact .inr ⟨b, List.mem_append_right _ hb, rfl⟩

theorem emitted_payload {v : SendView} {es : List SendEvent} {b : Session.BuiltDatagram}
    (h : sendMachine.AllSteps Enabled v es) (hb : b ∈ es.flatMap SendEvent.emitted) :
    b.datagram.payload = .frames (b.queued.map QueuedFrame.frame) := by
  induction es generalizing v with
  | nil => cases hb
  | cons e es ih =>
    rw [List.flatMap_cons, List.mem_append] at hb
    rcases hb with hb | hb
    · cases e with
      | emit b' =>
        rw [SendEvent.emitted, List.mem_singleton] at hb
        exact hb ▸ h.1.2.2.2
      | _ => cases hb
    · exact ih h.2 hb

end SendView

/-! ## Runs of a session -/

namespace Session

variable {F H : Type} [F64 F] [MinHeap H QueuedFrame QueuedFrame.weight]

/-- The entries a run made are queued or left in a new datagram. -/
theorem entries_conserved (mtu : Nat) (tunables : SessionTunables F) (start : Instant)
    (ops : List SessionOp) :
    (((sessionMachine F H).exec (withTunables mtu tunables start) ops).queuedFrames
      ++ (((sessionMachine F H).outputs (withTunables mtu tunables start) ops).flatMap
          SessionOut.fresh).flatMap BuiltDatagram.queued).Perm
      (((sessionMachine F H).outputs (withTunables mtu tunables start) ops).flatMap
        SessionOut.made) := by
  obtain ⟨hall, hview, -, hfresh, hmade⟩ :=
    run_refines (withTunables mtu tunables start : Session F H) ops
  have hqueue := SendView.exec_queue hall
  rw [← hview, ← hfresh, ← hmade, view_withTunables, SendView.initial, zero_add] at hqueue
  exact Multiset.coe_eq_coe.mp ((Multiset.coe_add _ _).symm.trans hqueue)

/-- A built datagram carries the frames of its queue entries. -/
theorem fresh_payload {mtu : Nat} {tunables : SessionTunables F} {start : Instant}
    {ops : List SessionOp} {b : BuiltDatagram}
    (hb : b ∈ ((sessionMachine F H).outputs (withTunables mtu tunables start) ops).flatMap
      SessionOut.fresh) : b.datagram.payload = .frames (b.queued.map QueuedFrame.frame) := by
  obtain ⟨hall, -, -, hfresh, -⟩ :=
    run_refines (withTunables mtu tunables start : Session F H) ops
  exact SendView.emitted_payload hall (hfresh ▸ hb)

/-- The frames that accepted payloads became are the frames in the send queue
    and the frames of the new datagrams, counted with multiplicity. -/
theorem send_queue_conserves_frames (mtu : Nat) (tunables : SessionTunables F) (start : Instant)
    (ops : List SessionOp) :
    let s : Session F H := withTunables mtu tunables start
    let outs := (sessionMachine F H).outputs s ops
    (((outs.flatMap SessionOut.made).map QueuedFrame.frame : List Frame) : Multiset Frame)
      = (((sessionMachine F H).exec s ops).queuedFrames.map QueuedFrame.frame : List Frame)
        + ((outs.flatMap SessionOut.fresh).flatMap fun b => b.datagram.framesOf : List Frame) := by
  intro s outs
  have hframes : ((outs.flatMap SessionOut.fresh).flatMap fun b => b.datagram.framesOf)
      = ((outs.flatMap SessionOut.fresh).flatMap BuiltDatagram.queued).map QueuedFrame.frame := by
    rw [List.map_flatMap]
    refine List.flatMap_congr fun b hb => ?_
    rw [Datagram.framesOf, fresh_payload hb]
  have hperm := (entries_conserved mtu tunables start ops :
    (((sessionMachine F H).exec s ops).queuedFrames ++ _).Perm _).map QueuedFrame.frame
  rw [List.map_append, ← hframes] at hperm
  rw [Multiset.coe_add]
  exact (Multiset.coe_eq_coe.mpr hperm).symm

/-- Every data datagram of a run, sent again or new, is a copy of one that was
    built from queue entries. -/
theorem dataDatagram_built {mtu : Nat} {tunables : SessionTunables F} {start : Instant}
    {ops : List SessionOp} {d : Datagram}
    (h : d ∈ ((sessionMachine F H).outputs (withTunables mtu tunables start) ops).flatMap
      SessionOut.dataDatagrams) :
    ∃ b ∈ ((sessionMachine F H).outputs (withTunables mtu tunables start) ops).flatMap
        SessionOut.fresh,
      b.datagram = d ∧ d.payload = .frames (b.queued.map QueuedFrame.frame) := by
  suffices hb : ∃ b ∈ ((sessionMachine F H).outputs (withTunables mtu tunables start) ops).flatMap
      SessionOut.fresh, b.datagram = d by
    obtain ⟨b, hb, rfl⟩ := hb
    exact ⟨b, hb, rfl, fresh_payload hb⟩
  induction ops using List.reverseRecOn with
  | nil => cases h
  | append_singleton ops op ih =>
    rw [Machine.outputs_append, List.flatMap_append, List.mem_append] at h
    simp only [Machine.outputs_append, List.flatMap_append, List.mem_append]
    rcases h with h | h
    · obtain ⟨b, hb, hd⟩ := ih h
      exact ⟨b, .inl hb, hd⟩
    · simp only [Machine.outputs_cons, Machine.outputs_nil, List.flatMap_cons, List.flatMap_nil,
        List.append_nil, sessionMachine_step, SessionOut.dataDatagrams, List.mem_append,
        List.mem_map] at h ⊢
      rcases h with h | ⟨b, hb, hd⟩
      · -- A datagram sent again is live, so it was emitted before.
        obtain ⟨seq, l, hl, hd⟩ := step_resent _ op h
        obtain ⟨-, hview, -, hfresh, -⟩ :=
          run_refines (withTunables mtu tunables start : Session F H) ops
        rw [hview, view_withTunables] at hl
        rcases SendView.exec_live_emitted hl with hl | ⟨b, hb, rfl⟩
        · cases hl
        · rw [hfresh]
          exact ⟨b, .inl hb, hd⟩
      · exact ⟨b, .inr hb, hd⟩

end Session

end Raknet
