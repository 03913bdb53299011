-- SUMMARY: Which datagrams stay live, what acknowledgements remove, and how sequence numbers are handed out.
import Raknet.Send.Refinement

/-!
# Live datagrams

A datagram that carries a reliable frame is live from the moment it leaves
until an acknowledgement covers its number. Nothing else removes it, as long as
the numbers in use do not come round again.
-/

namespace Raknet

namespace SendView

/-! ## Acknowledgements -/

/-- What acknowledging one number does to the fields that are not counters. -/
theorem ackSequence_fields (acc : SendView × List UInt64) (seq : Sequence24) :
    (ackSequence acc seq).1.queue = acc.1.queue ∧
    (ackSequence acc seq).1.writeIndex = acc.1.writeIndex ∧
    (ackSequence acc seq).1.acks = acc.1.acks ∧
    (ackSequence acc seq).1.live = Function.update acc.1.live seq none := by
  unfold ackSequence
  cases hl : acc.1.live seq with
  | none => exact ⟨rfl, rfl, rfl, (Function.update_eq_self_iff.mpr hl.symm).symm⟩
  | some l => exact ⟨rfl, rfl, rfl, rfl⟩

theorem foldl_ackSequence_fields (seqs : List Sequence24) (acc : SendView × List UInt64) :
    (seqs.foldl ackSequence acc).1.queue = acc.1.queue ∧
    (seqs.foldl ackSequence acc).1.writeIndex = acc.1.writeIndex ∧
    (seqs.foldl ackSequence acc).1.acks = acc.1.acks ∧
    ∀ k, (seqs.foldl ackSequence acc).1.live k = if k ∈ seqs then none else acc.1.live k := by
  induction seqs generalizing acc with
  | nil => exact ⟨rfl, rfl, rfl, fun k => by simp⟩
  | cons seq seqs ih =>
    obtain ⟨hq, hw, ha, hl⟩ := ackSequence_fields acc seq
    obtain ⟨ihq, ihw, iha, ihl⟩ := ih (ackSequence acc seq)
    refine ⟨ihq.trans hq, ihw.trans hw, iha.trans ha, fun k => ?_⟩
    rw [List.foldl_cons, ihl k, hl, Function.update_apply]
    by_cases hk : k = seq <;> simp [hk]

/-- Some range of the list covers `k`. -/
def Covered (ranges : List SequenceRange) (k : Sequence24) : Prop := ∃ r ∈ ranges, r.Covers k

instance (ranges : List SequenceRange) (k : Sequence24) : Decidable (Covered ranges k) :=
  inferInstanceAs (Decidable (∃ r ∈ ranges, r.Covers k))

theorem mem_sequencesOf {ranges : List SequenceRange} {k : Sequence24} :
    k ∈ Session.sequencesOf ranges ↔ Covered ranges k := by
  simp [Session.sequencesOf, Covered, SequenceRange.mem_sequences]

/-- Processing acknowledgements removes the covered numbers and no others. -/
theorem processAcks_live (v : SendView) (k : Sequence24) :
    v.processAcks.1.live k = if Covered v.acks k then none else v.live k := by
  rw [processAcks, (foldl_ackSequence_fields _ _).2.2.2 k]
  simp only [mem_sequencesOf]

theorem processAcks_fields (v : SendView) :
    v.processAcks.1.queue = v.queue ∧ v.processAcks.1.writeIndex = v.writeIndex ∧
    v.processAcks.1.acks = [] :=
  ⟨(foldl_ackSequence_fields _ _).1, (foldl_ackSequence_fields _ _).2.1,
    (foldl_ackSequence_fields _ _).2.2.1⟩

/-! ## Sequence numbers -/

theorem apply_writeIndex (v : SendView) (e : SendEvent) {n : Nat}
    (h : v.writeIndex = Sequence24.new n) :
    (v.apply e).1.writeIndex = Sequence24.new (n + e.emitted.length) := by
  cases e with
  | emit b => simp [apply, emit, h, Sequence24.next_new, SendEvent.emitted]
  | processAcks => exact (processAcks_fields v).2.1.trans h
  | _ => exact h

/-- The next number is the count of the datagrams emitted so far. -/
theorem exec_writeIndex (v : SendView) (es : List SendEvent) {n : Nat}
    (h : v.writeIndex = Sequence24.new n) :
    (sendMachine.exec v es).writeIndex
      = Sequence24.new (n + (es.flatMap SendEvent.emitted).length) := by
  induction es generalizing v n with
  | nil => simpa using h
  | cons e es ih =>
    rw [Machine.exec_cons, sendMachine_step, ih _ (apply_writeIndex v e h), List.flatMap_cons,
      List.length_append, Nat.add_assoc]

/-! ## Persistence -/

/-- The event does not acknowledge `k`. -/
def Spares (k : Sequence24) (v : SendView) (e : SendEvent) : Prop :=
  match e with
  | .processAcks => ¬ Covered v.acks k
  | _ => True

/-- An event that does not acknowledge `k` and does not reuse its number keeps
    what is live under it. -/
theorem apply_live_of_spares {v : SendView} {e : SendEvent} {k : Sequence24}
    (hs : Spares k v e) (hne : ∀ b ∈ e.emitted, b.sequence ≠ k) :
    (v.apply e).1.live k = v.live k := by
  cases e with
  | emit b =>
    have hb : b.sequence ≠ k := hne b (by simp [SendEvent.emitted])
    simp only [apply, emit]
    split
    · exact Function.update_of_ne hb.symm _ _
    · rfl
  | processAcks => rw [apply, processAcks_live, if_neg hs]
  | _ => rfl

/-- New datagrams only touch their own numbers. -/
theorem exec_emit_live {v : SendView} {fresh : List Session.BuiltDatagram} {k : Sequence24}
    (h : ∀ b ∈ fresh, b.sequence ≠ k) :
    (sendMachine.exec v (fresh.map .emit)).live k = v.live k := by
  induction fresh generalizing v with
  | nil => rfl
  | cons b fresh ih =>
    rw [List.map_cons, Machine.exec_cons, sendMachine_step,
      ih fun b' hb' => h b' (List.mem_cons_of_mem _ hb')]
    refine apply_live_of_spares trivial fun b' hb' => ?_
    rw [SendEvent.emitted, List.mem_singleton] at hb'
    exact hb' ▸ h b List.mem_cons_self

/-- What is live stays live through a run that does not acknowledge it, if the
    run does not wrap around to its number. -/
theorem exec_live_of_spares {v : SendView} {es : List SendEvent} {i n : Nat}
    (hw : v.writeIndex = Sequence24.new n) (hi : i < n)
    (hcount : n + (es.flatMap SendEvent.emitted).length ≤ 16777216)
    (hen : sendMachine.AllSteps Enabled v es)
    (hs : sendMachine.AllSteps (Spares (Sequence24.new i)) v es) :
    (sendMachine.exec v es).live (Sequence24.new i) = v.live (Sequence24.new i) := by
  induction es generalizing v n with
  | nil => rfl
  | cons e es ih =>
    obtain ⟨hen₁, hen₂⟩ := hen
    obtain ⟨hs₁, hs₂⟩ := hs
    rw [List.flatMap_cons, List.length_append] at hcount
    rw [Machine.exec_cons, sendMachine_step,
      ih (apply_writeIndex v e hw) (by omega) (by omega) hen₂ hs₂]
    refine apply_live_of_spares hs₁ fun b hb heq => ?_
    cases e with
    | emit b' =>
      rw [SendEvent.emitted, List.mem_singleton] at hb
      subst hb
      have hseq : b.sequence = Sequence24.new n := hen₁.2.2.1.trans hw
      have hval : n % 16777216 = i % 16777216 := by
        simpa using congrArg Sequence24.value (hseq.symm.trans heq)
      simp only [SendEvent.emitted, List.length_singleton] at hcount
      omega
    | _ => cases hb

end SendView

/-! ## Sessions -/

namespace Session

variable {F H : Type} [F64 F] [MinHeap H QueuedFrame QueuedFrame.weight]

/-- The datagram tracked under a number. -/
def trackedDatagram (s : Session F H) (k : Sequence24) : Option Datagram :=
  (s.sentDatagrams.lookup k).map TrackedDatagram.datagram

omit [F64 F] in
theorem trackedDatagram_view (s : Session F H) (k : Sequence24) :
    s.trackedDatagram k = (s.view.live k).map LiveDatagram.datagram := by
  simp only [trackedDatagram, view, Option.map_map]
  rfl

omit [F64 F] in
theorem isSome_live (s : Session F H) (k : Sequence24) :
    (s.view.live k).isSome = (s.sentDatagrams.lookup k).isSome :=
  Option.isSome_map

/-- The operation does not process an acknowledgement that covers `k`. -/
def Spares (k : Sequence24) (s : Session F H) : SessionOp → Prop
  | .processIncomingReceipts _ => ∀ r ∈ s.incomingAcks, ¬ r.Covers k
  | _ => True

instance (k : Sequence24) (s : Session F H) : ∀ op, Decidable (Spares k s op)
  | .processIncomingReceipts _ =>
    inferInstanceAs (Decidable (∀ r ∈ s.incomingAcks, ¬ r.Covers k))
  | .queuePayload .. | .ingestDatagram .. | .processDatagramSequence .. | .handleAckPayload ..
  | .handleNackPayload .. | .collectResendable .. | .buildDataDatagram .. | .onTick ..
  | .drainAckDatagram .. | .drainNackDatagram .. | .pruneSplitState ..
  | .forceControlFlushDeadlines .. | .setMtu .. | .transitionTo .. | .touchActivity ..
  | .markKeepaliveSent .. | .takeBackpressureDisconnect => isTrue trivial

theorem events_spares {k : Sequence24} {s : Session F H} {op : SessionOp} (h : Spares k s op) :
    sendMachine.AllSteps (SendView.Spares k) s.view (events op (s.step op).2) := by
  refine events_allSteps (fun _ _ _ => trivial) (fun _ _ _ => trivial) (fun _ _ => trivial) ?_
  rintro now rfl ⟨r, hr, hc⟩
  exact h r hr hc

theorem runEvents_spares {k : Sequence24} {s : Session F H} {ops : List SessionOp}
    (h : (sessionMachine F H).AllSteps (Spares k) s ops) :
    sendMachine.AllSteps (SendView.Spares k) s.view (runEvents s ops) := by
  induction ops generalizing s with
  | nil => trivial
  | cons op ops ih =>
    rw [runEvents, Machine.allSteps_append, ← (s.step_refines op).2.1]
    exact ⟨events_spares h.1, ih h.2⟩

/-- Cut the events of a run at the emission of a datagram that is not
    acknowledged afterwards. -/
theorem runEvents_cut {s : Session F H} {op : SessionOp} {ops : List SessionOp} {b : BuiltDatagram}
    (hb : b ∈ (s.step op).2.fresh)
    (hs : (sessionMachine F H).AllSteps (Spares b.sequence) (s.step op).1 ops) :
    ∃ pre post, runEvents s (op :: ops) = pre ++ .emit b :: post ∧
      sendMachine.AllSteps (SendView.Spares b.sequence)
        ((sendMachine.exec s.view pre).emit b) post := by
  -- Processing acknowledgements emits nothing, so the operation spares `b`.
  have hop : Spares b.sequence s op := by
    cases op with
    | processIncomingReceipts now => cases hb
    | _ => trivial
  rw [← (s.events_outputs op).1] at hb
  obtain ⟨pre, post, hev⟩ := SendEvent.mem_flatMap_emitted hb
  refine ⟨pre, post ++ runEvents (s.step op).1 ops, by simp [runEvents, hev], ?_⟩
  have hpost : sendMachine.exec ((sendMachine.exec s.view pre).emit b) post
      = (s.step op).1.view := by
    rw [(s.step_refines op).2.1, hev, Machine.exec_append]
    rfl
  rw [Machine.allSteps_append, hpost]
  refine ⟨?_, runEvents_spares hs⟩
  have hsame := events_spares hop
  rw [hev, Machine.allSteps_append, Machine.allSteps_cons] at hsame
  exact hsame.2.2

/-- A datagram with a reliable frame is live from the operation that emits it
    on, as long as no acknowledgement covers it and its number is not reused. -/
theorem emitted_live {s : Session F H} {op : SessionOp} {ops : List SessionOp} {b : BuiltDatagram}
    {n : Nat} (hw : s.view.writeIndex = Sequence24.new n) (hb : b ∈ (s.step op).2.fresh)
    (hrel : b.datagram.anyFrame Reliability.isReliable = true)
    (hcount : n + (((sessionMachine F H).outputs s (op :: ops)).flatMap SessionOut.fresh).length
      ≤ 16777216)
    (hs : (sessionMachine F H).AllSteps (Spares b.sequence) (s.step op).1 ops) :
    ((sessionMachine F H).exec s (op :: ops)).view.live b.sequence = some b.live := by
  obtain ⟨hall, hview, -, hfresh, -⟩ := run_refines s (op :: ops)
  obtain ⟨pre, post, hrun, hspares⟩ := runEvents_cut hb hs
  rw [hview]
  rw [hfresh] at hcount
  rw [hrun] at hall hcount ⊢
  rw [Machine.allSteps_append, Machine.allSteps_cons] at hall
  obtain ⟨-, hen, hallRest⟩ := hall
  set v := sendMachine.exec s.view pre with hv
  have hw' := SendView.exec_writeIndex s.view pre hw
  rw [← hv] at hw'
  have hseq : b.sequence = Sequence24.new (n + (pre.flatMap SendEvent.emitted).length) :=
    hen.2.2.1.trans hw'
  have htracked : b.tracked = true := by
    rw [anyFrame_isReliable hen.2.2.2] at hrel
    simp [BuiltDatagram.tracked, hrel]
  have hlive : (v.emit b).live b.sequence = some b.live := by simp [SendView.emit, htracked]
  rw [Machine.exec_append, Machine.exec_cons, ← hv, sendMachine_step]
  simp only [List.flatMap_append, List.flatMap_cons, List.length_append, SendEvent.emitted,
    List.length_singleton] at hcount
  rw [← hlive, hseq]
  rw [hseq] at hspares
  refine SendView.exec_live_of_spares (SendView.apply_writeIndex v (.emit b) hw')
    (by simp [SendEvent.emitted]) ?_ hallRest hspares
  simp only [SendEvent.emitted, List.length_singleton]
  omega

/-- A run that emits fewer than half the numbers keeps every datagram with a
    reliable frame under its number, unchanged, until acknowledgements that
    cover it are processed. Processing removes the covered datagrams and no
    others; negative acknowledgements and resends change none. -/
theorem unacknowledged_stays_tracked (mtu : Nat) (tunables : SessionTunables F)
    (start : Instant) :
    (∀ (before : List SessionOp) (op : SessionOp) (after : List SessionOp) (b : BuiltDatagram),
      (((sessionMachine F H).outputs (withTunables mtu tunables start)
        (before ++ op :: after)).flatMap SessionOut.fresh).length < 8388608 →
      b ∈ (((sessionMachine F H).exec (withTunables mtu tunables start) before).step op).2.fresh →
      b.datagram.anyFrame Reliability.isReliable = true →
      (sessionMachine F H).AllSteps (Spares b.sequence)
        (((sessionMachine F H).exec (withTunables mtu tunables start) before).step op).1 after →
      ((sessionMachine F H).exec (withTunables mtu tunables start)
        (before ++ op :: after)).trackedDatagram b.sequence = some b.datagram) ∧
    (∀ (s : Session F H) (now : Instant) (k : Sequence24),
      (s.processIncomingReceipts now).2.trackedDatagram k
        = if ∃ r ∈ s.incomingAcks, r.Covers k then none else s.trackedDatagram k) ∧
    (∀ (s : Session F H) (payload : AckNackPayload) (k : Sequence24),
      (s.handleNackPayload payload).trackedDatagram k = s.trackedDatagram k) ∧
    (∀ (s : Session F H) (now : Instant) (maxCount maxBytes : Nat) (k : Sequence24),
      (s.collectResendable now maxCount maxBytes).2.trackedDatagram k = s.trackedDatagram k) ∧
    (∀ (s : Session F H) (now : Instant) (maxNew maxNewBytes maxResend maxResendBytes : Nat)
      (k : Sequence24),
      (∀ b ∈ (s.onTick now maxNew maxNewBytes maxResend maxResendBytes).1.fresh,
        b.sequence ≠ k) →
      (s.onTick now maxNew maxNewBytes maxResend maxResendBytes).2.trackedDatagram k
        = s.trackedDatagram k) := by
  refine ⟨?_, ?_, fun s payload k => rfl, ?_, ?_⟩
  · intro before op after b hcount hb hrel hs
    obtain ⟨-, hview, -, hfresh, -⟩ :=
      run_refines (withTunables mtu tunables start : Session F H) before
    rw [Machine.outputs_append, List.flatMap_append, List.length_append, hfresh] at hcount
    have hw : ((sessionMachine F H).exec (withTunables mtu tunables start) before).view.writeIndex
        = Sequence24.new (0 + ((runEvents (withTunables mtu tunables start : Session F H)
            before).flatMap SendEvent.emitted).length) := by
      rw [hview]
      exact SendView.exec_writeIndex _ _ (congrArg _ (view_withTunables mtu tunables start))
    rw [Machine.exec_append, trackedDatagram_view, emitted_live hw hb hrel (by omega) hs]
    rfl
  · intro s now k
    have h : (s.processIncomingReceipts now).2.view = s.view.processAcks.1 :=
      congrArg Prod.fst (s.processIncomingReceipts_view now)
    rw [trackedDatagram_view, h, SendView.processAcks_live]
    by_cases hc : ∃ r ∈ s.incomingAcks, r.Covers k
    · rw [if_pos hc, if_pos (show SendView.Covered s.view.acks k from hc)]
      rfl
    · rw [if_neg hc, if_neg (show ¬ SendView.Covered s.view.acks k from hc),
        trackedDatagram_view]
  · intro s now maxCount maxBytes k
    rw [trackedDatagram_view, (s.collectResendable_view now maxCount maxBytes).1,
      trackedDatagram_view]
  · intro s now maxNew maxNewBytes maxResend maxResendBytes k hk
    rw [trackedDatagram_view, trackedDatagram_view,
      (s.onTick_view now maxNew maxNewBytes maxResend maxResendBytes).2.1]
    congr 1
    exact SendView.exec_emit_live hk

/-- The datagram of a session that queues the byte `1` and ticks. -/
def oneByteDatagram : BuiltDatagram :=
  let frame : Frame :=
    { header := FrameHeader.new .reliable false false
      bitLength := 8
      reliableIndex := some (Sequence24.new 0)
      sequenceIndex := none
      orderingIndex := none
      orderingChannel := none
      split := none
      payload := [1] }
  { datagram :=
      { header := ⟨DatagramFlags.valid ||| DatagramFlags.hasBAndAs, Sequence24.new 0⟩
        payload := .frames [frame] }
    queued :=
      [{ weight := 3, encodedSize := 7, isReliable := true, priority := .high, receiptId := none
         frame, encodedSize_eq := by decide, isReliable_eq := rfl }] }

/-- The one-byte datagram is still tracked after an acknowledgement of another
    number, a negative acknowledgement of its own, and its resend. -/
theorem unacknowledged_stays_tracked_after_nack :
    (concreteMachine.exec (withTunables 100 SessionTunables.standard 0)
      ([.queuePayload [1] .reliable 0 .high none] ++ .onTick 1 1 1000 0 0 ::
        [.handleAckPayload ⟨[⟨Sequence24.new 5, Sequence24.new 7⟩]⟩,
          .handleNackPayload ⟨[⟨Sequence24.new 0, Sequence24.new 0⟩]⟩,
          .processIncomingReceipts 2, .collectResendable 2 5 1000])).trackedDatagram
      (Sequence24.new 0) = some oneByteDatagram.datagram :=
  (unacknowledged_stays_tracked (F := ℚ) (H := SortedHeap QueuedFrame QueuedFrame.weight)
      100 SessionTunables.standard 0).1
    [.queuePayload [1] .reliable 0 .high none] (.onTick 1 1 1000 0 0)
    [.handleAckPayload ⟨[⟨Sequence24.new 5, Sequence24.new 7⟩]⟩,
      .handleNackPayload ⟨[⟨Sequence24.new 0, Sequence24.new 0⟩]⟩,
      .processIncomingReceipts 2, .collectResendable 2 5 1000] oneByteDatagram
    (by decide +kernel) (by decide +kernel) (by decide +kernel) (by decide +kernel)

end Session

end Raknet
