-- SUMMARY: When reliable payloads are delivered exactly once.
import Raknet.Receive.SeenSet
import Raknet.Send.Allocation
import Raknet.Send.History

/-!
# Exactly-once delivery

A sender queues reliable payloads of one frame each, and a receiver ingests
copies of the sender's data datagrams, each at least once, in any order. The
duplicate filter of the receiver is exact as long as an index that fills the
lowest gap is new and fills the only gap. The delivered frames are then the
emitted ones, each once.

The condition is needed: an index behind the base is never recognised again,
and recording the base index in front of another gap shifts the flags.
-/

namespace Raknet

/-- The arrivals so far, as a machine. -/
def arrivals : Machine (List Nat) Nat Unit := ⟨fun seen r => (seen ++ [r], ())⟩

theorem exec_arrivals (seen rs : List Nat) : arrivals.exec seen rs = seen ++ rs := by
  induction rs generalizing seen with
  | nil => exact (List.append_nil seen).symm
  | cons r rs ih =>
    rw [Machine.exec_cons, ih]
    simp [arrivals]

/-! ## The sender -/

variable {F H : Type}

/-- Unsplit reliable frames, numbered from 0 by their reliable index. -/
def Numbered (frames : List Frame) : Prop :=
  ∀ i frame, frames[i]? = some frame →
    frame.header = FrameHeader.new .reliable false false ∧
    frame.reliableIndex = some (Sequence24.new i)

theorem Numbered.concat {frames : List Frame} (h : Numbered frames) {frame : Frame}
    (hheader : frame.header = FrameHeader.new .reliable false false)
    (hindex : frame.reliableIndex = some (Sequence24.new frames.length)) :
    Numbered (frames ++ [frame]) := by
  intro i f hf
  rcases Nat.lt_or_ge i frames.length with hlt | hge
  · rw [List.getElem?_append_left hlt] at hf
    exact h i f hf
  · obtain ⟨rfl, rfl⟩ : i = frames.length ∧ f = frame := by
      rw [List.getElem?_append_right hge] at hf
      obtain ⟨hi, hget⟩ := List.getElem?_eq_some_iff.mp hf
      rw [List.length_singleton] at hi
      have hzero : i - frames.length = 0 := by omega
      simp only [hzero, List.getElem_cons_zero] at hget
      exact ⟨by omega, hget.symm⟩
    exact ⟨hheader, hindex⟩

/-- Numbered frames differ, as long as their numbers do not wrap. -/
theorem Numbered.nodup {frames : List Frame} (h : Numbered frames)
    (hlength : frames.length ≤ 16777216) : frames.Nodup := by
  rw [List.nodup_iff_injective_getElem]
  rintro ⟨i, hi⟩ ⟨j, hj⟩ heq
  obtain ⟨-, hindexI⟩ := h i _ (List.getElem?_eq_getElem hi)
  obtain ⟨-, hindexJ⟩ := h j _ (List.getElem?_eq_getElem hj)
  dsimp only at heq
  rw [heq, hindexJ] at hindexI
  have hvalue := congrArg Sequence24.value (Option.some.inj hindexI)
  simp only [Sequence24.value_new] at hvalue
  apply Fin.ext
  dsimp only
  omega

namespace Session

/-- A payload that is queued is reliable and fits in one frame. -/
def QueuesReliable (s : Session F H) : SessionOp → Prop
  | .queuePayload payload reliability _ _ _ =>
    reliability = .reliable ∧ payload.length ≤ s.maxPayloadFor .reliable false
  | _ => True

instance (s : Session F H) : ∀ op, Decidable (s.QueuesReliable op)
  | .queuePayload payload reliability _ _ _ =>
    inferInstanceAs (Decidable (reliability = .reliable ∧
      payload.length ≤ s.maxPayloadFor .reliable false))
  | .ingestDatagram .. | .processDatagramSequence .. | .handleAckPayload ..
  | .handleNackPayload .. | .processIncomingReceipts .. | .collectResendable ..
  | .buildDataDatagram .. | .onTick .. | .drainAckDatagram .. | .drainNackDatagram ..
  | .pruneSplitState .. | .forceControlFlushDeadlines .. | .setMtu .. | .transitionTo ..
  | .touchActivity .. | .markKeepaliveSent .. | .takeBackpressureDisconnect => isTrue trivial

variable [F64 F] [MinHeap H QueuedFrame QueuedFrame.weight]

/-- The frames of reliable one-frame payloads are numbered in the order of
    queueing. -/
theorem madeFrames_numbered (mtu : Nat) (tunables : SessionTunables F) (start : Instant)
    {ops : List SessionOp}
    (h : (sessionMachine F H).AllSteps QueuesReliable (withTunables mtu tunables start) ops) :
    Numbered (madeFrames (withTunables mtu tunables start : Session F H) ops) := by
  refine ((sessionMachine F H).run_invariant_of_steps
    (P := fun _ outs s => Numbered ((outs.flatMap SessionOut.made).map QueuedFrame.frame) ∧
      s.writeIndices.reliable
        = Sequence24.new ((outs.flatMap SessionOut.made).map QueuedFrame.frame).length)
    ?_ ?_ ops h).1
  · refine ⟨?_, rfl⟩
    intro i frame hframe
    cases hframe
  · rintro _ outs s op ⟨hnumbered, hnext⟩ hqueues
    rw [List.flatMap_append, List.map_append, List.flatMap_singleton, sessionMachine_step]
    generalize (outs.flatMap SessionOut.made).map QueuedFrame.frame = made at hnumbered hnext ⊢
    rcases s.step_indices op with ⟨payload, reliability, channel, priority, receiptId, rfl⟩ |
      ⟨hnone, hsame⟩
    · obtain ⟨rfl, hfits⟩ := hqueues
      have houtcome := s.queuePayload_outcome payload .reliable channel priority receiptId
      simp only [step, SessionOut.made]
      generalize s.queuePayloadWithReceipt payload .reliable channel priority receiptId = r
        at houtcome ⊢
      obtain ⟨result, queued, s'⟩ := r
      dsimp only at houtcome ⊢
      generalize queued.map QueuedFrame.frame = frames at houtcome ⊢
      generalize s'.writeIndices = after at houtcome ⊢
      cases houtcome with
      | refused _ =>
        rw [List.append_nil]
        exact ⟨hnumbered, hnext⟩
      | single _ _ =>
        refine ⟨hnumbered.concat rfl (congrArg some hnext), ?_⟩
        rw [List.length_append, List.length_singleton, ← Sequence24.next_new, ← hnext]
        rfl
      | split _ hlong => omega
    · rw [hnone, hsame, List.map_nil, List.append_nil]
      exact ⟨hnumbered, hnext⟩

end Session

/-! ## The receiver -/

/-- The frames an operation feeds to the session. -/
def SessionOp.ingestedFrames : SessionOp → List Frame
  | .ingestDatagram d _ => d.framesOf
  | _ => []

/-- The frames an operation hands to the application. -/
def SessionOut.receivedFrames : SessionOut → List Frame
  | .received (.ok frames) => frames
  | _ => []

/-- The reliable indices of frames, as numbers. -/
def reliableNumbers (frames : List Frame) : List Nat :=
  (frames.filterMap Frame.reliableIndex).map Sequence24.value

@[simp] theorem reliableNumbers_append (frames frames' : List Frame) :
    reliableNumbers (frames ++ frames') = reliableNumbers frames ++ reliableNumbers frames' := by
  simp [reliableNumbers]

namespace Numbered

variable {made fed : List Frame} {i : Nat} {frame : Frame}

theorem reliableNumbers_singleton (h : Numbered made) (hlength : made.length ≤ 16777216)
    (hframe : made[i]? = some frame) : reliableNumbers [frame] = [i] := by
  obtain ⟨hi, -⟩ := List.getElem?_eq_some_iff.mp hframe
  simp only [reliableNumbers, List.filterMap_cons, (h i frame hframe).2, List.filterMap_nil,
    List.map_cons, List.map_nil, Sequence24.value_new]
  rw [Nat.mod_eq_of_lt (by omega)]

/-- A number was fed exactly if its frame was. -/
theorem mem_reliableNumbers (h : Numbered made) (hlength : made.length ≤ 16777216)
    (hfed : ∀ f ∈ fed, f ∈ made) (hframe : made[i]? = some frame) :
    i ∈ reliableNumbers fed ↔ frame ∈ fed := by
  obtain ⟨hi, -⟩ := List.getElem?_eq_some_iff.mp hframe
  simp only [reliableNumbers, List.mem_map, List.mem_filterMap]
  constructor
  · rintro ⟨index, ⟨f, hf, hindex⟩, hvalue⟩
    obtain ⟨j, hj⟩ := List.mem_iff_getElem?.mp (hfed f hf)
    obtain ⟨hjlt, -⟩ := List.getElem?_eq_some_iff.mp hj
    obtain rfl := Option.some.inj (hindex.symm.trans (h j f hj).2)
    rw [Sequence24.value_new, Nat.mod_eq_of_lt (by omega)] at hvalue
    subst hvalue
    obtain rfl := Option.some.inj (hj.symm.trans hframe)
    exact hf
  · intro hf
    refine ⟨Sequence24.new i, ⟨frame, hf, (h i frame hframe).2⟩, ?_⟩
    rw [Sequence24.value_new, Nat.mod_eq_of_lt (by omega)]

end Numbered

namespace Session

/-- The frames `fed` so far were delivered as `out`, each once. -/
structure DeliveredOnce (s : Session F H) (fed out : List Frame) : Prop where
  tracker : ∃ base, s.reliableTracker.Exact base (reliableNumbers fed)
  nodup : out.Nodup
  mem : ∀ frame, frame ∈ out ↔ frame ∈ fed

/-- A reliable frame is handed on unless the filter has seen it. -/
theorem handleFrame_reliable (s : Session F H) {frame : Frame}
    (hheader : frame.header = FrameHeader.new .reliable false false) (now : Instant) :
    (s.handleFrame frame now).1 = .ok (if s.isDuplicate frame then [] else [frame]) := by
  have hsplit : frame.header.isSplit = false := by rw [hheader]; rfl
  have hwhole := SplitAssembler.add_whole hsplit s.splitAssembler now
  have houtcome := s.handleFrame_outcome frame now
  generalize s.handleFrame frame now = r at houtcome
  cases houtcome with
  | duplicate hseen _ => rw [hseen, if_pos rfl]
  | refused _ hadd =>
    rw [hwhole] at hadd
    cases hadd
  | held _ hadd =>
    rw [hwhole] at hadd
    cases hadd
  | @released hnew complete hadd =>
    rw [hwhole] at hadd
    cases hadd
    rw [hnew]
    simp only [releaseFrame, hheader]
    rfl

theorem handleFrame_maxWindow (s : Session F H) (frame : Frame) (now : Instant) :
    (s.handleFrame frame now).2.reliableTracker.maxWindow = s.reliableTracker.maxWindow := by
  rw [s.handleFrame_tracker]
  unfold recordedFrame
  split
  · cases frame.reliableIndex with
    | none => rfl
    | some r => exact ReliableTracker.see_maxWindow _ r
  · rfl

section Delivery

variable {made fed out : List Frame} (hmade : Numbered made) (hlength : made.length ≤ 16777216)
include hmade hlength

/-- One more frame of the sender keeps the delivery exact. -/
theorem DeliveredOnce.handleFrame {s : Session F H}
    (hwindow : made.length ≤ s.reliableTracker.maxWindow) (hfed : ∀ f ∈ fed, f ∈ made)
    (h : s.DeliveredOnce fed out) {frame : Frame}
    (hframe : frame ∈ made)
    (hgap : arrivals.AllSteps OnlyGap (reliableNumbers fed) (reliableNumbers [frame]))
    (now : Instant) :
    ∃ own s', s.handleFrame frame now = (.ok own, s') ∧
      s'.DeliveredOnce (fed ++ [frame]) (out ++ own) ∧
      s'.reliableTracker.maxWindow = s.reliableTracker.maxWindow := by
  obtain ⟨i, hi⟩ := List.mem_iff_getElem?.mp hframe
  obtain ⟨hlt, -⟩ := List.getElem?_eq_some_iff.mp hi
  obtain ⟨hheader, hindex⟩ := hmade i frame hi
  have hreliable : frame.header.reliability.isReliable = true := by rw [hheader]; rfl
  have hsplit : frame.header.isSplit = false := by rw [hheader]; rfl
  obtain ⟨base, hexact⟩ := h.tracker
  rw [hmade.reliableNumbers_singleton hlength hi] at hgap
  have hseen : s.isDuplicate frame = true ↔ frame ∈ fed := by
    rw [← hmade.mem_reliableNumbers hlength hfed hi,
      ← hexact.hasSeen_iff hgap.1 (by omega) (by omega)]
    simp [isDuplicate, hreliable, hsplit, hindex]
  have hresult := s.handleFrame_reliable hheader now
  have htracker := s.handleFrame_tracker frame now
  have hmax := s.handleFrame_maxWindow frame now
  generalize s.handleFrame frame now = r at hresult htracker hmax
  obtain ⟨result, s'⟩ := r
  dsimp only at hresult htracker hmax
  subst hresult
  refine ⟨_, s', rfl, ?_, hmax⟩
  cases hdup : s.isDuplicate frame with
  | true =>
    -- A repeat changes nothing.
    have hmem := hseen.mp hdup
    rw [recordedFrame_of_duplicate hdup, Machine.exec_nil] at htracker
    rw [if_pos rfl, List.append_nil]
    refine ⟨⟨base, ?_⟩, h.nodup, ?_⟩
    · rw [htracker]
      refine hexact.congr fun j => ?_
      rw [reliableNumbers_append, hmade.reliableNumbers_singleton hlength hi, List.mem_append,
        List.mem_singleton]
      refine or_iff_left_of_imp ?_
      rintro rfl
      exact (hmade.mem_reliableNumbers hlength hfed hi).mpr hmem
    · intro f
      rw [h.mem, List.mem_append, List.mem_singleton]
      refine (or_iff_left_of_imp ?_).symm
      rintro rfl
      exact hmem
  | false =>
    have hnew : frame ∉ fed := fun hmem => by
      rw [hseen.mpr hmem] at hdup
      cases hdup
    have hrecorded : s.recordedFrame frame = [Sequence24.new i] := by
      simp [recordedFrame, hreliable, hsplit, hindex, hdup]
    rw [hrecorded] at htracker
    rw [if_neg Bool.false_ne_true]
    refine ⟨?_, ?_, ?_⟩
    · obtain ⟨base', hexact'⟩ := hexact.see_new hgap.1 (by omega) (by omega)
      refine ⟨base', ?_⟩
      rw [htracker, reliableNumbers_append, hmade.reliableNumbers_singleton hlength hi]
      exact hexact'
    · exact List.nodup_append_comm.mp
        (List.nodup_cons.mpr ⟨fun hmem => hnew ((h.mem frame).mp hmem), h.nodup⟩)
    · intro f
      rw [List.mem_append, List.mem_append, h.mem]

theorem DeliveredOnce.handleFrames {s : Session F H}
    (hwindow : made.length ≤ s.reliableTracker.maxWindow)
    (hfed : ∀ f ∈ fed, f ∈ made) (h : s.DeliveredOnce fed out) {frames : List Frame}
    (hframes : ∀ f ∈ frames, f ∈ made)
    (hgap : arrivals.AllSteps OnlyGap (reliableNumbers fed) (reliableNumbers frames))
    (now : Instant) :
    ∃ own s', Session.handleFrames now frames s = (.ok own, s') ∧
      s'.DeliveredOnce (fed ++ frames) (out ++ own) ∧
      s'.reliableTracker.maxWindow = s.reliableTracker.maxWindow := by
  induction frames generalizing s fed out with
  | nil =>
    refine ⟨[], s, rfl, ?_, rfl⟩
    rw [List.append_nil, List.append_nil]
    exact h
  | cons frame rest ih =>
    have hcons : reliableNumbers (frame :: rest)
        = reliableNumbers [frame] ++ reliableNumbers rest := by
      rw [← reliableNumbers_append, List.singleton_append]
    rw [hcons, Machine.allSteps_append, exec_arrivals, ← reliableNumbers_append] at hgap
    obtain ⟨own, s₁, hown, h₁, hmax⟩ := h.handleFrame hmade hlength hwindow hfed
      (hframes frame List.mem_cons_self) hgap.1 now
    have hfed₁ : ∀ f ∈ fed ++ [frame], f ∈ made := by
      intro f hf
      rcases List.mem_append.mp hf with hf | hf
      · exact hfed f hf
      · exact hframes f (List.mem_cons.mpr (.inl (List.mem_singleton.mp hf)))
    obtain ⟨more, s₂, hmore, h₂, hmax₂⟩ := ih (hmax ▸ hwindow) hfed₁ h₁
      (fun f hf => hframes f (List.mem_cons_of_mem frame hf)) hgap.2
    refine ⟨own ++ more, s₂, ?_, ?_, hmax₂.trans hmax⟩
    · simp only [Session.handleFrames, hown, hmore]
    · rw [List.append_assoc, List.singleton_append, List.append_assoc] at h₂
      exact h₂

variable [F64 F] [MinHeap H QueuedFrame QueuedFrame.weight]

/-- One more operation of the receiver keeps the delivery exact. -/
theorem DeliveredOnce.step {s : Session F H} (hwindow : made.length ≤ s.reliableTracker.maxWindow)
    (hfed : ∀ f ∈ fed, f ∈ made) (h : s.DeliveredOnce fed out) {op : SessionOp}
    (hop : ∀ f ∈ op.ingestedFrames, f ∈ made)
    (hgap : arrivals.AllSteps OnlyGap (reliableNumbers fed) (reliableNumbers op.ingestedFrames)) :
    (∀ e, (s.step op).2 ≠ .received (.error e)) ∧
    (s.step op).1.DeliveredOnce (fed ++ op.ingestedFrames)
      (out ++ (s.step op).2.receivedFrames) ∧
    (s.step op).1.reliableTracker.maxWindow = s.reliableTracker.maxWindow := by
  have htracker := s.step_tracker op
  -- An operation that feeds no frame leaves the tracker as it is.
  have hquiet : s.recordedBy op = [] → op.ingestedFrames = [] →
      (s.step op).2.receivedFrames = [] →
      (s.step op).1.DeliveredOnce (fed ++ op.ingestedFrames)
        (out ++ (s.step op).2.receivedFrames) ∧
      (s.step op).1.reliableTracker.maxWindow = s.reliableTracker.maxWindow := by
    intro hnone hframes hreceived
    rw [hnone, Machine.exec_nil] at htracker
    rw [hframes, hreceived, List.append_nil, List.append_nil, htracker]
    refine ⟨⟨?_, h.nodup, h.mem⟩, rfl⟩
    rw [htracker]
    exact h.tracker
  cases op with
  | ingestDatagram d now =>
    obtain ⟨header, payload⟩ := d
    cases payload with
    | frames frames =>
      have hbegin := (s.beginDatagram_filters ⟨header, .frames frames⟩ frames now).1
      have hstart : (s.beginDatagram ⟨header, .frames frames⟩ frames now).DeliveredOnce fed out := by
        refine ⟨?_, h.nodup, h.mem⟩
        rw [hbegin]
        exact h.tracker
      obtain ⟨own, s', heq, hdelivered, hmax⟩ := hstart.handleFrames hmade hlength
        (hbegin ▸ hwindow) hfed hop hgap now
      have hingest := (s.ingestDatagram_eq (d := ⟨header, .frames frames⟩) rfl now).trans heq
      simp only [Session.step, hingest]
      refine ⟨fun e he => (by cases he), hdelivered, ?_⟩
      rw [hmax, hbegin]
    | ack payload => exact ⟨fun e he => (by cases he), hquiet rfl rfl rfl⟩
    | nack payload => exact ⟨fun e he => (by cases he), hquiet rfl rfl rfl⟩
  | _ => exact ⟨fun e he => (by cases he), hquiet rfl rfl rfl⟩

/-- A receiver that ingests frames of the sender delivers each of them once. -/
theorem exec_deliveredOnce (mtu : Nat) (tunables : SessionTunables F) (start : Instant)
    (hwindow : made.length ≤ tunables.reliableWindow) {ops : List SessionOp}
    (hops : ∀ f ∈ ops.flatMap SessionOp.ingestedFrames, f ∈ made)
    (hgap : arrivals.AllSteps OnlyGap []
      (reliableNumbers (ops.flatMap SessionOp.ingestedFrames))) :
    let s : Session F H := withTunables mtu tunables start
    (∀ o ∈ (sessionMachine F H).outputs s ops, ∀ e, o ≠ .received (.error e)) ∧
    ((sessionMachine F H).exec s ops).DeliveredOnce (ops.flatMap SessionOp.ingestedFrames)
      (((sessionMachine F H).outputs s ops).flatMap SessionOut.receivedFrames) := by
  intro s
  suffices hrun : (∀ o ∈ (sessionMachine F H).outputs s ops, ∀ e, o ≠ .received (.error e)) ∧
      ((sessionMachine F H).exec s ops).DeliveredOnce (ops.flatMap SessionOp.ingestedFrames)
        (((sessionMachine F H).outputs s ops).flatMap SessionOut.receivedFrames) ∧
      ((sessionMachine F H).exec s ops).reliableTracker.maxWindow = tunables.reliableWindow from
    ⟨hrun.1, hrun.2.1⟩
  refine (sessionMachine F H).run_invariant
    (P := fun ops outs s =>
      (∀ f ∈ ops.flatMap SessionOp.ingestedFrames, f ∈ made) →
      arrivals.AllSteps OnlyGap [] (reliableNumbers (ops.flatMap SessionOp.ingestedFrames)) →
      (∀ o ∈ outs, ∀ e, o ≠ .received (.error e)) ∧
      s.DeliveredOnce (ops.flatMap SessionOp.ingestedFrames)
        (outs.flatMap SessionOut.receivedFrames) ∧
      s.reliableTracker.maxWindow = tunables.reliableWindow) ?_ ?_ ops hops hgap
  · intro _ _
    exact ⟨nofun, ⟨⟨0, ReliableTracker.new_exact _⟩, List.nodup_nil, fun _ => Iff.rfl⟩, rfl⟩
  · intro ops outs s op hP hops hgap
    simp only [List.flatMap_append, List.flatMap_cons, List.flatMap_nil, List.append_nil,
      List.mem_append] at hops ⊢
    rw [List.flatMap_append, List.flatMap_singleton, reliableNumbers_append,
      Machine.allSteps_append, exec_arrivals, List.nil_append] at hgap
    obtain ⟨hall, hdelivered, hmax⟩ := hP (fun f hf => hops f (.inl hf)) hgap.1
    obtain ⟨hone, hdelivered', hmax'⟩ := hdelivered.step hmade hlength (hmax ▸ hwindow)
      (fun f hf => hops f (.inl hf)) (fun f hf => hops f (.inr hf)) hgap.2
    refine ⟨?_, hdelivered', hmax'.trans hmax⟩
    rintro o (ho | ho)
    · exact hall o ho
    · rw [List.mem_singleton.mp ho]
      exact hone

end Delivery

/-! ## Both ends -/

variable [F64 F] [MinHeap H QueuedFrame QueuedFrame.weight]

/-- The data datagrams a run emitted, new or sent again. -/
def emittedDatagrams (s : Session F H) (ops : List SessionOp) : List Datagram :=
  ((sessionMachine F H).outputs s ops).flatMap SessionOut.dataDatagrams

/-- The sender queues reliable payloads of one frame each, no more than the
    receiver's window and one turn of the index; the receiver ingests no data
    datagrams but the sender's, each of them at least once. If every fed index
    that fills the lowest gap is new and fills the only gap, no ingest fails, and
    the frames the receiver returned, with those the sender still has queued, are
    the queued frames, each once. -/
theorem reliable_delivered_once (mtuS mtuR : Nat) (tunablesS tunablesR : SessionTunables F)
    (startS startR : Instant) {opsS opsR : List SessionOp}
    (hqueues : (sessionMachine F H).AllSteps QueuesReliable
      (withTunables mtuS tunablesS startS) opsS)
    (hwindow : (madeFrames (withTunables mtuS tunablesS startS : Session F H) opsS).length
      ≤ tunablesR.reliableWindow)
    (hwrap : (madeFrames (withTunables mtuS tunablesS startS : Session F H) opsS).length
      ≤ 16777216)
    (hfed : ∀ d now frames, .ingestDatagram d now ∈ opsR → d.payload = .frames frames →
      d ∈ emittedDatagrams (withTunables mtuS tunablesS startS : Session F H) opsS)
    (hall : ∀ d ∈ emittedDatagrams (withTunables mtuS tunablesS startS : Session F H) opsS,
      ∃ now, .ingestDatagram d now ∈ opsR)
    (hgap : arrivals.AllSteps OnlyGap []
      (reliableNumbers (opsR.flatMap SessionOp.ingestedFrames))) :
    let sender : Session F H := withTunables mtuS tunablesS startS
    let receiver : Session F H := withTunables mtuR tunablesR startR
    (∀ o ∈ (sessionMachine F H).outputs receiver opsR, ∀ e, o ≠ .received (.error e)) ∧
    ((((sessionMachine F H).outputs receiver opsR).flatMap SessionOut.receivedFrames)
      ++ ((sessionMachine F H).exec sender opsS).queuedFrames.map QueuedFrame.frame).Perm
      (madeFrames sender opsS) ∧
    (madeFrames sender opsS).Nodup := by
  intro sender receiver
  have hnumbered := madeFrames_numbered mtuS tunablesS startS hqueues
  have hnodup := hnumbered.nodup hwrap
  -- The frames that left in new datagrams.
  set fresh := ((sessionMachine F H).outputs sender opsS).flatMap SessionOut.fresh with hfresh
  set emitted := (fresh.flatMap BuiltDatagram.queued).map QueuedFrame.frame with hemitted
  have hconserved : (((sessionMachine F H).exec sender opsS).queuedFrames.map QueuedFrame.frame
      ++ emitted).Perm (madeFrames sender opsS) := by
    have hperm := (entries_conserved mtuS tunablesS startS opsS :
      (((sessionMachine F H).exec sender opsS).queuedFrames ++ _).Perm _).map QueuedFrame.frame
    rwa [List.map_append] at hperm
  have hmem : ∀ f ∈ emitted, f ∈ madeFrames sender opsS := fun f hf =>
    hconserved.subset (List.mem_append_right _ hf)
  -- The fed frames are the emitted ones.
  have hsame : ∀ f, f ∈ opsR.flatMap SessionOp.ingestedFrames ↔ f ∈ emitted := by
    intro f
    simp only [hemitted, List.mem_flatMap, List.mem_map]
    constructor
    · rintro ⟨op, hop, hf⟩
      cases op with
      | ingestDatagram d now =>
        obtain ⟨header, payload⟩ := d
        cases payload with
        | frames frames =>
          obtain ⟨b, hb, -, hpayload⟩ := dataDatagram_built (hfed _ now frames hop rfl)
          cases hpayload
          obtain ⟨q, hq, rfl⟩ := List.mem_map.mp hf
          exact ⟨q, ⟨b, hb, hq⟩, rfl⟩
        | ack payload => cases hf
        | nack payload => cases hf
      | _ => cases hf
    · rintro ⟨q, ⟨b, hb, hq⟩, rfl⟩
      have hdatagram : b.datagram ∈ emittedDatagrams sender opsS := by
        obtain ⟨o, ho, hbo⟩ := List.mem_flatMap.mp hb
        exact List.mem_flatMap.mpr ⟨o, ho,
          List.mem_append_right _ (List.mem_map_of_mem hbo)⟩
      obtain ⟨now, hop⟩ := hall b.datagram hdatagram
      refine ⟨_, hop, ?_⟩
      simp only [SessionOp.ingestedFrames, Datagram.framesOf, fresh_payload hb]
      exact List.mem_map_of_mem hq
  obtain ⟨hok, hdelivered⟩ := exec_deliveredOnce (H := H) hnumbered hwrap mtuR tunablesR startR
    hwindow (fun f hf => hmem f ((hsame f).mp hf)) hgap
  refine ⟨hok, ?_, hnodup⟩
  have hemittedNodup : emitted.Nodup :=
    (List.nodup_append.mp (hconserved.nodup_iff.mpr hnodup)).2.1
  have hperm := (List.perm_ext_iff_of_nodup hdelivered.nodup hemittedNodup).mpr fun f =>
    (hdelivered.mem f).trans (hsame f)
  exact (hperm.append_right _).trans (List.perm_append_comm.trans hconserved)

/-! ## Four payloads in four datagrams -/

def fourPayloads : List SessionOp :=
  [1, 2, 3, 4].flatMap fun byte =>
    [.queuePayload [byte] .reliable 0 .high none, .buildDataDatagram 0 1000]

def fourDatagrams : List Datagram :=
  emittedDatagrams (withTunables 100 SessionTunables.standard 0 : ConcreteSession) fourPayloads

/-- Feed the datagrams at the given positions, in this order. -/
def feedInOrder (order : List Nat) : List SessionOp :=
  order.filterMap fun i => fourDatagrams[i]?.map (SessionOp.ingestDatagram · 0)

theorem mem_feedInOrder {order : List Nat} {d : Datagram} {now : Instant}
    (h : .ingestDatagram d now ∈ feedInOrder order) : d ∈ fourDatagrams := by
  obtain ⟨i, -, hi⟩ := List.mem_filterMap.mp h
  obtain ⟨d', hd', hop⟩ := Option.map_eq_some_iff.mp hi
  cases hop
  exact List.mem_of_getElem? hd'

/-- The frames a fresh session returns for the datagrams in this order. -/
def receivedInOrder (order : List Nat) : List Frame :=
  (concreteMachine.outputs (withTunables 100 SessionTunables.standard 0)
    (feedInOrder order)).flatMap SessionOut.receivedFrames

/-- An overtaken payload and a repeat in front of the gap do no harm. -/
theorem reliable_delivered_once_overtaken :
    (receivedInOrder [0, 2, 2, 1, 3]
      ++ (concreteMachine.exec (withTunables 100 SessionTunables.standard 0)
          fourPayloads).queuedFrames.map QueuedFrame.frame).Perm
      (madeFrames (withTunables 100 SessionTunables.standard 0 : ConcreteSession)
        fourPayloads) := by
  have hall : ∀ d ∈ fourDatagrams, .ingestDatagram d 0 ∈ feedInOrder [0, 2, 2, 1, 3] := by
    decide +kernel
  exact (reliable_delivered_once (F := ℚ) (H := SortedHeap QueuedFrame QueuedFrame.weight) 100 100
    SessionTunables.standard SessionTunables.standard 0 0 (by decide +kernel) (by decide +kernel)
    (by decide +kernel) (fun d now _ hop _ => mem_feedInOrder hop) (fun d hd => ⟨0, hall d hd⟩)
    (by decide +kernel)).2.1

/-- Each of the four datagrams is fed, but the payload behind the second gap is
    dropped as a duplicate when the first gap is filled in front of it; and a
    repeat of the first datagram is returned twice. -/
theorem reliable_frame_lost_or_repeated :
    concreteMachine.AllSteps QueuesReliable (withTunables 100 SessionTunables.standard 0)
      fourPayloads ∧
    (madeFrames (withTunables 100 SessionTunables.standard 0 : ConcreteSession)
      fourPayloads).length = 4 ∧
    (concreteMachine.exec (withTunables 100 SessionTunables.standard 0)
      fourPayloads).queuedFrames = [] ∧
    (∀ d ∈ fourDatagrams, .ingestDatagram d 0 ∈ feedInOrder [2, 0, 3, 1]) ∧
    (receivedInOrder [2, 0, 3, 1]).map Frame.payload = [[3], [1], [2]] ∧
    (receivedInOrder [0, 0, 1, 2, 3]).map Frame.payload = [[1], [1], [2], [3], [4]] := by
  decide +kernel

end Session

end Raknet
