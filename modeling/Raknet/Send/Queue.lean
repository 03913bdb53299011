-- SUMMARY: The send queue: which fields packing touches, and that an entry that fits leaves.
import Raknet.Send.Refinement

namespace Raknet

variable {F H : Type} [MinHeap H QueuedFrame QueuedFrame.weight]

namespace Session

/-- The pop loop finds an entry that fits, if there is one. -/
theorem popCandidates_isSome {fits : QueuedFrame → Bool} {fuel : Nat} {heap : H}
    {deferred : List QueuedFrame} {q : QueuedFrame} (hfuel : MinHeap.size heap ≤ fuel)
    (hq : q ∈ MinHeap.toList heap) (hfits : fits q = true) :
    (popCandidates fits fuel heap deferred).1.isSome = true := by
  induction fuel generalizing heap deferred with
  | zero =>
    have hnil : MinHeap.toList heap = [] := List.length_eq_zero_iff.mp (Nat.le_zero.mp hfuel)
    rw [hnil] at hq
    cases hq
  | succ fuel ih =>
    unfold popCandidates
    cases hp : MinHeap.pop heap with
    | none =>
      rw [MinHeap.pop_none heap hp] at hq
      cases hq
    | some r =>
      obtain ⟨candidate, heap'⟩ := r
      dsimp only
      split
      · rfl
      · next hno =>
        have hne : q ≠ candidate := fun e => hno (e ▸ hfits)
        have hsize := MinHeap.size_pop hp
        exact ih (by omega) (((MinHeap.mem_pop hp).mp hq).resolve_left hne)

omit [MinHeap H QueuedFrame QueuedFrame.weight] in
theorem trackSentReliableDatagram_eq (s : Session F H) (datagram : Datagram) (now : Instant)
    (receiptIds : List UInt64) :
    ∃ (metrics : SessionMetrics) (receipts : AssocMap UInt64 Nat)
      (sent : AssocMap Sequence24 TrackedDatagram),
      s.trackSentReliableDatagram datagram now receiptIds =
        { s with metrics, receiptTracking := receipts, sentDatagrams := sent } := by
  unfold trackSentReliableDatagram
  dsimp only
  split
  · exact ⟨s.metrics, s.receiptTracking, s.sentDatagrams, rfl⟩
  · exact ⟨_, _, _, rfl⟩

theorem sealDatagram_eq (s : Session F H) (p : Packing) (now : Instant) :
    ∃ (metrics : SessionMetrics) (receipts : AssocMap UInt64 Nat)
      (sent : AssocMap Sequence24 TrackedDatagram),
      (s.sealDatagram p now).2 =
        { s with
          datagramWriteIndex := s.datagramWriteIndex.next
          metrics
          receiptTracking := receipts
          sentDatagrams := sent } ∧
      ((s.sealDatagram p now).1.tracked = false → sent = s.sentDatagrams) := by
  cases ht : (s.sealDatagram p now).1.tracked with
  | true =>
    have hs : (s.sealDatagram p now).2 = s.nextDatagramSequence.2.trackSentReliableDatagram
        (s.sealDatagram p now).1.datagram now (s.sealDatagram p now).1.receiptIds := if_pos ht
    obtain ⟨metrics, receipts, sent, h⟩ := s.nextDatagramSequence.2.trackSentReliableDatagram_eq
      (s.sealDatagram p now).1.datagram now (s.sealDatagram p now).1.receiptIds
    exact ⟨metrics, receipts, sent, hs.trans h, fun hf => by cases hf⟩
  | false =>
    have hs : (s.sealDatagram p now).2 = s.nextDatagramSequence.2 :=
      if_neg (Bool.eq_false_iff.mp ht)
    exact ⟨s.metrics, s.receiptTracking, s.sentDatagrams, hs, fun _ => rfl⟩

variable [F64 F]

/-- What a call of `build_data_datagram` touches. -/
theorem buildDataDatagram_eq (s : Session F H) (now : Instant) (budget : Nat) :
    ∃ (heap : H) (sequence : Sequence24) (metrics : SessionMetrics)
      (receipts : AssocMap UInt64 Nat) (sent : AssocMap Sequence24 TrackedDatagram),
      (s.buildDataDatagram now budget).2.2 =
        { s with
          outgoingHeap := heap
          outgoingQueuedBytes := s.outgoingQueuedBytes
            - (((s.buildDataDatagram now budget).1.toList.flatMap BuiltDatagram.queued).map
                QueuedFrame.encodedSize).sum
          datagramWriteIndex := sequence
          metrics
          receiptTracking := receipts
          sentDatagrams := sent } ∧
      (∀ b, (s.buildDataDatagram now budget).1 = some b → b.tracked = false →
        sent = s.sentDatagrams) := by
  unfold buildDataDatagram
  split
  · exact ⟨_, _, _, _, _, rfl, fun b hb => by cases hb⟩
  · obtain ⟨heap, new, hs, htaken, -⟩ := packLoop_view s.pendingOutgoingFrames
      ⟨[], raknetDatagramHeaderSize, budget⟩ s
    generalize packLoop s.pendingOutgoingFrames ⟨[], raknetDatagramHeaderSize, budget⟩ s = r
      at hs htaken
    obtain ⟨p, s'⟩ := r
    dsimp only at hs htaken
    subst hs
    rw [List.nil_append] at htaken
    subst htaken
    dsimp only
    split
    · next hempty =>
      rw [List.isEmpty_iff.mp hempty]
      exact ⟨_, _, _, _, _, rfl, fun b hb => by cases hb⟩
    · obtain ⟨metrics, receipts, sent, hs, htracked⟩ := sealDatagram_eq
        { s with
          outgoingHeap := heap
          outgoingQueuedBytes :=
            s.outgoingQueuedBytes - (p.taken.map QueuedFrame.encodedSize).sum } p now
      refine ⟨heap, s.datagramWriteIndex.next, metrics, receipts, sent, ?_, fun b hb => ?_⟩
      · rw [Option.toList_some, List.flatMap_singleton]
        exact hs
      · obtain rfl := Option.some.inj hb
        exact htracked

/-- If a queued entry fits the limits, a datagram leaves. -/
theorem buildDataDatagram_isSome {s : Session F H} {now : Instant} {budget : Nat}
    {q : QueuedFrame} (hq : q ∈ s.queuedFrames)
    (hmtu : raknetDatagramHeaderSize + q.encodedSize ≤ s.mtu) (hpos : 0 < budget)
    (hbudget : q.encodedSize ≤ budget)
    (hrel : q.isReliable = false ∨ s.canEmitNewReliableDatagram = true) :
    (s.buildDataDatagram now budget).1.isSome = true := by
  have hpending : 0 < s.pendingOutgoingFrames := List.length_pos_of_mem hq
  obtain ⟨n, hn⟩ : ∃ n, s.pendingOutgoingFrames = n + 1 := ⟨s.pendingOutgoingFrames - 1, by omega⟩
  -- The first round of the packing loop takes an entry.
  have htaken : (packLoop s.pendingOutgoingFrames
      ⟨[], raknetDatagramHeaderSize, budget⟩ s).1.taken ≠ [] := by
    have hsel : (s.popNextFrameForDatagram s.canEmitNewReliableDatagram
        raknetDatagramHeaderSize budget).1.isSome = true := by
      refine popCandidates_isSome (Nat.le_refl _) hq ?_
      rcases hrel with h | h <;> simp [hmtu, hbudget, h]
    obtain ⟨selected, hselected⟩ := Option.isSome_iff_exists.mp hsel
    rw [hn]
    simp only [packLoop, Packing.hasReliable, List.any_nil, Bool.false_or]
    generalize s.popNextFrameForDatagram s.canEmitNewReliableDatagram
      raknetDatagramHeaderSize budget = r at hselected
    obtain ⟨_, s'⟩ := r
    dsimp only at hselected
    subst hselected
    obtain ⟨_, new, -, htaken, -⟩ := packLoop_view n
      (Packing.add ⟨[], raknetDatagramHeaderSize, budget⟩ selected)
      { s' with outgoingQueuedBytes := s'.outgoingQueuedBytes - selected.encodedSize }
    dsimp only
    rw [htaken]
    simp [Packing.add]
  unfold buildDataDatagram
  rw [if_neg (by omega)]
  generalize packLoop s.pendingOutgoingFrames ⟨[], raknetDatagramHeaderSize, budget⟩ s = r
    at htaken
  obtain ⟨p, s'⟩ := r
  dsimp only at htaken ⊢
  rw [if_neg (by simpa using htaken)]
  rfl

/-- The fields of a session that admission and packing read but never write. -/
def SameLimits (s s' : Session F H) : Prop :=
  s'.mtu = s.mtu ∧ s'.outgoingQueueMaxFrames = s.outgoingQueueMaxFrames ∧
  s'.outgoingQueueMaxBytes = s.outgoingQueueMaxBytes ∧
  s'.outgoingQueueSoftRatio = s.outgoingQueueSoftRatio ∧ s'.congestion = s.congestion

/-- An unsplit payload that is admitted to an empty queue leaves with the next
    datagram, alone. -/
theorem queue_build_of_empty {s : Session F H} (payload : Bytes) (reliability : Reliability)
    (channel : UInt8) (priority : RakPriority) (receiptId : Option UInt64) (now : Instant)
    (budget : Nat) (hempty : s.view.queue = 0)
    (hfit : payload.length ≤ s.maxPayloadFor reliability false)
    (hallow : s.evaluateBackpressure 1 (frameOverhead reliability false + payload.length)
      reliability priority = .allow)
    (hmtu : raknetDatagramHeaderSize + (Frame.overhead reliability false
      + ((bitLengthOf payload.length).toNat + 7) >>> 3) ≤ s.mtu)
    (hbudget : Frame.overhead reliability false
      + ((bitLengthOf payload.length).toNat + 7) >>> 3 ≤ budget) (hpos : 0 < budget)
    (hrel : reliability.isReliable = false ∨ s.canEmitNewReliableDatagram = true) :
    ∃ (b : BuiltDatagram) (q : QueuedFrame) (s' : Session F H),
      (sessionMachine F H).exec s
        [.queuePayload payload reliability channel priority receiptId,
          .buildDataDatagram now budget] = s' ∧
      b.queued = [q] ∧ q.receiptId = receiptId ∧ q.isReliable = reliability.isReliable ∧
      b.sequence = s.datagramWriteIndex ∧ s'.view = s.view.emit b ∧ SameLimits s s' ∧
      s'.outgoingQueuedBytes = s.outgoingQueuedBytes ∧
      (b.tracked = false → s'.sentDatagrams = s.sentDatagrams) := by
  obtain ⟨q, index, ordering, sequencing, weights, lastMin, hs₁, hid, hqrel, hsize⟩ :=
    s.enqueueSingleFrame_eq payload reliability channel priority receiptId
  generalize hs₁def : ({ s with
    outgoingHeap := MinHeap.push s.outgoingHeap q
    outgoingQueuedBytes := s.outgoingQueuedBytes + q.encodedSize
    reliableWriteIndex := index
    orderingWriteIndex := ordering
    sequencingWriteIndex := sequencing
    outgoingNextWeights := weights
    lastMinWeight := lastMin } : Session F H) = s₁ at hs₁
  have hview₁ : s₁.view = s.view.enqueue q := by
    subst hs₁def
    exact SendView.ext (Multiset.coe_eq_coe.mpr (MinHeap.toList_push _ _)) rfl rfl rfl rfl
  have hqueue : s₁.view.queue = {q} := by rw [hview₁, SendView.enqueue, hempty]; rfl
  have hmem : q ∈ s₁.view.queue := hqueue ▸ Multiset.mem_singleton_self q
  have hwindow : s₁.canEmitNewReliableDatagram = s.canEmitNewReliableDatagram := by
    subst hs₁def; rfl
  have hmtu₁ : s₁.mtu = s.mtu := by subst hs₁def; rfl
  have hsome : (s₁.buildDataDatagram now budget).1.isSome = true :=
    buildDataDatagram_isSome (Multiset.mem_coe.mp hmem) (by rw [hmtu₁, hsize]; exact hmtu) hpos
      (by rw [hsize]; exact hbudget) (by rw [hqrel, hwindow]; exact hrel)
  obtain ⟨b, hb⟩ := Option.isSome_iff_exists.mp hsome
  have hbuild := s₁.buildDataDatagram_view now budget
  rw [hb] at hbuild
  obtain ⟨⟨hne, hle, hseq, -⟩, hview⟩ := hbuild
  -- The datagram carries the one entry there is.
  have hbq : b.queued = [q] := by
    rw [hqueue] at hle
    rcases Multiset.le_singleton.mp hle with h | h
    · exact absurd ((Multiset.coe_eq_zero _).mp h) hne
    · exact Multiset.coe_eq_singleton.mp h
  obtain ⟨heap, sequence, metrics, receipts, sent, hs', hsent⟩ :=
    s₁.buildDataDatagram_eq now budget
  rw [hb, Option.toList_some, List.flatMap_singleton, hbq, List.map_singleton,
    List.sum_singleton] at hs'
  refine ⟨b, q, (s₁.buildDataDatagram now budget).2.2, ?_, hbq, hid, hqrel, ?_, ?_, ?_, ?_, ?_⟩
  · simp only [Machine.exec_cons, Machine.exec_nil, sessionMachine_step, step,
      queuePayloadWithReceipt_single hfit hallow, hs₁]
  · rw [hseq, hview₁]; rfl
  · rw [hview, hview₁]
    refine SendView.ext ?_ rfl rfl rfl rfl
    simp [SendView.emit, SendView.enqueue, hempty, hbq]
  · rw [hs']; subst hs₁def; exact ⟨rfl, rfl, rfl, rfl, rfl⟩
  · rw [hs']
    subst hs₁def
    exact Nat.add_sub_cancel _ _
  · intro ht
    rw [hs']
    subst hs₁def
    exact hsent b hb ht

end Session

end Raknet
