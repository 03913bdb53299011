-- SUMMARY: When frames of one class leave the send queue in the order in which their payloads were accepted.
import Raknet.Lib.Service
import Raknet.Send.Budgets

/-!
# Order of service

The queue serves the smallest weight that fits. Frames of one class fit alike, so they
leave in the order of their weights. The weights of a priority do not always grow: when
the queue has run empty, the first payload still gets the weight of the busy time
before, and the ones behind it start again from below; and payloads of the highest
priority that wait together all get the same weight.
-/

namespace Raknet

open Service

/-- The entries of a class are alike for the packing: they have one size, and are reliable
    or not together. -/
def QueuedFrame.Uniform (p : QueuedFrame → Bool) : Prop :=
  ∀ q q', p q = true → p q' = true →
    q.encodedSize = q'.encodedSize ∧ q.isReliable = q'.isReliable

variable {F H : Type} [MinHeap H QueuedFrame QueuedFrame.weight]

namespace Session

/-! ## What leaves -/

/-- The pop loop selects a smallest weight among the entries that fit. -/
theorem popCandidates_min {fits : QueuedFrame → Bool} {fuel : Nat} {heap : H}
    {deferred : List QueuedFrame} {q : QueuedFrame}
    (h : (popCandidates fits fuel heap deferred).1 = some q) :
    ∀ q' ∈ MinHeap.toList heap, fits q' = true → q.weight ≤ q'.weight := by
  induction fuel generalizing heap deferred with
  | zero => cases h
  | succ fuel ih =>
    unfold popCandidates at h
    cases hp : MinHeap.pop heap with
    | none =>
      rw [hp] at h
      cases h
    | some r =>
      obtain ⟨candidate, heap'⟩ := r
      rw [hp] at h
      dsimp only at h
      split at h
      · obtain rfl := Option.some.inj h
        exact fun q' hq' _ => (MinHeap.pop_some _ _ _ hp).2 q' hq'
      · next hnot =>
        intro q' hq' hfits
        rcases (MinHeap.mem_pop hp).mp hq' with rfl | hq'
        · exact absurd hfits hnot
        · exact ih h q' hq' hfits

/-- The entry that leaves next has a smallest weight of its class. -/
theorem popNextFrameForDatagram_min {p : QueuedFrame → Bool} (hp : QueuedFrame.Uniform p)
    {s : Session F H} {allowReliable : Bool} {datagramSize budget : Nat} {q : QueuedFrame}
    (h : (s.popNextFrameForDatagram allowReliable datagramSize budget).1 = some q)
    (hq : p q = true) : ∀ q' ∈ s.view.queue, p q' = true → q.weight ≤ q'.weight := by
  intro q' hmem hq'
  refine popCandidates_min h q' hmem ?_
  obtain ⟨hsize, hreliable⟩ := hp q q' hq hq'
  have hfits := fits_of_popCandidates h
  rwa [hsize, hreliable] at hfits

variable [F64 F] {p : QueuedFrame → Bool}

theorem packLoop_served (hp : QueuedFrame.Uniform p) (fuel : Nat) (packing : Packing)
    (s : Session F H) :
    ∃ new, (packLoop fuel packing s).1.taken = packing.taken ++ new ∧
      Served p QueuedFrame.weight s.view.queue new (packLoop fuel packing s).2.view.queue := by
  induction fuel generalizing packing s with
  | zero => exact ⟨[], (List.append_nil _).symm, .nil _⟩
  | succ fuel ih =>
    simp only [packLoop]
    obtain ⟨heap, hs, hqueue⟩ := s.popNextFrameForDatagram_view
      (packing.hasReliable || s.canEmitNewReliableDatagram) packing.datagramSize
      packing.remainingBytesBudget
    have hmin : ∀ q, (s.popNextFrameForDatagram
        (packing.hasReliable || s.canEmitNewReliableDatagram) packing.datagramSize
        packing.remainingBytesBudget).1 = some q →
        p q = true → ∀ q' ∈ s.view.queue, p q' = true → q.weight ≤ q'.weight :=
      fun q hq => popNextFrameForDatagram_min hp hq
    generalize s.popNextFrameForDatagram (packing.hasReliable || s.canEmitNewReliableDatagram)
      packing.datagramSize packing.remainingBytesBudget = r at hs hqueue hmin
    obtain ⟨selected, s'⟩ := r
    dsimp only at hs hqueue hmin
    subst hs
    cases selected with
    | none =>
      rw [Option.toList_none, Multiset.coe_nil, zero_add] at hqueue
      refine ⟨[], (List.append_nil _).symm, ?_⟩
      rw [hqueue]
      exact .nil _
    | some queued =>
      rw [Option.toList_some, Multiset.coe_singleton, Multiset.singleton_add] at hqueue
      obtain ⟨new, htaken, hserved⟩ := ih (packing.add queued)
        { s with
          outgoingHeap := heap
          outgoingQueuedBytes := s.outgoingQueuedBytes - queued.encodedSize }
      refine ⟨queued :: new, ?_, ?_⟩
      · simpa [Packing.add] using htaken
      · rw [hqueue] at hmin ⊢
        refine .cons (fun hq q' hq' => hmin queued rfl hq q' (Multiset.mem_cons_of_mem hq')) ?_
        exact hserved

theorem buildDataDatagram_served (hp : QueuedFrame.Uniform p) (s : Session F H) (now : Instant)
    (budget : Nat) :
    Served p QueuedFrame.weight s.view.queue
      ((s.buildDataDatagram now budget).1.toList.flatMap BuiltDatagram.queued)
      (s.buildDataDatagram now budget).2.2.view.queue := by
  unfold buildDataDatagram
  split
  · exact .nil _
  · obtain ⟨new, htaken, hserved⟩ := packLoop_served hp s.pendingOutgoingFrames
      ⟨[], raknetDatagramHeaderSize, budget⟩ s
    generalize packLoop s.pendingOutgoingFrames ⟨[], raknetDatagramHeaderSize, budget⟩ s = r
      at htaken hserved
    obtain ⟨packed, s'⟩ := r
    rw [List.nil_append] at htaken
    dsimp only at htaken hserved ⊢
    subst htaken
    split
    · next hempty =>
      rw [List.isEmpty_iff.mp hempty] at hserved
      exact hserved
    · obtain ⟨_, _, _, hseal, -⟩ := s'.sealDatagram_eq packed now
      have hqueue : (s'.sealDatagram packed now).2.view.queue = s'.view.queue := by
        rw [hseal]
        rfl
      rw [Option.toList_some, List.flatMap_singleton, hqueue]
      exact hserved

theorem buildLoop_served (hp : QueuedFrame.Uniform p) (now : Instant) (n budget : Nat)
    (s : Session F H) :
    Served p QueuedFrame.weight s.view.queue
      ((buildLoop now n budget s).1.flatMap BuiltDatagram.queued)
      (buildLoop now n budget s).2.view.queue := by
  induction n generalizing budget s with
  | zero => exact .nil _
  | succ n ih =>
    have hbuild := s.buildDataDatagram_served hp now budget
    unfold buildLoop
    generalize s.buildDataDatagram now budget = r at hbuild
    obtain ⟨built, remaining, s'⟩ := r
    cases built with
    | none => exact hbuild
    | some b =>
      dsimp only at hbuild ⊢
      rw [Option.toList_some, List.flatMap_singleton] at hbuild
      split
      · rw [List.flatMap_singleton]
        exact hbuild
      · rw [List.flatMap_cons]
        exact hbuild.trans (ih remaining s')

/-- Every operation that queues nothing serves the queue. -/
theorem step_served (hp : QueuedFrame.Uniform p) (s : Session F H) (op : SessionOp)
    (hmade : (s.step op).2.made = []) :
    Served p QueuedFrame.weight s.view.queue
      ((s.step op).2.fresh.flatMap BuiltDatagram.queued) (s.step op).1.view.queue := by
  have hqueue := s.step_queue op
  rw [hmade, Multiset.coe_nil, add_zero, add_comm] at hqueue
  cases op with
  | buildDataDatagram now budget => exact s.buildDataDatagram_served hp now budget
  | onTick now n b m c =>
    obtain ⟨flushed, paced, -, -, hfresh, -, -, hheap, -, -⟩ := s.onTick_parts now n b m c
    have hserved := paced.buildLoop_served hp now n (paced.newBytesBudget b)
    have hsame : paced.view.queue = s.view.queue := by
      simp only [view, queuedFrames, hheap]
    have hleft : (s.step (.onTick now n b m c)).2.fresh
        = (buildLoop now n (paced.newBytesBudget b) paced).1 := hfresh
    rw [hsame, ← hleft] at hserved
    -- What is left is what was there without what left.
    have hrest := add_left_cancel (hqueue.trans hserved.add_eq)
    rw [hrest]
    exact hserved
  | _ =>
    have hsame := (zero_add _).symm.trans hqueue
    rw [hsame]
    exact .nil _

/-! ## What is queued -/

omit [F64 F] in
theorem isSplit_of_mem_enqueueParts {c : SplitContext} {n idx : Nat} {payload : Bytes}
    {s : Session F H} {q : QueuedFrame} (h : q ∈ (enqueueParts c n idx payload s).2.1) :
    q.frame.header.isSplit = true := by
  induction n generalizing idx payload s with
  | zero => cases h
  | succ n ih =>
    rcases List.mem_cons.mp h with rfl | h
    · rfl
    · exact ih h

theorem pairwise_of_length_le_one {α : Type} {R : α → α → Prop} {l : List α}
    (h : l.length ≤ 1) : l.Pairwise R := by
  match l, h with
  | [], _ => exact .nil
  | [x], _ => exact List.pairwise_singleton R x

/-- A payload makes at most one unsplit entry. -/
theorem queuePayload_unsplit {p : QueuedFrame → Bool}
    (hunsplit : ∀ q, p q = true → q.frame.header.isSplit = false) (s : Session F H)
    (payload : Bytes) (reliability : Reliability) (channel : UInt8) (priority : RakPriority)
    (receiptId : Option UInt64) :
    ((s.queuePayloadWithReceipt payload reliability channel priority receiptId).2.1.filter
      p).length ≤ 1 := by
  rcases s.queuePayloadWithReceipt_cases payload reliability channel priority receiptId with
    ⟨_, _, _, -, heq⟩ | ⟨-, heq⟩ | ⟨-, heq⟩
  · rw [heq]
    exact Nat.zero_le 1
  · rw [heq]
    exact List.length_filter_le _ _
  · rw [heq]
    have hnone : (s.enqueueSplitFrames payload reliability channel priority
        receiptId).2.1.filter p = [] := by
      refine List.filter_eq_nil_iff.mpr fun q hq hpq => ?_
      have hsplit := isSplit_of_mem_enqueueParts hq
      rw [hunsplit q hpq] at hsplit
      cases hsplit
    dsimp only
    rw [hnone]
    exact Nat.zero_le 1

/-- A payload of the class is queued with a weight above those of the class that wait. -/
def QueuesBehind (p : QueuedFrame → Bool) (s : Session F H) (op : SessionOp) : Prop :=
  ∀ q ∈ (s.step op).2.made, p q = true →
    ∀ q' ∈ s.queuedFrames, p q' = true → q'.weight < q.weight

instance (p : QueuedFrame → Bool) (s : Session F H) (op : SessionOp) :
    Decidable (QueuesBehind p s op) :=
  inferInstanceAs (Decidable (∀ q ∈ (s.step op).2.made, p q = true →
    ∀ q' ∈ s.queuedFrames, p q' = true → q'.weight < q.weight))

/-- What was made of the class has left in order, or waits in order. -/
def InOrder (p : QueuedFrame → Bool) (outs : List SessionOut) (s : Session F H) : Prop :=
  ∃ waiting : List QueuedFrame, (waiting : Multiset QueuedFrame) = s.view.queue ∧
    (waiting.filter p).Pairwise (fun q q' => q.weight < q'.weight) ∧
    (outs.flatMap SessionOut.made).filter p
      = ((outs.flatMap SessionOut.fresh).flatMap BuiltDatagram.queued).filter p
        ++ waiting.filter p

/-- An operation that queues nothing. -/
theorem InOrder.serve (hp : QueuedFrame.Uniform p) {outs : List SessionOut} {s : Session F H}
    (h : s.InOrder p outs) {op : SessionOp} (hmade : (s.step op).2.made = []) :
    (s.step op).1.InOrder p (outs ++ [(s.step op).2]) := by
  obtain ⟨waiting, hbag, hkeys, hmoved⟩ := h
  obtain ⟨waiting', hbag', heq⟩ := (s.step_served hp op hmade).in_order hbag hkeys
  refine ⟨waiting', hbag', ?_, ?_⟩
  · rw [heq] at hkeys
    exact (List.pairwise_append.mp hkeys).2.1
  · simp only [List.flatMap_append, List.flatMap_singleton, hmade, List.append_nil,
      List.filter_append]
    rw [hmoved, heq, List.append_assoc]

/-- A payload that is queued behind those of its class. -/
theorem InOrder.queue (hunsplit : ∀ q, p q = true → q.frame.header.isSplit = false)
    {outs : List SessionOut} {s : Session F H} (h : s.InOrder p outs) (payload : Bytes)
    (reliability : Reliability) (channel : UInt8) (priority : RakPriority)
    (receiptId : Option UInt64)
    (hbehind : QueuesBehind p s (.queuePayload payload reliability channel priority receiptId)) :
    (s.step (.queuePayload payload reliability channel priority receiptId)).1.InOrder p
      (outs ++ [(s.step (.queuePayload payload reliability channel priority receiptId)).2]) := by
  obtain ⟨waiting, hbag, hkeys, hmoved⟩ := h
  have hone := s.queuePayload_unsplit hunsplit payload reliability channel priority receiptId
  have hqueue := s.step_queue (.queuePayload payload reliability channel priority receiptId)
  have hfresh : (s.step (.queuePayload payload reliability channel priority receiptId)).2.fresh
    = [] := rfl
  have hmade : (s.step (.queuePayload payload reliability channel priority receiptId)).2.made
    = (s.queuePayloadWithReceipt payload reliability channel priority receiptId).2.1 := rfl
  rw [← hmade] at hone
  rw [hfresh, List.flatMap_nil, Multiset.coe_nil, add_zero, ← hbag, Multiset.coe_add] at hqueue
  refine ⟨_, hqueue.symm, ?_, ?_⟩
  · rw [List.filter_append, List.pairwise_append]
    refine ⟨hkeys, pairwise_of_length_le_one hone, fun q' hq' q hq => ?_⟩
    obtain ⟨hmem', hpq'⟩ := List.mem_filter.mp hq'
    obtain ⟨hmem, hpq⟩ := List.mem_filter.mp hq
    have hwaits : q' ∈ s.view.queue := hbag ▸ Multiset.mem_coe.mpr hmem'
    exact hbehind q hmem hpq q' hwaits hpq'
  · simp only [List.flatMap_append, List.flatMap_singleton, hfresh, List.append_nil,
      List.filter_append]
    rw [hmoved, List.append_assoc]

end Session

end Raknet
