-- SUMMARY: The frames a payload becomes, as a function of the write indices alone.
import Raknet.Send.Footprint

/-!
# Framing

Which frames `queue_payload` makes of a payload depends on four counters only:
the reliable, split, ordering and sequencing write indices. This module gives
the frames and the counters after them as functions of the counters before, and
shows that queueing computes these and that no other operation moves a counter.
-/

namespace Raknet

/-- The counters frames take their indices from. -/
@[ext]
structure WriteIndices where
  reliable : Sequence24
  split : UInt16
  ordering : UInt8 → Sequence24
  sequencing : UInt8 → Sequence24

namespace WriteIndices

def reliableIndex (w : WriteIndices) (reliability : Reliability) : Option Sequence24 :=
  if reliability.isReliable then some w.reliable else none

def orderingIndex (w : WriteIndices) (reliability : Reliability) (channel : UInt8) :
    Option Sequence24 :=
  if reliability.isOrdered || reliability.isSequenced then some (w.ordering channel) else none

def sequenceIndex (w : WriteIndices) (reliability : Reliability) (channel : UInt8) :
    Option Sequence24 :=
  if reliability.isSequenced then some (w.sequencing channel) else none

theorem isSome_reliableIndex (w : WriteIndices) (reliability : Reliability) :
    (w.reliableIndex reliability).isSome = reliability.isReliable := by
  unfold reliableIndex
  split <;> simp_all

theorem isSome_orderingIndex (w : WriteIndices) (reliability : Reliability) (channel : UInt8) :
    (w.orderingIndex reliability channel).isSome
      = (reliability.isOrdered || reliability.isSequenced) := by
  unfold orderingIndex
  split <;> simp_all

theorem isSome_sequenceIndex (w : WriteIndices) (reliability : Reliability) (channel : UInt8) :
    (w.sequenceIndex reliability channel).isSome = reliability.isSequenced := by
  unfold sequenceIndex
  split <;> simp_all

def takeReliable (w : WriteIndices) (reliability : Reliability) : WriteIndices :=
  if reliability.isReliable then { w with reliable := w.reliable.next } else w

/-- Ordered and sequenced payloads share the ordering counter of a channel. -/
def takeOrdering (w : WriteIndices) (reliability : Reliability) (channel : UInt8) : WriteIndices :=
  if reliability.isOrdered || reliability.isSequenced then
    { w with ordering := Function.update w.ordering channel (w.ordering channel).next }
  else
    w

def takeSequence (w : WriteIndices) (reliability : Reliability) (channel : UInt8) : WriteIndices :=
  if reliability.isSequenced then
    { w with sequencing := Function.update w.sequencing channel (w.sequencing channel).next }
  else
    w

/-- The frame of a payload that is not split. -/
def singleFrame (w : WriteIndices) (payload : Bytes) (reliability : Reliability)
    (channel : UInt8) : Frame :=
  { header := FrameHeader.new reliability false false
    bitLength := bitLengthOf payload.length
    reliableIndex := w.reliableIndex reliability
    sequenceIndex := w.sequenceIndex reliability channel
    orderingIndex := w.orderingIndex reliability channel
    orderingChannel := (w.orderingIndex reliability channel).map fun _ => channel
    split := none
    payload }

def afterSingle (w : WriteIndices) (reliability : Reliability) (channel : UInt8) : WriteIndices :=
  ((w.takeOrdering reliability channel).takeSequence reliability channel).takeReliable reliability

/-- Cut a payload into `n` pieces of at most `size` bytes. -/
def chunks (size : Nat) : Nat → Bytes → List Bytes
  | 0, _ => []
  | n + 1, payload => payload.take size :: chunks size n (payload.drop size)

/-- The counters in front of the frames of a payload that is split. -/
def beforeParts (w : WriteIndices) (reliability : Reliability) (channel : UInt8) : WriteIndices :=
  ({ w with split := w.split + 1 }.takeOrdering reliability channel).takeSequence reliability
    channel

/-- The frames of the pieces from number `idx` on. -/
def partFrames (c : Session.SplitContext) : WriteIndices → Nat → List Bytes → List Frame
  | _, _, [] => []
  | w, idx, part :: rest =>
    c.frame idx (w.reliableIndex c.reliability) part
      :: partFrames c (w.takeReliable c.reliability) (idx + 1) rest

/-- The counters after the frames of the pieces. -/
def afterParts (reliability : Reliability) : WriteIndices → List Bytes → WriteIndices
  | w, [] => w
  | w, _ :: rest => afterParts reliability (w.takeReliable reliability) rest

/-! ## Which counter moves -/

variable (w : WriteIndices) (reliability : Reliability) (channel : UInt8)

@[simp] theorem takeReliable_split : (w.takeReliable reliability).split = w.split := by
  unfold takeReliable; split <;> rfl

@[simp] theorem takeReliable_ordering : (w.takeReliable reliability).ordering = w.ordering := by
  unfold takeReliable; split <;> rfl

@[simp] theorem takeReliable_sequencing :
    (w.takeReliable reliability).sequencing = w.sequencing := by
  unfold takeReliable; split <;> rfl

@[simp] theorem takeOrdering_reliable :
    (w.takeOrdering reliability channel).reliable = w.reliable := by
  unfold takeOrdering; split <;> rfl

@[simp] theorem takeOrdering_split : (w.takeOrdering reliability channel).split = w.split := by
  unfold takeOrdering; split <;> rfl

@[simp] theorem takeOrdering_sequencing :
    (w.takeOrdering reliability channel).sequencing = w.sequencing := by
  unfold takeOrdering; split <;> rfl

@[simp] theorem takeSequence_reliable :
    (w.takeSequence reliability channel).reliable = w.reliable := by
  unfold takeSequence; split <;> rfl

@[simp] theorem takeSequence_split : (w.takeSequence reliability channel).split = w.split := by
  unfold takeSequence; split <;> rfl

@[simp] theorem takeSequence_ordering :
    (w.takeSequence reliability channel).ordering = w.ordering := by
  unfold takeSequence; split <;> rfl

/-! ## Pieces -/

@[simp] theorem length_chunks (size n : Nat) (payload : Bytes) :
    (chunks size n payload).length = n := by
  induction n generalizing payload with
  | zero => rfl
  | succ n ih => simp [chunks, ih]

/-- The pieces put together are the payload, if there are enough of them. -/
theorem flatten_chunks {size n : Nat} {payload : Bytes} (h : payload.length ≤ n * size) :
    (chunks size n payload).flatten = payload := by
  induction n generalizing payload with
  | zero =>
    rw [Nat.zero_mul, Nat.le_zero, List.length_eq_zero_iff] at h
    rw [h]
    rfl
  | succ n ih =>
    rw [Nat.succ_mul] at h
    have hrest : (payload.drop size).length ≤ n * size := by rw [List.length_drop]; omega
    rw [chunks, List.flatten_cons, ih hrest, List.take_append_drop]

/-- The frame of the part at a position. -/
theorem getElem?_partFrames {c : Session.SplitContext} {w : WriteIndices} {idx j : Nat}
    {parts : List Bytes} {f : Frame} (hf : (partFrames c w idx parts)[j]? = some f) :
    ∃ (w' : WriteIndices) (part : Bytes), parts[j]? = some part ∧
      f = c.frame (idx + j) (w'.reliableIndex c.reliability) part := by
  induction parts generalizing w idx j with
  | nil => cases hf
  | cons part rest ih =>
    cases j with
    | zero =>
      obtain rfl := Option.some.inj hf
      exact ⟨w, part, rfl, rfl⟩
    | succ j =>
      obtain ⟨w', part', hpart', rfl⟩ := ih hf
      exact ⟨w', part', hpart', by rw [Nat.add_assoc, Nat.add_comm 1 j]⟩

theorem mem_partFrames {c : Session.SplitContext} {w : WriteIndices} {idx : Nat}
    {parts : List Bytes} {f : Frame} (hf : f ∈ partFrames c w idx parts) :
    ∃ (i : Nat) (w' : WriteIndices) (part : Bytes), parts[i]? = some part ∧
      f = c.frame (idx + i) (w'.reliableIndex c.reliability) part := by
  obtain ⟨i, hi⟩ := List.mem_iff_getElem?.mp hf
  exact ⟨i, getElem?_partFrames hi⟩

@[simp] theorem map_payload_partFrames (c : Session.SplitContext) (w : WriteIndices) (idx : Nat)
    (parts : List Bytes) : (partFrames c w idx parts).map Frame.payload = parts := by
  induction parts generalizing w idx with
  | nil => rfl
  | cons part rest ih => rw [partFrames, List.map_cons, ih]; rfl

@[simp] theorem length_partFrames (c : Session.SplitContext) (w : WriteIndices) (idx : Nat)
    (parts : List Bytes) : (partFrames c w idx parts).length = parts.length := by
  induction parts generalizing w idx with
  | nil => rfl
  | cons part rest ih => simp [partFrames, ih]

theorem afterParts_eq (parts : List Bytes) :
    ∃ index : Sequence24, afterParts reliability w parts = { w with reliable := index } := by
  induction parts generalizing w with
  | nil => exact ⟨w.reliable, rfl⟩
  | cons part rest ih =>
    obtain ⟨index, h⟩ := ih (w.takeReliable reliability)
    rw [afterParts, h]
    unfold takeReliable
    split
    · exact ⟨index, rfl⟩
    · exact ⟨index, rfl⟩

end WriteIndices

variable {F H : Type}

namespace Session

def writeIndices (s : Session F H) : WriteIndices :=
  { reliable := s.reliableWriteIndex
    split := s.splitWriteIndex
    ordering := fun c => s.orderingWriteIndex.getD c.toNat (Sequence24.new 0)
    sequencing := fun c => s.sequencingWriteIndex.getD c.toNat (Sequence24.new 0) }

/-! ## Index allocation -/

theorem reliableIndexIfNeeded_indices (s : Session F H) (reliability : Reliability) :
    (s.reliableIndexIfNeeded reliability).1 = s.writeIndices.reliableIndex reliability ∧
    (s.reliableIndexIfNeeded reliability).2.writeIndices
      = s.writeIndices.takeReliable reliability := by
  unfold reliableIndexIfNeeded WriteIndices.reliableIndex WriteIndices.takeReliable
  split
  · exact ⟨rfl, rfl⟩
  · exact ⟨rfl, rfl⟩

/-- Writing one slot of a growing vector of counters. -/
theorem getD_setGrow_update (l : List Sequence24) (channel : UInt8) (v : Sequence24) :
    (fun c : UInt8 => (l.setGrow channel.toNat (Sequence24.new 0) v).getD c.toNat
      (Sequence24.new 0))
      = Function.update (fun c : UInt8 => l.getD c.toNat (Sequence24.new 0)) channel v := by
  funext c
  simp only [List.getD_setGrow, Function.update_apply, UInt8.toNat_inj]

theorem nextOrderingIndexIfNeeded_indices (s : Session F H) (reliability : Reliability)
    (channel : UInt8) :
    (s.nextOrderingIndexIfNeeded reliability channel).1
      = s.writeIndices.orderingIndex reliability channel ∧
    (s.nextOrderingIndexIfNeeded reliability channel).2.writeIndices
      = s.writeIndices.takeOrdering reliability channel := by
  unfold nextOrderingIndexIfNeeded WriteIndices.orderingIndex WriteIndices.takeOrdering
  cases reliability.isOrdered || reliability.isSequenced with
  | false => exact ⟨rfl, rfl⟩
  | true => exact ⟨rfl, WriteIndices.ext rfl rfl (getD_setGrow_update _ _ _) rfl⟩

theorem nextSequenceIndexIfNeeded_indices (s : Session F H) (reliability : Reliability)
    (channel : UInt8) :
    (s.nextSequenceIndexIfNeeded reliability channel).1
      = s.writeIndices.sequenceIndex reliability channel ∧
    (s.nextSequenceIndexIfNeeded reliability channel).2.writeIndices
      = s.writeIndices.takeSequence reliability channel := by
  unfold nextSequenceIndexIfNeeded WriteIndices.sequenceIndex WriteIndices.takeSequence
  cases reliability.isSequenced with
  | false => exact ⟨rfl, rfl⟩
  | true => exact ⟨rfl, WriteIndices.ext rfl rfl rfl (getD_setGrow_update _ _ _)⟩

/-! ## The frames of a payload -/

section Frames

variable [MinHeap H QueuedFrame QueuedFrame.weight]

theorem enqueueSingleFrame_made (s : Session F H) (payload : Bytes) (reliability : Reliability)
    (channel : UInt8) (priority : RakPriority) (receiptId : Option UInt64) :
    (s.enqueueSingleFrame payload reliability channel priority receiptId).2.1.map QueuedFrame.frame
      = [s.writeIndices.singleFrame payload reliability channel] ∧
    (s.enqueueSingleFrame payload reliability channel priority receiptId).2.2.writeIndices
      = s.writeIndices.afterSingle reliability channel := by
  obtain ⟨ho, ho'⟩ := s.nextOrderingIndexIfNeeded_indices reliability channel
  simp only [enqueueSingleFrame]
  generalize s.nextOrderingIndexIfNeeded reliability channel = r₁ at ho ho' ⊢
  obtain ⟨orderingIndex, s₁⟩ := r₁
  obtain ⟨hs, hs'⟩ := s₁.nextSequenceIndexIfNeeded_indices reliability channel
  dsimp only at ho ho' ⊢
  generalize s₁.nextSequenceIndexIfNeeded reliability channel = r₂ at hs hs' ⊢
  obtain ⟨sequenceIndex, s₂⟩ := r₂
  obtain ⟨hr, hr'⟩ := s₂.reliableIndexIfNeeded_indices reliability
  dsimp only at hs hs' ⊢
  generalize s₂.reliableIndexIfNeeded reliability = r₃ at hr hr' ⊢
  obtain ⟨reliableIndex, s₃⟩ := r₃
  dsimp only at hr hr' ⊢
  -- The three allocations read different counters.
  rw [ho'] at hs hs'
  rw [hs'] at hr hr'
  have hseq : sequenceIndex = s.writeIndices.sequenceIndex reliability channel := by
    rw [hs, WriteIndices.sequenceIndex, WriteIndices.takeOrdering_sequencing]
    rfl
  have hrel : reliableIndex = s.writeIndices.reliableIndex reliability := by
    rw [hr, WriteIndices.reliableIndex, WriteIndices.takeSequence_reliable,
      WriteIndices.takeOrdering_reliable]
    rfl
  refine ⟨?_, hr'⟩
  rw [hseq, hrel, ho]
  rfl

theorem enqueueParts_made (c : SplitContext) (n idx : Nat) (payload : Bytes) (s : Session F H) :
    (enqueueParts c n idx payload s).2.1.map QueuedFrame.frame
      = WriteIndices.partFrames c s.writeIndices idx
          (WriteIndices.chunks c.maxSplitPayload n payload) ∧
    (enqueueParts c n idx payload s).2.2.writeIndices
      = WriteIndices.afterParts c.reliability s.writeIndices
          (WriteIndices.chunks c.maxSplitPayload n payload) := by
  induction n generalizing idx payload s with
  | zero => exact ⟨rfl, rfl⟩
  | succ n ih =>
    obtain ⟨hr, hr'⟩ := s.reliableIndexIfNeeded_indices c.reliability
    have htake : payload.take (min payload.length c.maxSplitPayload)
        = payload.take c.maxSplitPayload := by
      rw [Nat.min_comm, ← List.take_eq_take_min]
    have hdrop : payload.drop (min payload.length c.maxSplitPayload)
        = payload.drop c.maxSplitPayload := by
      rcases Nat.le_total payload.length c.maxSplitPayload with h | h
      · rw [Nat.min_eq_left h, List.drop_length, List.drop_eq_nil_of_le h]
      · rw [Nat.min_eq_right h]
    simp only [enqueueParts, htake, hdrop]
    obtain ⟨ih₁, ih₂⟩ := ih (idx + 1) (payload.drop c.maxSplitPayload)
      ((s.reliableIndexIfNeeded c.reliability).2.pushOutgoingFrame
        (c.frame idx (s.reliableIndexIfNeeded c.reliability).1 (payload.take c.maxSplitPayload))
        c.priority c.receiptId).2
    have hpush : ((s.reliableIndexIfNeeded c.reliability).2.pushOutgoingFrame
        (c.frame idx (s.reliableIndexIfNeeded c.reliability).1 (payload.take c.maxSplitPayload))
        c.priority c.receiptId).2.writeIndices = s.writeIndices.takeReliable c.reliability := hr'
    rw [hpush] at ih₁ ih₂
    refine ⟨?_, ih₂⟩
    rw [List.map_cons, ih₁, hr]
    rfl

/-- The values `enqueue_split_frames` fixes for a payload. -/
def splitContext (s : Session F H) (payload : Bytes) (reliability : Reliability)
    (channel : UInt8) (priority : RakPriority) (receiptId : Option UInt64) : SplitContext :=
  let effective := normalizeReliabilityForSplit reliability
  let maxSplitPayload := max (s.maxPayloadFor effective true) 1
  { reliability := effective
    channel
    priority
    receiptId
    maxSplitPayload
    partCount := divCeil payload.length maxSplitPayload
    splitId := s.writeIndices.split
    orderingIndex := s.writeIndices.orderingIndex effective channel
    sequenceIndex := s.writeIndices.sequenceIndex effective channel }

/-- The pieces `enqueue_split_frames` cuts a payload into. -/
def splitParts (s : Session F H) (payload : Bytes) (reliability : Reliability) : List Bytes :=
  let maxSplitPayload := max (s.maxPayloadFor (normalizeReliabilityForSplit reliability) true) 1
  WriteIndices.chunks maxSplitPayload (divCeil payload.length maxSplitPayload) payload

omit [MinHeap H QueuedFrame QueuedFrame.weight] in
theorem flatten_splitParts (s : Session F H) (payload : Bytes) (reliability : Reliability) :
    (s.splitParts payload reliability).flatten = payload := by
  refine WriteIndices.flatten_chunks ?_
  set size := max (s.maxPayloadFor (normalizeReliabilityForSplit reliability) true) 1
  have hpos : 0 < size := Nat.lt_of_lt_of_le Nat.one_pos (Nat.le_max_right _ _)
  have h := Nat.lt_div_mul_add (a := payload.length + size - 1) hpos
  unfold divCeil
  omega

theorem enqueueSplitFrames_made (s : Session F H) (payload : Bytes) (reliability : Reliability)
    (channel : UInt8) (priority : RakPriority) (receiptId : Option UInt64) :
    (s.enqueueSplitFrames payload reliability channel priority receiptId).2.1.map QueuedFrame.frame
      = WriteIndices.partFrames
          (s.splitContext payload reliability channel priority receiptId)
          (s.writeIndices.beforeParts (normalizeReliabilityForSplit reliability) channel) 0
          (s.splitParts payload reliability) ∧
    (s.enqueueSplitFrames payload reliability channel priority receiptId).2.2.writeIndices
      = WriteIndices.afterParts (normalizeReliabilityForSplit reliability)
          (s.writeIndices.beforeParts (normalizeReliabilityForSplit reliability) channel)
          (s.splitParts payload reliability) := by
  set effective := normalizeReliabilityForSplit reliability with heff
  obtain ⟨ho, ho'⟩ := nextOrderingIndexIfNeeded_indices
    { s with splitWriteIndex := s.splitWriteIndex + 1 } effective channel
  simp only [enqueueSplitFrames, ← heff]
  generalize nextOrderingIndexIfNeeded { s with splitWriteIndex := s.splitWriteIndex + 1 }
    effective channel = r₁ at ho ho' ⊢
  obtain ⟨orderingIndex, s₁⟩ := r₁
  obtain ⟨hs, hs'⟩ := s₁.nextSequenceIndexIfNeeded_indices effective channel
  dsimp only at ho ho' ⊢
  generalize s₁.nextSequenceIndexIfNeeded effective channel = r₂ at hs hs' ⊢
  obtain ⟨sequenceIndex, s₂⟩ := r₂
  dsimp only at hs hs' ⊢
  rw [ho'] at hs hs'
  have hord : orderingIndex = s.writeIndices.orderingIndex effective channel := ho
  have hseq : sequenceIndex = s.writeIndices.sequenceIndex effective channel := by
    rw [hs, WriteIndices.sequenceIndex, WriteIndices.takeOrdering_sequencing]
    rfl
  subst hord hseq
  obtain ⟨hm, hm'⟩ := enqueueParts_made
    (s.splitContext payload reliability channel priority receiptId)
    (divCeil payload.length (max (s.maxPayloadFor effective true) 1)) 0 payload s₂
  rw [hs'] at hm hm'
  exact ⟨hm, hm'⟩

/-- What queueing a payload can do to the counters: its result, the frames it
    makes, and the counters after it. -/
inductive QueueOutcome (s : Session F H) (payload : Bytes) (reliability : Reliability)
    (channel : UInt8) (priority : RakPriority) (receiptId : Option UInt64) :
    QueuePayloadResult × List Frame × WriteIndices → Prop where
  /-- A refused payload leaves the counters alone. -/
  | refused {result : QueuePayloadResult} (hrefused : ∀ n, result ≠ .enqueued n) :
    QueueOutcome s payload reliability channel priority receiptId (result, [], s.writeIndices)
  | single (bytes : Nat) (hfits : payload.length ≤ s.maxPayloadFor reliability false) :
    QueueOutcome s payload reliability channel priority receiptId
      (.enqueued bytes, [s.writeIndices.singleFrame payload reliability channel],
        s.writeIndices.afterSingle reliability channel)
  | split (bytes : Nat) (hlong : s.maxPayloadFor reliability false < payload.length) :
    QueueOutcome s payload reliability channel priority receiptId
      (.enqueued bytes,
        WriteIndices.partFrames (s.splitContext payload reliability channel priority receiptId)
          (s.writeIndices.beforeParts (normalizeReliabilityForSplit reliability) channel) 0
          (s.splitParts payload reliability),
        WriteIndices.afterParts (normalizeReliabilityForSplit reliability)
          (s.writeIndices.beforeParts (normalizeReliabilityForSplit reliability) channel)
          (s.splitParts payload reliability))

variable [F64 F]

theorem queuePayload_outcome (s : Session F H) (payload : Bytes) (reliability : Reliability)
    (channel : UInt8) (priority : RakPriority) (receiptId : Option UInt64) :
    let r := s.queuePayloadWithReceipt payload reliability channel priority receiptId
    QueueOutcome s payload reliability channel priority receiptId
      (r.1, r.2.1.map QueuedFrame.frame, r.2.2.writeIndices) := by
  intro r
  rcases s.queuePayloadWithReceipt_cases payload reliability channel priority receiptId with
    ⟨result, _, _, hrefused, heq⟩ | ⟨hfits, heq⟩ | ⟨hlong, heq⟩
  · simp only [r, heq]
    exact .refused hrefused
  · obtain ⟨hmade, hafter⟩ :=
      s.enqueueSingleFrame_made payload reliability channel priority receiptId
    simp only [r, heq, hmade, hafter]
    exact .single _ hfits
  · obtain ⟨hmade, hafter⟩ :=
      s.enqueueSplitFrames_made payload reliability channel priority receiptId
    simp only [r, heq, hmade, hafter]
    exact .split _ hlong

end Frames

variable [F64 F] [MinHeap H QueuedFrame QueuedFrame.weight]

/-- Only queueing makes frames and moves counters. -/
theorem step_indices (s : Session F H) (op : SessionOp) :
    (∃ payload reliability channel priority receiptId,
      op = .queuePayload payload reliability channel priority receiptId) ∨
    ((s.step op).2.made = [] ∧ (s.step op).1.writeIndices = s.writeIndices) := by
  refine (s.step_queues op).imp_right fun h => ⟨h.made, ?_⟩
  simp only [writeIndices, h.reliableWriteIndex, h.splitWriteIndex, h.orderingWriteIndex,
    h.sequencingWriteIndex]

end Session

end Raknet
