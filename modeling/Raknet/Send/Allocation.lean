-- SUMMARY: The payloads a run accepted, and the indices their frames carry.
import Raknet.Send.Framing

/-!
# Index allocation

Every accepted payload takes its indices from counters that only accepted
payloads move: one reliable index for each frame of a reliable class, one
ordering index and one sequence index for the whole payload, on its channel. So
the indices of a run are the numbers from 0 on, in the order of acceptance.
-/

namespace Raknet

/-- A payload that `queue_payload` accepted, with the frames made of it. -/
structure AcceptedPayload where
  payload : Bytes
  reliability : Reliability
  channel : UInt8
  frames : List Frame
deriving DecidableEq, Repr

namespace AcceptedPayload

/-- The payload takes an ordering index of the channel. -/
def ordersOn (c : UInt8) (a : AcceptedPayload) : Bool :=
  decide (a.channel = c) && (a.reliability.isOrdered || a.reliability.isSequenced)

/-- The payload takes a sequence index of the channel. -/
def sequencesOn (c : UInt8) (a : AcceptedPayload) : Bool :=
  decide (a.channel = c) && a.reliability.isSequenced

/-- All frames of the payload carry the ordering index. -/
def OrderedAt (c : UInt8) (i : Sequence24) (a : AcceptedPayload) : Prop :=
  a.frames ≠ [] ∧ ∀ f ∈ a.frames, f.orderingChannel = some c ∧ f.orderingIndex = some i

/-- All frames of the payload carry the sequence index. -/
def SequencedAt (i : Sequence24) (a : AcceptedPayload) : Prop :=
  a.frames ≠ [] ∧ ∀ f ∈ a.frames, f.sequenceIndex = some i

end AcceptedPayload

/-- The payload an operation got accepted, if any. -/
def SessionOp.accepted : SessionOp → SessionOut → List AcceptedPayload
  | .queuePayload payload reliability channel _ _, .queued (.enqueued _) made =>
    [⟨payload, reliability, channel, made.map QueuedFrame.frame⟩]
  | _, _ => []

/-! ## The frames of one payload -/

theorem isOrdered_normalizeReliabilityForSplit (r : Reliability) :
    (normalizeReliabilityForSplit r).isOrdered = r.isOrdered := by
  cases r <;> rfl

theorem isSequenced_normalizeReliabilityForSplit (r : Reliability) :
    (normalizeReliabilityForSplit r).isSequenced = r.isSequenced := by
  cases r <;> rfl

namespace WriteIndices

variable {reliability : Reliability}

theorem takeReliable_of_reliable (w : WriteIndices) (h : reliability.isReliable = true) :
    (w.takeReliable reliability).reliable = w.reliable.next := by
  simp [takeReliable, h]

theorem afterParts_reliable {w : WriteIndices} {n : Nat} (h : reliability.isReliable = true)
    (hw : w.reliable = Sequence24.new n) (parts : List Bytes) :
    (afterParts reliability w parts).reliable = Sequence24.new (n + parts.length) := by
  induction parts generalizing w n with
  | nil => exact hw
  | cons part rest ih =>
    have hnext : (w.takeReliable reliability).reliable = Sequence24.new (n + 1) := by
      rw [takeReliable_of_reliable w h, hw, Sequence24.next_new]
    rw [afterParts, ih hnext, List.length_cons]
    congr 1
    omega

/-- The parts of a payload take consecutive reliable indices. -/
theorem partFrames_reliable {c : Session.SplitContext} {w : WriteIndices} {n : Nat}
    (h : c.reliability.isReliable = true) (hw : w.reliable = Sequence24.new n) (idx : Nat)
    (parts : List Bytes) :
    (partFrames c w idx parts).filterMap Frame.reliableIndex
      = (List.range' n parts.length).map Sequence24.new := by
  induction parts generalizing w n idx with
  | nil => rfl
  | cons part rest ih =>
    have hnext : (w.takeReliable c.reliability).reliable = Sequence24.new (n + 1) := by
      rw [takeReliable_of_reliable w h, hw, Sequence24.next_new]
    have hindex : (c.frame idx (w.reliableIndex c.reliability) part).reliableIndex
        = some (Sequence24.new n) := by
      simp [Session.SplitContext.frame, reliableIndex, h, hw]
    rw [partFrames, List.filterMap_cons_some hindex, ih hnext, List.length_cons,
      List.range'_succ, List.map_cons]

@[simp] theorem afterParts_ordering (w : WriteIndices) (parts : List Bytes) :
    (afterParts reliability w parts).ordering = w.ordering := by
  obtain ⟨_, h⟩ := afterParts_eq w reliability parts
  rw [h]

@[simp] theorem afterParts_sequencing (w : WriteIndices) (parts : List Bytes) :
    (afterParts reliability w parts).sequencing = w.sequencing := by
  obtain ⟨_, h⟩ := afterParts_eq w reliability parts
  rw [h]

@[simp] theorem beforeParts_reliable (w : WriteIndices) (c : UInt8) :
    (w.beforeParts reliability c).reliable = w.reliable := by
  simp [beforeParts]

/-- The ordering counter of a channel after a payload of a given class. -/
theorem takeOrdering_apply (w : WriteIndices) (ch c : UInt8) :
    (w.takeOrdering reliability ch).ordering c
      = if ch = c ∧ (reliability.isOrdered || reliability.isSequenced) = true then
          (w.ordering c).next else w.ordering c := by
  unfold takeOrdering
  split
  · next h =>
    rcases eq_or_ne ch c with rfl | hne
    · simp [h]
    · simp [hne, Ne.symm hne]
  · next h => simp [h]

theorem takeSequence_apply (w : WriteIndices) (ch c : UInt8) :
    (w.takeSequence reliability ch).sequencing c
      = if ch = c ∧ reliability.isSequenced = true then (w.sequencing c).next
        else w.sequencing c := by
  unfold takeSequence
  split
  · next h =>
    rcases eq_or_ne ch c with rfl | hne
    · simp [h]
    · simp [hne, Ne.symm hne]
  · next h => simp [h]

theorem orderingIndex_normalize (w : WriteIndices) (r : Reliability) (c : UInt8) :
    w.orderingIndex (normalizeReliabilityForSplit r) c = w.orderingIndex r c := by
  simp only [orderingIndex, isOrdered_normalizeReliabilityForSplit,
    isSequenced_normalizeReliabilityForSplit]

theorem sequenceIndex_normalize (w : WriteIndices) (r : Reliability) (c : UInt8) :
    w.sequenceIndex (normalizeReliabilityForSplit r) c = w.sequenceIndex r c := by
  simp only [sequenceIndex, isSequenced_normalizeReliabilityForSplit]

/-- What an accepted payload takes from the counters `w`, which leaves `w'`. -/
structure Took (w w' : WriteIndices) (a : AcceptedPayload) : Prop where
  nonempty : a.frames ≠ []
  orderingIndex : ∀ f ∈ a.frames,
    f.orderingIndex = w.orderingIndex a.reliability a.channel ∧
    f.orderingChannel = (w.orderingIndex a.reliability a.channel).map fun _ => a.channel
  sequenceIndex : ∀ f ∈ a.frames, f.sequenceIndex = w.sequenceIndex a.reliability a.channel
  ordering : ∀ c, w'.ordering c = if a.ordersOn c then (w.ordering c).next else w.ordering c
  sequencing : ∀ c,
    w'.sequencing c = if a.sequencesOn c then (w.sequencing c).next else w.sequencing c
  reliable : ∀ n, w.reliable = Sequence24.new n → ∃ j,
    a.frames.filterMap Frame.reliableIndex = (List.range' n j).map Sequence24.new ∧
    w'.reliable = Sequence24.new (n + j)

theorem took_single (w : WriteIndices) (payload : Bytes) (reliability : Reliability)
    (channel : UInt8) :
    Took w (w.afterSingle reliability channel)
      ⟨payload, reliability, channel, [w.singleFrame payload reliability channel]⟩ where
  nonempty := List.cons_ne_nil _ _
  orderingIndex := by
    intro f hf
    rw [List.mem_singleton.mp hf]
    exact ⟨rfl, rfl⟩
  sequenceIndex := by
    intro f hf
    rw [List.mem_singleton.mp hf]
    rfl
  ordering := by
    intro c
    simp [afterSingle, takeOrdering_apply, AcceptedPayload.ordersOn]
  sequencing := by
    intro c
    simp [afterSingle, takeSequence_apply, AcceptedPayload.sequencesOn]
  reliable := by
    intro n hn
    cases hrel : reliability.isReliable with
    | false => exact ⟨0, by simp [singleFrame, reliableIndex, hrel],
        by simp [afterSingle, takeReliable, hrel, hn]⟩
    | true => exact ⟨1, by simp [singleFrame, reliableIndex, hrel, hn],
        by simp [afterSingle, takeReliable, hrel, hn, Sequence24.next_new]⟩

end WriteIndices

namespace Session

variable {F H : Type}

theorem splitParts_ne_nil {s : Session F H} {payload : Bytes} (reliability : Reliability)
    (h : payload ≠ []) : s.splitParts payload reliability ≠ [] := by
  intro hnil
  have hflat := s.flatten_splitParts payload reliability
  rw [hnil] at hflat
  exact h hflat.symm

theorem took_split (s : Session F H) {payload : Bytes} (hpayload : payload ≠ [])
    (reliability : Reliability) (channel : UInt8) (priority : RakPriority)
    (receiptId : Option UInt64) :
    WriteIndices.Took s.writeIndices
      (WriteIndices.afterParts (normalizeReliabilityForSplit reliability)
        (s.writeIndices.beforeParts (normalizeReliabilityForSplit reliability) channel)
        (s.splitParts payload reliability))
      ⟨payload, reliability, channel,
        WriteIndices.partFrames (s.splitContext payload reliability channel priority receiptId)
          (s.writeIndices.beforeParts (normalizeReliabilityForSplit reliability) channel) 0
          (s.splitParts payload reliability)⟩ where
  nonempty := by
    intro hnil
    have hlength := congrArg List.length hnil
    rw [WriteIndices.length_partFrames, List.length_nil, List.length_eq_zero_iff] at hlength
    exact splitParts_ne_nil reliability hpayload hlength
  orderingIndex := by
    intro f hf
    obtain ⟨_, _, _, -, rfl⟩ := WriteIndices.mem_partFrames hf
    simp only [SplitContext.frame, splitContext, WriteIndices.orderingIndex_normalize]
    exact ⟨trivial, trivial⟩
  sequenceIndex := by
    intro f hf
    obtain ⟨_, _, _, -, rfl⟩ := WriteIndices.mem_partFrames hf
    simp only [SplitContext.frame, splitContext, WriteIndices.sequenceIndex_normalize]
  ordering := by
    intro c
    rw [WriteIndices.afterParts_ordering, WriteIndices.beforeParts,
      WriteIndices.takeSequence_ordering, WriteIndices.takeOrdering_apply,
      isOrdered_normalizeReliabilityForSplit, isSequenced_normalizeReliabilityForSplit]
    simp [AcceptedPayload.ordersOn]
  sequencing := by
    intro c
    rw [WriteIndices.afterParts_sequencing, WriteIndices.beforeParts,
      WriteIndices.takeSequence_apply, isSequenced_normalizeReliabilityForSplit,
      WriteIndices.takeOrdering_sequencing]
    simp [AcceptedPayload.sequencesOn]
  reliable := by
    intro n hn
    have hreliable := isReliable_normalizeReliabilityForSplit reliability
    have hbefore : (s.writeIndices.beforeParts (normalizeReliabilityForSplit reliability)
        channel).reliable = Sequence24.new n := by
      rw [WriteIndices.beforeParts_reliable, hn]
    exact ⟨_, WriteIndices.partFrames_reliable hreliable hbefore 0 _,
      WriteIndices.afterParts_reliable hreliable hbefore _⟩

variable [F64 F] [MinHeap H QueuedFrame QueuedFrame.weight]

/-- An operation gets at most one payload accepted; without one it makes no
    frame and moves no counter. -/
theorem step_took (s : Session F H) (op : SessionOp) :
    (op.accepted (s.step op).2 = [] ∧ (s.step op).2.made = [] ∧
      (s.step op).1.writeIndices = s.writeIndices) ∨
    ∃ a, op.accepted (s.step op).2 = [a] ∧
      (s.step op).2.made.map QueuedFrame.frame = a.frames ∧
      WriteIndices.Took s.writeIndices (s.step op).1.writeIndices a := by
  have hindices := s.step_indices op
  cases op with
  | queuePayload payload reliability channel priority receiptId =>
    have houtcome := s.queuePayload_outcome payload reliability channel priority receiptId
    simp only [step, SessionOut.made]
    generalize s.queuePayloadWithReceipt payload reliability channel priority receiptId = r
      at houtcome ⊢
    obtain ⟨result, queued, s'⟩ := r
    dsimp only at houtcome ⊢
    generalize s'.writeIndices = after at houtcome ⊢
    generalize hframes : queued.map QueuedFrame.frame = frames at houtcome ⊢
    cases houtcome with
    | refused hrefused =>
      refine .inl ⟨?_, List.map_eq_nil_iff.mp hframes, rfl⟩
      cases result with
      | enqueued n => exact absurd rfl (hrefused n)
      | _ => rfl
    | single _ _ =>
      refine .inr ⟨_, ?_, rfl, s.writeIndices.took_single payload reliability channel⟩
      simp only [SessionOp.accepted, hframes]
    | split _ hlong =>
      have hpayload : payload ≠ [] := by
        rintro rfl
        exact Nat.not_lt_zero _ hlong
      refine .inr ⟨_, ?_, rfl, s.took_split hpayload reliability channel priority receiptId⟩
      simp only [SessionOp.accepted, hframes]
  | _ =>
    rcases hindices with ⟨_, _, _, _, _, hop⟩ | ⟨hnone, hsame⟩
    · cases hop
    · exact .inl ⟨rfl, hnone, hsame⟩

/-! ## Runs -/

/-- The frames a run made, in order. -/
def madeFrames (s : Session F H) (ops : List SessionOp) : List Frame :=
  (((sessionMachine F H).outputs s ops).flatMap SessionOut.made).map QueuedFrame.frame

/-- The payloads a run got accepted, in order. -/
def acceptedPayloads (s : Session F H) : List SessionOp → List AcceptedPayload
  | [] => []
  | op :: ops => op.accepted (s.step op).2 ++ acceptedPayloads (s.step op).1 ops

theorem madeFrames_cons (s : Session F H) (op : SessionOp) (ops : List SessionOp) :
    madeFrames s (op :: ops)
      = (s.step op).2.made.map QueuedFrame.frame ++ madeFrames (s.step op).1 ops := by
  simp only [madeFrames, Machine.outputs_cons, List.flatMap_cons, List.map_append,
    sessionMachine_step]

/-- The reliable indices of a run follow each other, and the counter is behind the
    last. -/
theorem madeFrames_reliable {s : Session F H} {n : Nat}
    (hn : s.writeIndices.reliable = Sequence24.new n) (ops : List SessionOp) :
    ∃ m, (madeFrames s ops).filterMap Frame.reliableIndex
        = (List.range' n m).map Sequence24.new ∧
      ((sessionMachine F H).exec s ops).writeIndices.reliable = Sequence24.new (n + m) := by
  induction ops generalizing s n with
  | nil => exact ⟨0, rfl, hn⟩
  | cons op ops ih =>
    rw [madeFrames_cons, List.filterMap_append]
    rcases s.step_took op with ⟨-, hnone, hsame⟩ | ⟨a, -, hframes, htook⟩
    · obtain ⟨m, hm, hafter⟩ := ih (hsame ▸ hn)
      exact ⟨m, by rw [hnone, hm]; rfl, hafter⟩
    · obtain ⟨j, hown, hnext⟩ := htook.reliable n hn
      obtain ⟨m, hm, hafter⟩ := ih hnext
      refine ⟨j + m, ?_, by rw [← Nat.add_assoc]; exact hafter⟩
      rw [hframes, hown, hm, ← List.map_append, List.range'_append_1]

/-- The frames of a run are those of its accepted payloads. -/
theorem madeFrames_eq_flatMap (s : Session F H) (ops : List SessionOp) :
    madeFrames s ops = (acceptedPayloads s ops).flatMap AcceptedPayload.frames := by
  induction ops generalizing s with
  | nil => rfl
  | cons op ops ih =>
    rw [madeFrames_cons, acceptedPayloads, List.flatMap_append, ih]
    rcases s.step_took op with ⟨hnone, hmade, -⟩ | ⟨a, hone, hframes, -⟩
    · rw [hnone, hmade]
      rfl
    · rw [hone, hframes, List.flatMap_singleton]

/-- Payloads that each take one number of a counter take the numbers in order.
    `uses` says which payloads take one, `At` that a payload has it. -/
theorem acceptedPayloads_numbered {ι : Type} (number : Nat → ι) (counter : WriteIndices → ι)
    {uses : AcceptedPayload → Bool} {At : ι → AcceptedPayload → Prop}
    (htook : ∀ {s : Session F H} {op : SessionOp} {a : AcceptedPayload} {n : Nat},
      op.accepted (s.step op).2 = [a] → counter s.writeIndices = number n →
      counter (s.step op).1.writeIndices = number (if uses a then n + 1 else n) ∧
      (uses a = true → At (number n) a))
    {s : Session F H} {n : Nat} (hn : counter s.writeIndices = number n)
    (ops : List SessionOp) {k : Nat} {a : AcceptedPayload}
    (ha : ((acceptedPayloads s ops).filter uses)[k]? = some a) :
    At (number (n + k)) a := by
  induction ops generalizing s n k with
  | nil => cases ha
  | cons op ops ih =>
    rw [acceptedPayloads, List.filter_append] at ha
    rcases s.step_took op with ⟨hnone, -, hsame⟩ | ⟨b, hone, -, -⟩
    · rw [hnone] at ha
      exact ih (hsame ▸ hn) ha
    · obtain ⟨hcounter, hat⟩ := htook hone hn
      rw [hone] at ha
      cases huses : uses b with
      | false =>
        rw [huses] at hcounter
        rw [List.filter_singleton, huses] at ha
        exact ih hcounter ha
      | true =>
        rw [huses] at hcounter
        rw [List.filter_singleton, huses] at ha
        cases k with
        | zero =>
          obtain rfl := Option.some.inj ha
          exact hat huses
        | succ k =>
          have := ih hcounter ha
          rwa [if_pos rfl, Nat.add_assoc, Nat.add_comm 1 k] at this

theorem took_of_accepted {s : Session F H} {op : SessionOp} {a : AcceptedPayload}
    (h : op.accepted (s.step op).2 = [a]) :
    WriteIndices.Took s.writeIndices (s.step op).1.writeIndices a := by
  rcases s.step_took op with ⟨hnone, -, -⟩ | ⟨b, hone, -, htook⟩
  · rw [hnone] at h
    cases h
  · rw [hone] at h
    cases h
    exact htook

theorem next_if_new {counter counter' : Sequence24} {uses : Bool} {n : Nat}
    (h : counter' = if uses then counter.next else counter) (hn : counter = Sequence24.new n) :
    counter' = Sequence24.new (if uses then n + 1 else n) := by
  rw [h, hn, Sequence24.next_new]
  split <;> rfl

theorem accepted_orderedAt (c : UInt8) {s : Session F H} {op : SessionOp} {a : AcceptedPayload}
    {n : Nat} (h : op.accepted (s.step op).2 = [a])
    (hn : s.writeIndices.ordering c = Sequence24.new n) :
    (s.step op).1.writeIndices.ordering c
      = Sequence24.new (if a.ordersOn c then n + 1 else n) ∧
    (a.ordersOn c = true → a.OrderedAt c (Sequence24.new n)) := by
  have htook := took_of_accepted h
  refine ⟨next_if_new (htook.ordering c) hn, fun huses => ⟨htook.nonempty, fun f hf => ?_⟩⟩
  simp only [AcceptedPayload.ordersOn, Bool.and_eq_true, decide_eq_true_eq] at huses
  obtain ⟨rfl, hclass⟩ := huses
  obtain ⟨hindex, hchannel⟩ := htook.orderingIndex f hf
  rw [hindex, hchannel, WriteIndices.orderingIndex, if_pos hclass, hn]
  exact ⟨rfl, rfl⟩

theorem accepted_sequencedAt (c : UInt8) {s : Session F H} {op : SessionOp} {a : AcceptedPayload}
    {n : Nat} (h : op.accepted (s.step op).2 = [a])
    (hn : s.writeIndices.sequencing c = Sequence24.new n) :
    (s.step op).1.writeIndices.sequencing c
      = Sequence24.new (if a.sequencesOn c then n + 1 else n) ∧
    (a.sequencesOn c = true → a.SequencedAt (Sequence24.new n)) := by
  have htook := took_of_accepted h
  refine ⟨next_if_new (htook.sequencing c) hn, fun huses => ⟨htook.nonempty, fun f hf => ?_⟩⟩
  simp only [AcceptedPayload.sequencesOn, Bool.and_eq_true, decide_eq_true_eq] at huses
  obtain ⟨rfl, hclass⟩ := huses
  rw [htook.sequenceIndex f hf, WriteIndices.sequenceIndex, if_pos hclass, hn]

theorem getD_replicate_zero (channels : Nat) (c : UInt8) :
    (List.replicate channels (Sequence24.new 0)).getD c.toNat (Sequence24.new 0)
      = Sequence24.new 0 := by
  rw [List.getD_eq_getElem?_getD, List.getElem?_replicate]
  split <;> rfl

/-- The indices of a run have no gaps and no repeats, as long as no counter
    turns around: the reliable indices of all frames, in the order of creation,
    are the numbers from 0 on; on each channel the ordering indices of the
    ordered and sequenced payloads are the numbers from 0 on in the order of
    acceptance, with one index for all parts, and so are the sequence indices of
    the sequenced payloads. A payload that is refused moves no counter. -/
theorem indices_without_gaps (mtu : Nat) (tunables : SessionTunables F) (start : Instant)
    (ops : List SessionOp) :
    let s : Session F H := withTunables mtu tunables start
    let reliable := (madeFrames s ops).filterMap Frame.reliableIndex
    reliable.length ≤ 16777216 →
    (∀ c, ((acceptedPayloads s ops).filter (AcceptedPayload.ordersOn c)).length ≤ 16777216) →
    reliable.map Sequence24.value = List.range reliable.length ∧
    (∀ (c : UInt8) (k : Nat) (a : AcceptedPayload),
      ((acceptedPayloads s ops).filter (AcceptedPayload.ordersOn c))[k]? = some a →
      a.frames ≠ [] ∧ ∀ f ∈ a.frames,
        f.orderingChannel = some c ∧ f.orderingIndex.map Sequence24.value = some k) ∧
    (∀ (c : UInt8) (k : Nat) (a : AcceptedPayload),
      ((acceptedPayloads s ops).filter (AcceptedPayload.sequencesOn c))[k]? = some a →
      a.frames ≠ [] ∧ ∀ f ∈ a.frames, f.sequenceIndex.map Sequence24.value = some k) ∧
    (∀ payload reliability channel priority receiptId,
      let before := (sessionMachine F H).exec s ops
      let r := before.queuePayloadWithReceipt payload reliability channel priority receiptId
      (∀ n, r.1 ≠ .enqueued n) →
      r.2.1 = [] ∧ r.2.2.reliableWriteIndex = before.reliableWriteIndex ∧
      r.2.2.splitWriteIndex = before.splitWriteIndex ∧
      r.2.2.orderingWriteIndex = before.orderingWriteIndex ∧
      r.2.2.sequencingWriteIndex = before.sequencingWriteIndex) := by
  intro s reliable hreliable hordering
  have hordered : ∀ c, s.writeIndices.ordering c = Sequence24.new 0 := getD_replicate_zero 16
  have hsequenced : ∀ c, s.writeIndices.sequencing c = Sequence24.new 0 := getD_replicate_zero 16
  refine ⟨?_, ?_, ?_, ?_⟩
  · obtain ⟨m, hm, -⟩ := madeFrames_reliable (s := s) (n := 0) rfl ops
    have hlength : reliable.length = m := by simp [reliable, hm]
    rw [hlength] at hreliable ⊢
    simp only [reliable, hm, List.map_map, List.range_eq_range']
    refine List.map_congr_left (fun i hi => ?_) |>.trans (List.map_id _)
    have hi : i < m := by simpa using hi
    rw [Function.comp_apply, Sequence24.value_new, Nat.mod_eq_of_lt (by omega), id]
  · intro c k a ha
    have hk : k < 16777216 :=
      Nat.lt_of_lt_of_le (List.getElem?_eq_some_iff.mp ha).1 (hordering c)
    obtain ⟨hframes, hindices⟩ := acceptedPayloads_numbered Sequence24.new
      (fun w => w.ordering c) (accepted_orderedAt c) (hordered c) ops ha
    refine ⟨hframes, fun f hf => ?_⟩
    obtain ⟨hchannel, hindex⟩ := hindices f hf
    rw [hchannel, hindex, Option.map_some, Sequence24.value_new, Nat.zero_add,
      Nat.mod_eq_of_lt hk]
    exact ⟨rfl, rfl⟩
  · intro c k a ha
    -- A sequenced payload takes an ordering index as well.
    have hcount : ((acceptedPayloads s ops).filter (AcceptedPayload.sequencesOn c)).length
        ≤ ((acceptedPayloads s ops).filter (AcceptedPayload.ordersOn c)).length := by
      rw [← List.countP_eq_length_filter, ← List.countP_eq_length_filter]
      refine List.countP_mono_left fun b _ hb => ?_
      simp only [AcceptedPayload.sequencesOn, AcceptedPayload.ordersOn, Bool.and_eq_true,
        Bool.or_eq_true] at hb ⊢
      exact ⟨hb.1, .inr hb.2⟩
    have hk : k < 16777216 := Nat.lt_of_lt_of_le (List.getElem?_eq_some_iff.mp ha).1
      (Nat.le_trans hcount (hordering c))
    obtain ⟨hframes, hindices⟩ :=
      acceptedPayloads_numbered Sequence24.new (fun w => w.sequencing c)
        (accepted_sequencedAt c) (hsequenced c) ops ha
    refine ⟨hframes, fun f hf => ?_⟩
    rw [hindices f hf, Option.map_some, Sequence24.value_new, Nat.zero_add, Nat.mod_eq_of_lt hk]
  · intro payload reliability channel priority receiptId before r hrefused
    rcases before.queuePayloadWithReceipt_cases payload reliability channel priority receiptId with
      ⟨_, _, _, -, heq⟩ | ⟨-, heq⟩ | ⟨-, heq⟩
    · have hr : r = _ := heq
      rw [hr]
      exact ⟨rfl, rfl, rfl, rfl, rfl⟩
    · exact absurd (congrArg Prod.fst heq) (hrefused _)
    · exact absurd (congrArg Prod.fst heq) (hrefused _)

/-- An ordered payload, a split unreliable one and two sequenced ones, the second
    of them split. -/
def mixedPayloads : List SessionOp :=
  [.queuePayload [1] .reliableOrdered 2 .high none,
    .queuePayload (List.replicate 200 7) .unreliable 2 .low none,
    .queuePayload [2] .unreliableSequenced 2 .high none, .buildDataDatagram 0 1000,
    .queuePayload (List.replicate 100 7) .reliableSequenced 2 .high none]

theorem indices_without_gaps_mixed :
    let s : ConcreteSession := withTunables 100 SessionTunables.standard 0
    ((madeFrames s mixedPayloads).filterMap Frame.reliableIndex).map Sequence24.value
      = [0, 1, 2, 3, 4, 5] ∧
    ((acceptedPayloads s mixedPayloads).filter (AcceptedPayload.ordersOn 2)).length = 3 ∧
    ∀ (k : Nat) (a : AcceptedPayload),
      ((acceptedPayloads s mixedPayloads).filter (AcceptedPayload.ordersOn 2))[k]? = some a →
      a.frames ≠ [] ∧ ∀ f ∈ a.frames,
        f.orderingChannel = some 2 ∧ f.orderingIndex.map Sequence24.value = some k := by
  intro s
  have hshort : ∀ c, ((acceptedPayloads s mixedPayloads).filter
      (AcceptedPayload.ordersOn c)).length ≤ 16777216 := fun c =>
    Nat.le_trans (List.length_filter_le _ _) (by decide +kernel)
  exact ⟨by decide +kernel, by decide +kernel,
    (indices_without_gaps 100 SessionTunables.standard 0 mixedPayloads (by decide +kernel)
      hshort).2.1 2⟩

end Session

end Raknet
