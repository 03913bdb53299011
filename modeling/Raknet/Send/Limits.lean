-- SUMMARY: The byte count of the send queue, the estimates of admission, and the hard limits of the queue.
import Mathlib.Algebra.BigOperators.Group.Multiset.Basic
import Raknet.Send.Framing
import Raknet.Send.History

/-!
# The limits of the send queue

Admission compares the limits with an estimate of the frames and bytes a payload
will become. The estimate is computed apart from the code that builds the
frames; for the MTUs of the protocol both agree, the byte count of the queue is
the sum of the sizes of its entries, and so the limits hold in every run.
-/

namespace Raknet

/-! ## Sizes -/

/-- The bit length of a payload counts all its bytes, as long as it fits its 16
    bits. -/
theorem payloadLen_bitLengthOf {len : Nat} (h : len < 8192) :
    ((bitLengthOf len).toNat + 7) >>> 3 = len :=
  (payloadLen_bitLengthOf_iff len).mpr h

namespace WriteIndices

theorem length_of_mem_chunks {size n : Nat} {payload part : Bytes}
    (h : part ∈ chunks size n payload) : part.length ≤ size := by
  induction n generalizing payload with
  | zero => cases h
  | succ n ih =>
    rcases List.mem_cons.mp h with rfl | h
    · exact List.length_take_le _ _
    · exact ih h

theorem singleFrame_encodedSize (w : WriteIndices) {payload : Bytes} (reliability : Reliability)
    (channel : UInt8) (h : payload.length < 8192) :
    (w.singleFrame payload reliability channel).encodedSize
      = Frame.overhead reliability false + payload.length :=
  congrArg (Frame.overhead reliability false + ·) (payloadLen_bitLengthOf h)

theorem partFrames_encodedSize (c : Session.SplitContext) (w : WriteIndices) (idx : Nat)
    {parts : List Bytes} (h : ∀ part ∈ parts, part.length < 8192) :
    ((partFrames c w idx parts).map Frame.encodedSize).sum
      = parts.flatten.length + parts.length * Frame.overhead c.reliability true := by
  induction parts generalizing w idx with
  | nil => simp [partFrames]
  | cons part rest ih =>
    have hpart : (c.frame idx (w.reliableIndex c.reliability) part).encodedSize
        = Frame.overhead c.reliability true + part.length :=
      congrArg (Frame.overhead c.reliability true + ·)
        (payloadLen_bitLengthOf (h part List.mem_cons_self))
    rw [partFrames, List.map_cons, List.sum_cons, hpart,
      ih _ _ fun part' hpart' => h part' (List.mem_cons_of_mem part hpart'), List.flatten_cons,
      List.length_append, List.length_cons, Nat.succ_mul]
    omega

end WriteIndices

variable {F H : Type} [MinHeap H QueuedFrame QueuedFrame.weight]

namespace Session

/-- The MTUs the protocol negotiates. -/
def MtuInRange (mtu : Nat) : Prop := 576 ≤ mtu ∧ mtu ≤ 1400

instance (mtu : Nat) : Decidable (MtuInRange mtu) := inferInstanceAs (Decidable (_ ∧ _))

omit [MinHeap H QueuedFrame QueuedFrame.weight] in
theorem maxPayloadFor_lt {s : Session F H} (hmtu : MtuInRange s.mtu) (reliability : Reliability)
    (isSplit : Bool) : s.maxPayloadFor reliability isSplit < 8192 := by
  have := hmtu.2
  unfold maxPayloadFor
  omega

/-- The sizes of the queued entries. -/
theorem sum_queue (s : Session F H) :
    (s.view.queue.map QueuedFrame.encodedSize).sum
      = (s.queuedFrames.map QueuedFrame.encodedSize).sum := by
  simp only [view, Multiset.map_coe, Multiset.sum_coe]

theorem card_queue (s : Session F H) : s.view.queue.card = s.pendingOutgoingFrames :=
  Multiset.coe_card _

/-- The entries of an admitted payload: `enqueue_single_frame` if it fits one
    frame, `enqueue_split_frames` otherwise. -/
def enqueueAdmitted (s : Session F H) (payload : Bytes) (reliability : Reliability)
    (channel : UInt8) (priority : RakPriority) (receiptId : Option UInt64) :
    Nat × List QueuedFrame × Session F H :=
  if payload.length ≤ s.maxPayloadFor reliability false then
    s.enqueueSingleFrame payload reliability channel priority receiptId
  else
    s.enqueueSplitFrames payload reliability channel priority receiptId

theorem sum_encodedSize (entries : List QueuedFrame) :
    (entries.map QueuedFrame.encodedSize).sum
      = ((entries.map QueuedFrame.frame).map Frame.encodedSize).sum := by
  rw [List.map_map]
  exact congrArg List.sum (List.map_congr_left fun q _ => q.encodedSize_eq)

/-- The estimate of admission is what enqueueing makes. -/
theorem enqueueAdmitted_impact {s : Session F H} (hmtu : MtuInRange s.mtu) (payload : Bytes)
    (reliability : Reliability) (channel : UInt8) (priority : RakPriority)
    (receiptId : Option UInt64) :
    let made := (s.enqueueAdmitted payload reliability channel priority receiptId).2.1
    (made.length, (made.map QueuedFrame.encodedSize).sum)
      = ((s.estimateQueueImpact payload.length reliability).1,
          (s.estimateQueueImpact payload.length reliability).2.1) ∧
    ∀ q ∈ made, q.frame.header.reliability
      = (s.estimateQueueImpact payload.length reliability).2.2 := by
  intro made
  rw [sum_encodedSize]
  have hlength : made.length = (made.map QueuedFrame.frame).length := (List.length_map _).symm
  have hmem : ∀ q ∈ made, q.frame ∈ made.map QueuedFrame.frame := fun q =>
    List.mem_map_of_mem
  rw [hlength]
  simp only [made, enqueueAdmitted, estimateQueueImpact] at hmem ⊢
  split
  · next hfits =>
    rw [if_pos hfits, (s.enqueueSingleFrame_made payload reliability channel priority receiptId).1]
      at hmem
    rw [(s.enqueueSingleFrame_made payload reliability channel priority receiptId).1]
    have hlt := Nat.lt_of_le_of_lt hfits (maxPayloadFor_lt hmtu reliability false)
    refine ⟨?_, fun q hq => ?_⟩
    · simp [WriteIndices.singleFrame_encodedSize _ _ _ hlt, frameOverhead]
    · rw [List.mem_singleton.mp (hmem q hq)]
      rfl
  · next hlong =>
    rw [if_neg hlong, (s.enqueueSplitFrames_made payload reliability channel priority receiptId).1]
      at hmem
    rw [(s.enqueueSplitFrames_made payload reliability channel priority receiptId).1]
    have hlt := maxPayloadFor_lt hmtu (normalizeReliabilityForSplit reliability) true
    have hparts : ∀ part ∈ s.splitParts payload reliability, part.length < 8192 := fun part hpart =>
      Nat.lt_of_le_of_lt (WriteIndices.length_of_mem_chunks hpart) (by omega)
    refine ⟨?_, fun q hq => ?_⟩
    · rw [WriteIndices.partFrames_encodedSize _ _ _ hparts, flatten_splitParts,
        WriteIndices.length_partFrames, splitParts, WriteIndices.length_chunks]
      rfl
    · obtain ⟨_, _, _, -, hframe⟩ := WriteIndices.mem_partFrames (hmem q hq)
      rw [hframe]
      rfl

/-- Enqueueing adds its entries to the queue and their sizes to the byte count. -/
theorem enqueueAdmitted_adds (s : Session F H) (payload : Bytes) (reliability : Reliability)
    (channel : UInt8) (priority : RakPriority) (receiptId : Option UInt64) :
    let r := s.enqueueAdmitted payload reliability channel priority receiptId
    r.2.2.pendingOutgoingFrames = s.pendingOutgoingFrames + r.2.1.length ∧
    r.2.2.pendingOutgoingBytes
      = s.pendingOutgoingBytes + (r.2.1.map QueuedFrame.encodedSize).sum := by
  intro r
  have hview : r.2.2.view = sendMachine.exec s.view (r.2.1.map .enqueue) := by
    simp only [r, enqueueAdmitted]
    split
    · exact s.enqueueSingleFrame_view payload reliability channel priority receiptId
    · exact s.enqueueSplitFrames_view payload reliability channel priority receiptId
  have hall : sendMachine.AllSteps SendView.Enabled s.view (r.2.1.map .enqueue) :=
    sendMachine.allSteps_of_mem fun e he v => by
      obtain ⟨q, -, rfl⟩ := List.mem_map.mp he
      trivial
  have hqueue := SendView.exec_queue hall
  rw [← hview, SendEvent.flatMap_emitted_enqueue, SendEvent.flatMap_made_enqueue] at hqueue
  have hcard := congrArg Multiset.card hqueue
  simp only [Multiset.card_add, card_queue, Multiset.coe_card, List.flatMap_nil, List.length_nil,
    Nat.add_zero] at hcard
  refine ⟨hcard, ?_⟩
  simp only [r, enqueueAdmitted]
  split
  · obtain ⟨_, _, _, _, _, _, h, -⟩ :=
      s.enqueueSingleFrame_eq payload reliability channel priority receiptId
    rw [h]
    rfl
  · obtain ⟨_, _, _, _, _, _, _, h⟩ :=
      s.enqueueSplitFrames_eq payload reliability channel priority receiptId
    exact congrArg outgoingQueuedBytes h

/-! ## Admission -/

section Admission

variable [F64 F]

/-- An admitted payload keeps the hard limits, if the estimate is right. -/
theorem le_of_evaluateBackpressure {s : Session F H} {frames bytes : Nat}
    {reliability : Reliability} {priority : RakPriority}
    (h : s.evaluateBackpressure frames bytes reliability priority = .allow) :
    s.pendingOutgoingFrames + frames ≤ max s.outgoingQueueMaxFrames 1 ∧
    s.pendingOutgoingBytes + bytes ≤ max s.outgoingQueueMaxBytes 1 := by
  unfold evaluateBackpressure at h
  dsimp only at h
  split at h
  · cases hmode : s.backpressureMode with
    | delay =>
      rw [hmode] at h
      cases h
    | shed =>
      rw [hmode] at h
      dsimp only at h
      split at h <;> cases h
    | disconnect =>
      rw [hmode] at h
      cases h
  · omega

/-- Queueing a payload refuses it, or admits it within the limits and enqueues
    it. -/
theorem queuePayloadWithReceipt_admission (s : Session F H) (payload : Bytes)
    (reliability : Reliability) (channel : UInt8) (priority : RakPriority)
    (receiptId : Option UInt64) :
    (s.queuePayloadWithReceipt payload reliability channel priority receiptId).2.1 = [] ∨
    ((s.queuePayloadWithReceipt payload reliability channel priority receiptId).2
        = (s.enqueueAdmitted payload reliability channel priority receiptId).2 ∧
      s.pendingOutgoingFrames + (s.estimateQueueImpact payload.length reliability).1
        ≤ max s.outgoingQueueMaxFrames 1 ∧
      s.pendingOutgoingBytes + (s.estimateQueueImpact payload.length reliability).2.1
        ≤ max s.outgoingQueueMaxBytes 1) := by
  simp only [queuePayloadWithReceipt]
  split
  · exact .inl rfl
  · exact .inl rfl
  · exact .inl rfl
  · next hallow =>
    refine .inr ⟨?_, le_of_evaluateBackpressure hallow⟩
    unfold enqueueAdmitted
    split <;> rfl

end Admission

/-! ## The queue over a run -/

/-- The byte count is right and the queue is within its limits. -/
structure WithinLimits (s : Session F H) : Prop where
  mtu : MtuInRange s.mtu
  maxFrames_pos : 1 ≤ s.outgoingQueueMaxFrames
  maxBytes_pos : 1 ≤ s.outgoingQueueMaxBytes
  counted : s.outgoingQueuedBytes = (s.queuedFrames.map QueuedFrame.encodedSize).sum
  frames_le : s.pendingOutgoingFrames ≤ s.outgoingQueueMaxFrames
  bytes_le : s.pendingOutgoingBytes ≤ s.outgoingQueueMaxBytes

variable [F64 F]

/-- The entries a step emits and the ones it leaves are those it found and those
    it made. -/
theorem step_queue (s : Session F H) (op : SessionOp) :
    (s.step op).1.view.queue
        + ((s.step op).2.fresh.flatMap BuiltDatagram.queued : Multiset QueuedFrame)
      = s.view.queue + ((s.step op).2.made : Multiset QueuedFrame) := by
  obtain ⟨hall, hview, -⟩ := s.step_refines op
  obtain ⟨hfresh, hmade⟩ := s.events_outputs op
  rw [hview, ← hfresh, ← hmade]
  exact SendView.exec_queue hall

/-- A step that keeps the MTU in range and the limits, and whose new entries fit
    the limits, keeps the queue within them. -/
theorem WithinLimits.of_step {s : Session F H} (h : s.WithinLimits) {op : SessionOp}
    (hmtu : MtuInRange (s.step op).1.mtu)
    (hmaxFrames : (s.step op).1.outgoingQueueMaxFrames = s.outgoingQueueMaxFrames)
    (hmaxBytes : (s.step op).1.outgoingQueueMaxBytes = s.outgoingQueueMaxBytes)
    (hbytes : (s.step op).1.outgoingQueuedBytes = s.outgoingQueuedBytes
      + ((s.step op).2.made.map QueuedFrame.encodedSize).sum
      - (((s.step op).2.fresh.flatMap BuiltDatagram.queued).map QueuedFrame.encodedSize).sum)
    (hfit : s.pendingOutgoingFrames + (s.step op).2.made.length ≤ s.outgoingQueueMaxFrames ∧
      s.pendingOutgoingBytes + ((s.step op).2.made.map QueuedFrame.encodedSize).sum
        ≤ s.outgoingQueueMaxBytes) : (s.step op).1.WithinLimits := by
  have hqueue := s.step_queue op
  have hcard := congrArg Multiset.card hqueue
  have hsum := congrArg (fun q : Multiset QueuedFrame => (q.map QueuedFrame.encodedSize).sum) hqueue
  simp only [Multiset.card_add, card_queue, Multiset.coe_card, Multiset.map_add, Multiset.sum_add,
    sum_queue, Multiset.map_coe, Multiset.sum_coe] at hcard hsum
  have hcounted := h.counted
  unfold pendingOutgoingBytes at hfit
  exact
    { mtu := hmtu
      maxFrames_pos := hmaxFrames ▸ h.maxFrames_pos
      maxBytes_pos := hmaxBytes ▸ h.maxBytes_pos
      counted := by omega
      frames_le := by omega
      bytes_le := by rw [pendingOutgoingBytes]; omega }

theorem WithinLimits.step {s : Session F H} (h : s.WithinLimits) {op : SessionOp}
    (hop : ∀ m, op = .setMtu m → MtuInRange m) : (s.step op).1.WithinLimits := by
  have hframes_le := h.frames_le
  have hbytes_le := h.bytes_le
  rcases s.step_queues op with ⟨payload, reliability, channel, priority, receiptId, rfl⟩ | hnothing
  · obtain ⟨_, _, _, _, _, _, _, _, _, hfoot⟩ :=
      s.queuePayloadWithReceipt_eq payload reliability channel priority receiptId
    have hlimits := s.queuePayloadWithReceipt_admission payload reliability channel priority
      receiptId
    refine h.of_step ?_ ?_ ?_ ?_ ?_
    · simp only [Session.step, hfoot, h.mtu]
    · simp only [Session.step, hfoot]
    · simp only [Session.step, hfoot]
    · simp only [Session.step, hfoot]
      rfl
    · have hmade : (s.step (.queuePayload payload reliability channel priority receiptId)).2.made
          = (s.queuePayloadWithReceipt payload reliability channel priority receiptId).2.1 := rfl
      rw [hmade]
      rcases hlimits with hrefused | ⟨hadmitted, hframes, hbytes⟩
      · rw [hrefused]
        exact ⟨hframes_le, hbytes_le⟩
      · have himpact := (enqueueAdmitted_impact h.mtu payload reliability channel priority
          receiptId).1
        obtain ⟨hlength, hsize⟩ := Prod.mk.inj himpact
        have := h.maxFrames_pos
        have := h.maxBytes_pos
        rw [hadmitted]
        exact ⟨by rw [hlength]; omega, by rw [hsize]; omega⟩
  · refine h.of_step ?_ hnothing.maxFrames hnothing.maxBytes ?_ ?_
    · by_cases hset : ∃ m, op = .setMtu m
      · obtain ⟨m, rfl⟩ := hset
        exact hop m rfl
      · rw [hnothing.mtu fun m hm => hset ⟨m, hm⟩]
        exact h.mtu
    · rw [hnothing.made]
      exact hnothing.bytes
    · rw [hnothing.made]
      exact ⟨hframes_le, hbytes_le⟩

theorem exec_withinLimits {mtu : Nat} (tunables : SessionTunables F) (start : Instant)
    (hmtu : MtuInRange mtu) {ops : List SessionOp} (hops : ∀ m, .setMtu m ∈ ops → MtuInRange m) :
    ((sessionMachine F H).exec (withTunables mtu tunables start) ops).WithinLimits := by
  have hinitial : (withTunables mtu tunables start : Session F H).WithinLimits :=
    { mtu := hmtu
      maxFrames_pos := Nat.le_max_right _ _
      maxBytes_pos := Nat.le_max_right _ _
      counted := by simp [queuedFrames, withTunables, MinHeap.toList_empty]
      frames_le := by simp [pendingOutgoingFrames, withTunables]
      bytes_le := Nat.zero_le _ }
  generalize (withTunables mtu tunables start : Session F H) = s at hinitial
  induction ops generalizing s with
  | nil => exact hinitial
  | cons op ops ih =>
    refine ih (fun m hm => hops m (List.mem_cons_of_mem op hm)) _ (hinitial.step ?_)
    rintro m rfl
    exact hops m List.mem_cons_self

/-- In every run whose MTUs are in range, the byte count of the queue is the sum
    of the encoded sizes of its frames, and the queue is within its hard limits.
    What admission estimates for a payload is what enqueueing it adds: frames,
    bytes, and the delivery class. -/
theorem queue_accounted_within_limits (mtu : Nat) (tunables : SessionTunables F) (start : Instant)
    {ops : List SessionOp} (hmtu : MtuInRange mtu)
    (hops : ∀ m, .setMtu m ∈ ops → MtuInRange m) :
    let s : Session F H := (sessionMachine F H).exec (withTunables mtu tunables start) ops
    s.outgoingQueuedBytes = (s.queuedFrames.map fun q => q.frame.encodedSize).sum ∧
    s.pendingOutgoingFrames ≤ s.outgoingQueueMaxFrames ∧
    s.pendingOutgoingBytes ≤ s.outgoingQueueMaxBytes ∧
    ∀ payload reliability channel priority receiptId,
      let estimate := s.estimateQueueImpact payload.length reliability
      let r :=
        if payload.length ≤ s.maxPayloadFor reliability false then
          s.enqueueSingleFrame payload reliability channel priority receiptId
        else
          s.enqueueSplitFrames payload reliability channel priority receiptId
      r.2.2.pendingOutgoingFrames = s.pendingOutgoingFrames + estimate.1 ∧
      r.2.2.pendingOutgoingBytes = s.pendingOutgoingBytes + estimate.2.1 ∧
      ∀ q ∈ r.2.1, q.frame.header.reliability = estimate.2.2 := by
  intro s
  have hwithin : s.WithinLimits := exec_withinLimits tunables start hmtu hops
  refine ⟨?_, hwithin.frames_le, hwithin.bytes_le, ?_⟩
  · rw [hwithin.counted, sum_encodedSize, List.map_map]
    rfl
  · intro payload reliability channel priority receiptId estimate r
    obtain ⟨himpact, hclass⟩ := enqueueAdmitted_impact hwithin.mtu payload reliability channel
      priority receiptId
    obtain ⟨hframes, hbytes⟩ := s.enqueueAdmitted_adds payload reliability channel priority receiptId
    rw [Prod.mk.injEq] at himpact
    exact ⟨hframes.trans (congrArg _ himpact.1), hbytes.trans (congrArg _ himpact.2), hclass⟩

/-- A payload of three parts for the smallest MTU. -/
def threePartPayload : Bytes := List.replicate 1200 7

/-- A queue that holds the last two parts of a split payload after a change of
    the MTU. -/
theorem queue_accounted_within_limits_split :
    let s : ConcreteSession := concreteMachine.exec (withTunables 576 SessionTunables.standard 0)
      [.queuePayload threePartPayload .unreliable 0 .high none, .setMtu 1400,
        .queuePayload [1, 2] .reliableSequenced 3 .low none, .onTick 1 1 600 0 0]
    s.pendingOutgoingFrames = 2 ∧ s.outgoingQueuedBytes = 676 ∧
    s.outgoingQueuedBytes = (s.queuedFrames.map fun q => q.frame.encodedSize).sum := by
  refine ⟨by decide +kernel, by decide +kernel, ?_⟩
  exact (queue_accounted_within_limits 576 SessionTunables.standard 0 (by decide)
    (fun m hm => by
      obtain rfl : m = 1400 := by simpa using hm
      decide)).1

end Session

end Raknet
