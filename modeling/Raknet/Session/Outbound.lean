-- SUMMARY: The send path up to the queue: index allocation, splitting, backpressure and queue_payload.
import Raknet.Session.State

/-!
# Queueing payloads

The functions that put frames into the queue also return the entries they made.
The source returns the byte count only; the entries are what histories of a
session are stated with.
-/

namespace Raknet

inductive BackpressureAction where
  | allow
  | drop
  | defer
  | disconnect
deriving DecidableEq, Repr

def normalizeReliabilityForSplit : Reliability → Reliability
  | .unreliable => .reliable
  | .unreliableSequenced => .reliableSequenced
  | .unreliableWithAckReceipt => .reliableWithAckReceipt
  | v => v

variable {F H : Type} [F64 F] [MinHeap H QueuedFrame QueuedFrame.weight]

namespace Session

/-! ## Sizes and admission -/

def frameOverhead (reliability : Reliability) (isSplit : Bool) : Nat :=
  Frame.overhead reliability isSplit

def maxPayloadFor (s : Session F H) (reliability : Reliability) (isSplit : Bool) : Nat :=
  max (s.mtu - (raknetDatagramHeaderSize + frameOverhead reliability isSplit)) 1

/-- `usize::div_ceil`. -/
def divCeil (n d : Nat) : Nat := (n + d - 1) / d

/-- Frames, bytes and delivery class a payload of the given length will have. -/
def estimateQueueImpact (s : Session F H) (payloadLen : Nat) (reliability : Reliability) :
    Nat × Nat × Reliability :=
  let maxSingle := s.maxPayloadFor reliability false
  if payloadLen ≤ maxSingle then
    (1, frameOverhead reliability false + payloadLen, reliability)
  else
    let effective := normalizeReliabilityForSplit reliability
    let maxSplitPayload := max (s.maxPayloadFor effective true) 1
    let partCount := divCeil payloadLen maxSplitPayload
    (partCount, payloadLen + partCount * frameOverhead effective true, effective)

/-- `((hard as f64) * ratio).floor().max(1.0) as usize`. -/
def softLimit (hard : Nat) (ratio : F) : Nat :=
  F64.toUsize (F64.max (F64.floor (F64.ofNat hard * ratio)) (F64.ofNat 1))

def evaluateBackpressure (s : Session F H) (addedFrames addedBytes : Nat)
    (reliability : Reliability) (priority : RakPriority) : BackpressureAction :=
  let projectedFrames := s.pendingOutgoingFrames + addedFrames
  let projectedBytes := s.pendingOutgoingBytes + addedBytes
  let hardFrames := max s.outgoingQueueMaxFrames 1
  let hardBytes := max s.outgoingQueueMaxBytes 1
  let softFrames := softLimit hardFrames s.outgoingQueueSoftRatio
  let softBytes := softLimit hardBytes s.outgoingQueueSoftRatio
  if projectedFrames > hardFrames ∨ projectedBytes > hardBytes then
    match s.backpressureMode with
    | .delay => .defer
    | .shed =>
      if !reliability.isReliable || priority = .normal || priority = .low then .drop else .defer
    | .disconnect => .disconnect
  else if projectedFrames > softFrames ∨ projectedBytes > softBytes then
    .defer
  else
    .allow

/-! ## Index allocation -/

def nextReliableIndex (s : Session F H) : Sequence24 × Session F H :=
  (s.reliableWriteIndex, { s with reliableWriteIndex := s.reliableWriteIndex.next })

/-- `if reliability.is_reliable() { Some(self.next_reliable_index()) } else { None }`. -/
def reliableIndexIfNeeded (s : Session F H) (reliability : Reliability) :
    Option Sequence24 × Session F H :=
  if reliability.isReliable then
    let (idx, s) := s.nextReliableIndex
    (some idx, s)
  else
    (none, s)

def nextOrderingIndexIfNeeded (s : Session F H) (reliability : Reliability) (channel : UInt8) :
    Option Sequence24 × Session F H :=
  if !(reliability.isOrdered || reliability.isSequenced) then
    (none, s)
  else
    let idx := s.orderingWriteIndex.getD channel.toNat (Sequence24.new 0)
    (some idx, { s with
      orderingWriteIndex :=
        s.orderingWriteIndex.setGrow channel.toNat (Sequence24.new 0) idx.next })

def nextSequenceIndexIfNeeded (s : Session F H) (reliability : Reliability) (channel : UInt8) :
    Option Sequence24 × Session F H :=
  if !reliability.isSequenced then
    (none, s)
  else
    let idx := s.sequencingWriteIndex.getD channel.toNat (Sequence24.new 0)
    (some idx, { s with
      sequencingWriteIndex :=
        s.sequencingWriteIndex.setGrow channel.toNat (Sequence24.new 0) idx.next })

/-! ## The queue -/

def nextWeight (s : Session F H) (priority : RakPriority) : Nat × Session F H :=
  let level := priority.asIndex
  let next := s.outgoingNextWeights.getD level 0
  let (next, weights) :=
    if s.pendingOutgoingFrames ≠ 0 then
      if next ≥ s.lastMinWeight then
        let next := s.lastMinWeight + levelWeight level
        (next, s.outgoingNextWeights.set level (next + 2 ^ level * (level + 1) + level))
      else
        (next, s.outgoingNextWeights)
    else
      (next, [levelWeight 0, levelWeight 1, levelWeight 2, levelWeight 3])
  (next, { s with
    outgoingNextWeights := weights
    lastMinWeight := next - 2 ^ level * level + level })

def pushOutgoingFrame (s : Session F H) (frame : Frame) (priority : RakPriority)
    (receiptId : Option UInt64) : QueuedFrame × Session F H :=
  let (weight, s) := s.nextWeight priority
  let queued : QueuedFrame :=
    { weight
      encodedSize := frame.encodedSize
      isReliable := frame.header.reliability.isReliable
      priority
      receiptId
      frame
      encodedSize_eq := rfl
      isReliable_eq := rfl }
  (queued, { s with
    outgoingQueuedBytes := s.outgoingQueuedBytes + frame.encodedSize
    outgoingHeap := MinHeap.push s.outgoingHeap queued })

def enqueueSingleFrame (s : Session F H) (payload : Bytes) (reliability : Reliability)
    (channel : UInt8) (priority : RakPriority) (receiptId : Option UInt64) :
    Nat × List QueuedFrame × Session F H :=
  let (orderingIndex, s) := s.nextOrderingIndexIfNeeded reliability channel
  let (sequenceIndex, s) := s.nextSequenceIndexIfNeeded reliability channel
  let (reliableIndex, s) := s.reliableIndexIfNeeded reliability
  let frame : Frame :=
    { header := FrameHeader.new reliability false false
      bitLength := bitLengthOf payload.length
      reliableIndex
      sequenceIndex
      orderingIndex
      orderingChannel := orderingIndex.map fun _ => channel
      split := none
      payload }
  let (queued, s) := s.pushOutgoingFrame frame priority receiptId
  (if reliability.isReliable then frame.encodedSize else 0, [queued], s)

/-- The values `enqueue_split_frames` fixes before its loop. -/
structure SplitContext where
  reliability : Reliability
  channel : UInt8
  priority : RakPriority
  receiptId : Option UInt64
  maxSplitPayload : Nat
  partCount : Nat
  splitId : UInt16
  orderingIndex : Option Sequence24
  sequenceIndex : Option Sequence24

/-- The frame of part `idx`. -/
def SplitContext.frame (c : SplitContext) (idx : Nat) (reliableIndex : Option Sequence24)
    (part : Bytes) : Frame :=
  { header := FrameHeader.new c.reliability true false
    bitLength := bitLengthOf part.length
    reliableIndex
    sequenceIndex := c.sequenceIndex
    orderingIndex := c.orderingIndex
    orderingChannel := c.orderingIndex.map fun _ => c.channel
    split := some
      { partCount := UInt32.ofNat c.partCount
        partId := c.splitId
        partIndex := UInt32.ofNat idx }
    payload := part }

/-- The loop of `enqueue_split_frames`, with `n` parts to go from part `idx`. -/
def enqueueParts (c : SplitContext) :
    Nat → Nat → Bytes → Session F H → Nat × List QueuedFrame × Session F H
  | 0, _, _, s => (0, [], s)
  | n + 1, idx, payload, s =>
    let take := min payload.length c.maxSplitPayload
    let (reliableIndex, s) := s.reliableIndexIfNeeded c.reliability
    let frame := c.frame idx reliableIndex (payload.take take)
    let (queued, s) := s.pushOutgoingFrame frame c.priority c.receiptId
    let (bytes, rest, s) := enqueueParts c n (idx + 1) (payload.drop take) s
    ((if c.reliability.isReliable then frame.encodedSize else 0) + bytes, queued :: rest, s)

def enqueueSplitFrames (s : Session F H) (payload : Bytes) (reliability : Reliability)
    (channel : UInt8) (priority : RakPriority) (receiptId : Option UInt64) :
    Nat × List QueuedFrame × Session F H :=
  let reliability := normalizeReliabilityForSplit reliability
  let maxSplitPayload := max (s.maxPayloadFor reliability true) 1
  let partCount := divCeil payload.length maxSplitPayload
  let splitId := s.splitWriteIndex
  let s := { s with splitWriteIndex := s.splitWriteIndex + 1 }
  let (orderingIndex, s) := s.nextOrderingIndexIfNeeded reliability channel
  let (sequenceIndex, s) := s.nextSequenceIndexIfNeeded reliability channel
  enqueueParts
    { reliability, channel, priority, receiptId, maxSplitPayload, partCount, splitId,
      orderingIndex, sequenceIndex }
    partCount 0 payload s

def queuePayloadWithReceipt (s : Session F H) (payload : Bytes) (reliability : Reliability)
    (channel : UInt8) (priority : RakPriority) (receiptId : Option UInt64) :
    QueuePayloadResult × List QueuedFrame × Session F H :=
  let (estimatedFrames, estimatedBytes, effectiveReliability) :=
    s.estimateQueueImpact payload.length reliability
  match s.evaluateBackpressure estimatedFrames estimatedBytes effectiveReliability priority with
  | .drop =>
    (.dropped, [], { s with
      metrics := { s.metrics with
        outgoingQueueDrops := satAdd s.metrics.outgoingQueueDrops 1
        backpressureDrops := satAdd s.metrics.backpressureDrops 1 } })
  | .defer =>
    (.deferred, [], { s with
      metrics := { s.metrics with
        outgoingQueueDefers := satAdd s.metrics.outgoingQueueDefers 1
        backpressureDelays := satAdd s.metrics.backpressureDelays 1 } })
  | .disconnect =>
    (.disconnectRequested, [], { s with
      metrics := { s.metrics with
        outgoingQueueDisconnects := satAdd s.metrics.outgoingQueueDisconnects 1
        backpressureDisconnects := satAdd s.metrics.backpressureDisconnects 1 }
      disconnectRequestedByBackpressure := true })
  | .allow =>
    if payload.length ≤ s.maxPayloadFor reliability false then
      let (reliableBytes, made, s) :=
        s.enqueueSingleFrame payload reliability channel priority receiptId
      (.enqueued reliableBytes, made, s)
    else
      let (reliableBytes, made, s) :=
        s.enqueueSplitFrames payload reliability channel priority receiptId
      (.enqueued reliableBytes, made, s)

def queuePayload (s : Session F H) (payload : Bytes) (reliability : Reliability)
    (channel : UInt8) (priority : RakPriority) : QueuePayloadResult × List QueuedFrame × Session F H :=
  s.queuePayloadWithReceipt payload reliability channel priority none

/-! ## The entries a payload makes -/

omit [F64 F] [MinHeap H QueuedFrame QueuedFrame.weight] in
/-- Split payloads are upgraded to a reliable class. -/
theorem isReliable_normalizeReliabilityForSplit (r : Reliability) :
    (normalizeReliabilityForSplit r).isReliable = true := by
  cases r <;> rfl

omit [F64 F] in
theorem mem_enqueueParts {c : SplitContext} {n idx : Nat} {payload : Bytes} {s : Session F H}
    {q : QueuedFrame} (h : q ∈ (enqueueParts c n idx payload s).2.1) :
    q.receiptId = c.receiptId ∧ q.frame.header.reliability = c.reliability := by
  induction n generalizing idx payload s with
  | zero => cases h
  | succ n ih =>
    rcases List.mem_cons.mp h with rfl | h
    · exact ⟨rfl, rfl⟩
    · exact ih h

/-- What queueing a payload can do: refuse it, queue it as one frame, or split
    it. -/
theorem queuePayloadWithReceipt_cases (s : Session F H) (payload : Bytes)
    (reliability : Reliability) (channel : UInt8) (priority : RakPriority)
    (receiptId : Option UInt64) :
    (∃ (result : QueuePayloadResult) (metrics : SessionMetrics) (disconnect : Bool),
      (∀ n, result ≠ .enqueued n) ∧
      s.queuePayloadWithReceipt payload reliability channel priority receiptId =
        (result, [],
          { s with metrics, disconnectRequestedByBackpressure := disconnect })) ∨
    (payload.length ≤ s.maxPayloadFor reliability false ∧
      s.queuePayloadWithReceipt payload reliability channel priority receiptId =
        (.enqueued (s.enqueueSingleFrame payload reliability channel priority receiptId).1,
          (s.enqueueSingleFrame payload reliability channel priority receiptId).2)) ∨
    (s.maxPayloadFor reliability false < payload.length ∧
      s.queuePayloadWithReceipt payload reliability channel priority receiptId =
        (.enqueued (s.enqueueSplitFrames payload reliability channel priority receiptId).1,
          (s.enqueueSplitFrames payload reliability channel priority receiptId).2)) := by
  unfold queuePayloadWithReceipt
  dsimp only
  split
  · exact .inl ⟨.dropped, _, _, nofun, rfl⟩
  · exact .inl ⟨.deferred, _, _, nofun, rfl⟩
  · exact .inl ⟨.disconnectRequested, _, _, nofun, rfl⟩
  · split
    · next hfits => exact .inr (.inl ⟨hfits, rfl⟩)
    · next hlong => exact .inr (.inr ⟨Nat.lt_of_not_le hlong, rfl⟩)

/-- The entries of a payload carry its receipt, and are reliable if the payload
    is or if it had to be split. -/
theorem mem_queuePayloadWithReceipt {s : Session F H} {payload : Bytes}
    {reliability : Reliability} {channel : UInt8} {priority : RakPriority}
    {receiptId : Option UInt64} {q : QueuedFrame}
    (h : q ∈ (s.queuePayloadWithReceipt payload reliability channel priority receiptId).2.1) :
    q.receiptId = receiptId ∧
    (reliability.isReliable = true ∨ s.maxPayloadFor reliability false < payload.length →
      q.isReliable = true) := by
  rcases s.queuePayloadWithReceipt_cases payload reliability channel priority receiptId with
    ⟨_, _, _, -, heq⟩ | ⟨hfits, heq⟩ | ⟨-, heq⟩
  · rw [heq] at h
    cases h
  · rw [heq] at h
    rw [List.mem_singleton.mp h]
    refine ⟨rfl, ?_⟩
    rintro (hr | hlong)
    · exact hr
    · omega
  · rw [heq] at h
    obtain ⟨hid, hrel⟩ := mem_enqueueParts h
    refine ⟨hid, fun _ => ?_⟩
    rw [q.isReliable_eq, hrel]
    exact isReliable_normalizeReliabilityForSplit reliability

/-! ## Admission and unsplit payloads -/

/-- A payload within the soft limits is admitted. -/
theorem evaluateBackpressure_allow {s : Session F H} {addedFrames addedBytes : Nat}
    {reliability : Reliability} {priority : RakPriority}
    (hf : s.pendingOutgoingFrames + addedFrames ≤ max s.outgoingQueueMaxFrames 1)
    (hb : s.pendingOutgoingBytes + addedBytes ≤ max s.outgoingQueueMaxBytes 1)
    (hsf : s.pendingOutgoingFrames + addedFrames
      ≤ softLimit (max s.outgoingQueueMaxFrames 1) s.outgoingQueueSoftRatio)
    (hsb : s.pendingOutgoingBytes + addedBytes
      ≤ softLimit (max s.outgoingQueueMaxBytes 1) s.outgoingQueueSoftRatio) :
    s.evaluateBackpressure addedFrames addedBytes reliability priority = .allow := by
  unfold evaluateBackpressure
  dsimp only
  rw [if_neg (by omega), if_neg (by omega)]

/-- An admitted payload that fits one frame is queued as one frame. -/
theorem queuePayloadWithReceipt_single {s : Session F H} {payload : Bytes}
    {reliability : Reliability} {channel : UInt8} {priority : RakPriority}
    {receiptId : Option UInt64} (hfit : payload.length ≤ s.maxPayloadFor reliability false)
    (hallow : s.evaluateBackpressure 1 (frameOverhead reliability false + payload.length)
      reliability priority = .allow) :
    s.queuePayloadWithReceipt payload reliability channel priority receiptId =
      (.enqueued (s.enqueueSingleFrame payload reliability channel priority receiptId).1,
        (s.enqueueSingleFrame payload reliability channel priority receiptId).2) := by
  simp only [queuePayloadWithReceipt, estimateQueueImpact, hfit, if_true, hallow]

omit [F64 F] [MinHeap H QueuedFrame QueuedFrame.weight] in
theorem reliableIndexIfNeeded_eq (s : Session F H) (reliability : Reliability) :
    ∃ index : Sequence24,
      (s.reliableIndexIfNeeded reliability).2 = { s with reliableWriteIndex := index } := by
  unfold reliableIndexIfNeeded
  split
  · exact ⟨_, rfl⟩
  · exact ⟨s.reliableWriteIndex, rfl⟩

omit [F64 F] [MinHeap H QueuedFrame QueuedFrame.weight] in
theorem nextOrderingIndexIfNeeded_eq (s : Session F H) (reliability : Reliability)
    (channel : UInt8) :
    ∃ ordering : List Sequence24,
      (s.nextOrderingIndexIfNeeded reliability channel).2
        = { s with orderingWriteIndex := ordering } := by
  unfold nextOrderingIndexIfNeeded
  split
  · exact ⟨s.orderingWriteIndex, rfl⟩
  · exact ⟨_, rfl⟩

omit [F64 F] [MinHeap H QueuedFrame QueuedFrame.weight] in
theorem nextSequenceIndexIfNeeded_eq (s : Session F H) (reliability : Reliability)
    (channel : UInt8) :
    ∃ sequencing : List Sequence24,
      (s.nextSequenceIndexIfNeeded reliability channel).2
        = { s with sequencingWriteIndex := sequencing } := by
  unfold nextSequenceIndexIfNeeded
  split
  · exact ⟨s.sequencingWriteIndex, rfl⟩
  · exact ⟨_, rfl⟩

omit [F64 F] in
/-- What `enqueue_single_frame` touches, and the entry it makes. -/
theorem enqueueSingleFrame_eq (s : Session F H) (payload : Bytes) (reliability : Reliability)
    (channel : UInt8) (priority : RakPriority) (receiptId : Option UInt64) :
    ∃ (q : QueuedFrame) (reliableIndex : Sequence24) (ordering sequencing : List Sequence24)
      (weights : List Nat) (lastMin : Nat),
      (s.enqueueSingleFrame payload reliability channel priority receiptId).2 = ([q],
        { s with
          outgoingHeap := MinHeap.push s.outgoingHeap q
          outgoingQueuedBytes := s.outgoingQueuedBytes + q.encodedSize
          reliableWriteIndex := reliableIndex
          orderingWriteIndex := ordering
          sequencingWriteIndex := sequencing
          outgoingNextWeights := weights
          lastMinWeight := lastMin }) ∧
      q.receiptId = receiptId ∧ q.isReliable = reliability.isReliable ∧
      q.encodedSize = Frame.overhead reliability false
        + ((bitLengthOf payload.length).toNat + 7) >>> 3 := by
  obtain ⟨ordering, h₁⟩ := s.nextOrderingIndexIfNeeded_eq reliability channel
  obtain ⟨sequencing, h₂⟩ := nextSequenceIndexIfNeeded_eq
    { s with orderingWriteIndex := ordering } reliability channel
  obtain ⟨index, h₃⟩ := reliableIndexIfNeeded_eq
    { s with orderingWriteIndex := ordering, sequencingWriteIndex := sequencing } reliability
  unfold enqueueSingleFrame
  simp only [h₁, h₂, h₃]
  exact ⟨_, _, _, _, _, _, rfl, rfl, rfl, rfl⟩

end Session

end Raknet
