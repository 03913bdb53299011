-- SUMMARY: Which fields the send path touches, operation by operation.
import Raknet.Send.Queue
import Raknet.Session.Run

/-!
# Footprints

Each lemma names every field an operation of the send path may change; the
others are as before.
-/

namespace Raknet

variable {F H : Type}

namespace Session

/-! ## Queueing -/

section Queueing

variable [MinHeap H QueuedFrame QueuedFrame.weight]

theorem enqueueParts_eq (c : SplitContext) (n idx : Nat) (payload : Bytes) (s : Session F H) :
    ∃ (heap : H) (index : Sequence24) (weights : List Nat) (lastMin : Nat),
      (enqueueParts c n idx payload s).2.2 =
        { s with
          outgoingHeap := heap
          outgoingQueuedBytes := s.outgoingQueuedBytes
            + ((enqueueParts c n idx payload s).2.1.map QueuedFrame.encodedSize).sum
          reliableWriteIndex := index
          outgoingNextWeights := weights
          lastMinWeight := lastMin } := by
  induction n generalizing idx payload s with
  | zero => exact ⟨_, _, _, _, rfl⟩
  | succ n ih =>
    obtain ⟨index, hs⟩ := s.reliableIndexIfNeeded_eq c.reliability
    simp only [enqueueParts, hs]
    obtain ⟨_, _, _, _, h⟩ := ih (idx + 1) (payload.drop (min payload.length c.maxSplitPayload))
      (pushOutgoingFrame { s with reliableWriteIndex := index }
        (c.frame idx (s.reliableIndexIfNeeded c.reliability).1
          (payload.take (min payload.length c.maxSplitPayload))) c.priority c.receiptId).2
    rw [List.map_cons, List.sum_cons, ← Nat.add_assoc]
    exact ⟨_, _, _, _, h⟩

theorem enqueueSplitFrames_eq (s : Session F H) (payload : Bytes) (reliability : Reliability)
    (channel : UInt8) (priority : RakPriority) (receiptId : Option UInt64) :
    ∃ (heap : H) (index : Sequence24) (split : UInt16)
      (ordering sequencing : List Sequence24) (weights : List Nat) (lastMin : Nat),
      (s.enqueueSplitFrames payload reliability channel priority receiptId).2.2 =
        { s with
          outgoingHeap := heap
          outgoingQueuedBytes := s.outgoingQueuedBytes
            + ((s.enqueueSplitFrames payload reliability channel priority receiptId).2.1.map
                QueuedFrame.encodedSize).sum
          reliableWriteIndex := index
          splitWriteIndex := split
          orderingWriteIndex := ordering
          sequencingWriteIndex := sequencing
          outgoingNextWeights := weights
          lastMinWeight := lastMin } := by
  simp only [enqueueSplitFrames]
  obtain ⟨ordering, h₁⟩ := nextOrderingIndexIfNeeded_eq
    { s with splitWriteIndex := s.splitWriteIndex + 1 } (normalizeReliabilityForSplit reliability)
    channel
  obtain ⟨sequencing, h₂⟩ := nextSequenceIndexIfNeeded_eq
    { s with splitWriteIndex := s.splitWriteIndex + 1, orderingWriteIndex := ordering }
    (normalizeReliabilityForSplit reliability) channel
  rw [h₁, h₂]
  obtain ⟨_, _, _, _, h⟩ := enqueueParts_eq _ _ 0 payload
    { s with
      splitWriteIndex := s.splitWriteIndex + 1
      orderingWriteIndex := ordering
      sequencingWriteIndex := sequencing }
  exact ⟨_, _, _, _, _, _, _, h⟩

theorem queuePayloadWithReceipt_eq [F64 F] (s : Session F H) (payload : Bytes)
    (reliability : Reliability) (channel : UInt8) (priority : RakPriority)
    (receiptId : Option UInt64) :
    ∃ (heap : H) (index : Sequence24) (split : UInt16)
      (ordering sequencing : List Sequence24) (weights : List Nat) (lastMin : Nat)
      (metrics : SessionMetrics) (disconnect : Bool),
      (s.queuePayloadWithReceipt payload reliability channel priority receiptId).2.2 =
        { s with
          outgoingHeap := heap
          outgoingQueuedBytes := s.outgoingQueuedBytes
            + ((s.queuePayloadWithReceipt payload reliability channel priority receiptId).2.1.map
                QueuedFrame.encodedSize).sum
          reliableWriteIndex := index
          splitWriteIndex := split
          orderingWriteIndex := ordering
          sequencingWriteIndex := sequencing
          outgoingNextWeights := weights
          lastMinWeight := lastMin
          metrics
          disconnectRequestedByBackpressure := disconnect } := by
  rcases s.queuePayloadWithReceipt_cases payload reliability channel priority receiptId with
    ⟨_, _, _, -, heq⟩ | ⟨-, heq⟩ | ⟨-, heq⟩
  · rw [heq]
    exact ⟨_, _, _, _, _, _, _, _, _, rfl⟩
  · rw [heq]
    obtain ⟨_, _, _, _, _, _, h, -⟩ :=
      s.enqueueSingleFrame_eq payload reliability channel priority receiptId
    rw [h]
    exact ⟨_, _, _, _, _, _, _, _, _, rfl⟩
  · rw [heq]
    obtain ⟨_, _, _, _, _, _, _, h⟩ :=
      s.enqueueSplitFrames_eq payload reliability channel priority receiptId
    exact ⟨_, _, _, _, _, _, _, _, _, h⟩

end Queueing

/-! ## Receipts and resends -/

section Receipts

variable [F64 F]

theorem foldl_ackSequence_eq (now : Instant) (seqs : List Sequence24)
    (acc : ReceiptProgress × Session F H) :
    ∃ (sent : AssocMap Sequence24 TrackedDatagram) (congestion : Congestion F)
      (receipts : AssocMap UInt64 Nat),
      (seqs.foldl (ackSequence now) acc).2 =
        { acc.2 with sentDatagrams := sent, congestion, receiptTracking := receipts } := by
  induction seqs generalizing acc with
  | nil => exact ⟨_, _, _, rfl⟩
  | cons seq seqs ih =>
    obtain ⟨sent, congestion, receipts, h⟩ := ih (ackSequence now acc seq)
    rw [List.foldl_cons, h]
    unfold ackSequence
    dsimp only
    split
    · exact ⟨_, _, _, rfl⟩
    · exact ⟨_, _, _, rfl⟩

omit [F64 F] in
theorem foldl_nackSequence_eq (now : Instant) (seqs : List Sequence24)
    (acc : ReceiptProgress × Session F H) :
    ∃ sent : AssocMap Sequence24 TrackedDatagram,
      (seqs.foldl (nackSequence now) acc).2 = { acc.2 with sentDatagrams := sent } := by
  induction seqs generalizing acc with
  | nil => exact ⟨_, rfl⟩
  | cons seq seqs ih =>
    obtain ⟨sent, h⟩ := ih (nackSequence now acc seq)
    rw [List.foldl_cons, h]
    unfold nackSequence
    dsimp only
    split
    · exact ⟨_, rfl⟩
    · split
      · exact ⟨_, rfl⟩
      · exact ⟨_, rfl⟩

theorem processAcks_eq (s : Session F H) (now : Instant) :
    ∃ (sent : AssocMap Sequence24 TrackedDatagram) (congestion : Congestion F)
      (receipts : AssocMap UInt64 Nat) (metrics : SessionMetrics),
      (s.processAcks now).2 =
        { s with
          incomingAcks := []
          sentDatagrams := sent
          congestion
          receiptTracking := receipts
          metrics } := by
  obtain ⟨sent, congestion, receipts, hacks⟩ := foldl_ackSequence_eq now
    (sequencesOf s.incomingAcks) (⟨0, 0, []⟩, { s with incomingAcks := [] })
  unfold processAcks
  generalize (sequencesOf s.incomingAcks).foldl (ackSequence now)
    (⟨0, 0, []⟩, { s with incomingAcks := [] }) = r at hacks ⊢
  obtain ⟨progress, s'⟩ := r
  dsimp only at hacks ⊢
  subst hacks
  exact ⟨_, _, _, _, rfl⟩

theorem processNacks_eq (progress : ReceiptProgress) (s : Session F H) (now : Instant) :
    ∃ (sent : AssocMap Sequence24 TrackedDatagram) (congestion : Congestion F)
      (metrics : SessionMetrics),
      (processNacks progress s now).2 =
        { s with incomingNacks := [], sentDatagrams := sent, congestion, metrics } := by
  obtain ⟨sent, hnacks⟩ := foldl_nackSequence_eq now (sequencesOf s.incomingNacks)
    (progress, { s with incomingNacks := [] })
  unfold processNacks
  generalize (sequencesOf s.incomingNacks).foldl (nackSequence now)
    (progress, { s with incomingNacks := [] }) = r at hnacks ⊢
  obtain ⟨progress', s'⟩ := r
  dsimp only at hnacks ⊢
  subst hnacks
  split
  · exact ⟨_, _, _, rfl⟩
  · exact ⟨_, _, _, rfl⟩

theorem processIncomingReceipts_eq (s : Session F H) (now : Instant) :
    ∃ (sent : AssocMap Sequence24 TrackedDatagram) (congestion : Congestion F)
      (receipts : AssocMap UInt64 Nat) (metrics : SessionMetrics),
      (s.processIncomingReceipts now).2 =
        { s with
          incomingAcks := []
          incomingNacks := []
          sentDatagrams := sent
          congestion
          receiptTracking := receipts
          metrics } := by
  obtain ⟨_, _, receipts, _, hacks⟩ := s.processAcks_eq now
  obtain ⟨sent, congestion, metrics, hnacks⟩ :=
    processNacks_eq (s.processAcks now).1 (s.processAcks now).2 now
  refine ⟨sent, congestion, receipts, metrics, ?_⟩
  unfold processIncomingReceipts
  rw [hnacks, hacks]

omit [F64 F] in
theorem resendSelected_eq (now nextSendAt : Instant) (selected : List Sequence24)
    (s : Session F H) :
    ∃ (sent : AssocMap Sequence24 TrackedDatagram) (metrics : SessionMetrics),
      (resendSelected now nextSendAt selected s).2
        = { s with sentDatagrams := sent, metrics } := by
  induction selected generalizing s with
  | nil => exact ⟨_, _, rfl⟩
  | cons seq rest ih =>
    unfold resendSelected
    split
    · exact ih s
    · obtain ⟨_, _, h⟩ := ih { s with sentDatagrams := _, metrics := _ }
      exact ⟨_, _, h⟩

theorem collectResendable_eq (s : Session F H) (now : Instant) (maxCount maxBytes : Nat) :
    ∃ (sent : AssocMap Sequence24 TrackedDatagram) (metrics : SessionMetrics)
      (congestion : Congestion F),
      (s.collectResendable now maxCount maxBytes).2
        = { s with sentDatagrams := sent, metrics, congestion } := by
  unfold collectResendable
  dsimp only
  split
  · exact ⟨_, _, _, rfl⟩
  · split
    · obtain ⟨_, _, h⟩ := resendSelected_eq now
        (now + (s.congestion.onTimeout now).resendRto)
        (selectResendable now maxCount maxBytes s.sentInOrder 0 [] false).1
        { s with congestion := s.congestion.onTimeout now }
      exact ⟨_, _, _, h⟩
    · obtain ⟨_, _, h⟩ := resendSelected_eq now (now + s.congestion.resendRto)
        (selectResendable now maxCount maxBytes s.sentInOrder 0 [] false).1 s
      exact ⟨_, _, _, h⟩

end Receipts

/-! ## Packing and control -/

section Tick

theorem drainAckDatagram_eq (s : Session F H) (now : Instant) :
    ∃ (acks : AckQueue) (deadline : Instant) (metrics : SessionMetrics),
      (s.drainAckDatagram now).2
        = { s with outgoingAcks := acks, nextAckFlushAt := deadline, metrics } := by
  unfold drainAckDatagram
  dsimp only
  split
  · exact ⟨_, _, _, rfl⟩
  · exact ⟨_, _, _, rfl⟩

theorem drainNackDatagram_eq (s : Session F H) (now : Instant) :
    ∃ (nacks : AckQueue) (deadline : Instant) (metrics : SessionMetrics),
      (s.drainNackDatagram now).2
        = { s with outgoingNacks := nacks, nextNackFlushAt := deadline, metrics } := by
  unfold drainNackDatagram
  dsimp only
  split
  · exact ⟨_, _, _, rfl⟩
  · exact ⟨_, _, _, rfl⟩

theorem flushAckIfDue_eq (s : Session F H) (now : Instant) :
    ∃ (acks : AckQueue) (deadline : Instant) (metrics : SessionMetrics),
      (s.flushAckIfDue now).2
        = { s with outgoingAcks := acks, nextAckFlushAt := deadline, metrics } := by
  unfold flushAckIfDue
  split
  · exact ⟨_, _, _, rfl⟩
  · exact s.drainAckDatagram_eq now

theorem flushNackIfDue_eq (s : Session F H) (now : Instant) :
    ∃ (nacks : AckQueue) (deadline : Instant) (metrics : SessionMetrics),
      (s.flushNackIfDue now).2
        = { s with outgoingNacks := nacks, nextNackFlushAt := deadline, metrics } := by
  unfold flushNackIfDue
  split
  · exact ⟨_, _, _, rfl⟩
  · exact s.drainNackDatagram_eq now

theorem flushControl_eq (s : Session F H) (now : Instant) :
    ∃ (acks nacks : AckQueue) (ackAt nackAt : Instant) (metrics : SessionMetrics),
      (s.flushControl now).2 =
        { s with
          outgoingAcks := acks
          outgoingNacks := nacks
          nextAckFlushAt := ackAt
          nextNackFlushAt := nackAt
          metrics } := by
  unfold flushControl
  split
  · obtain ⟨nacks, nackAt, metrics, h⟩ := s.flushNackIfDue_eq now
    obtain ⟨_, _, _, h'⟩ := flushAckIfDue_eq
      { s with outgoingNacks := nacks, nextNackFlushAt := nackAt, metrics } now
    dsimp only
    rw [h, h']
    exact ⟨_, _, _, _, _, rfl⟩
  · obtain ⟨acks, ackAt, metrics, h⟩ := s.flushAckIfDue_eq now
    obtain ⟨_, _, _, h'⟩ := flushNackIfDue_eq
      { s with outgoingAcks := acks, nextAckFlushAt := ackAt, metrics } now
    dsimp only
    rw [h, h']
    exact ⟨_, _, _, _, _, rfl⟩

variable [F64 F] [MinHeap H QueuedFrame QueuedFrame.weight]

theorem buildLoop_eq (now : Instant) (n budget : Nat) (s : Session F H) :
    ∃ (heap : H) (sequence : Sequence24) (metrics : SessionMetrics)
      (receipts : AssocMap UInt64 Nat) (sent : AssocMap Sequence24 TrackedDatagram),
      (buildLoop now n budget s).2 =
        { s with
          outgoingHeap := heap
          outgoingQueuedBytes := s.outgoingQueuedBytes
            - (((buildLoop now n budget s).1.flatMap BuiltDatagram.queued).map
                QueuedFrame.encodedSize).sum
          datagramWriteIndex := sequence
          metrics
          receiptTracking := receipts
          sentDatagrams := sent } := by
  induction n generalizing budget s with
  | zero => exact ⟨_, _, _, _, _, rfl⟩
  | succ n ih =>
    obtain ⟨heap, sequence, metrics, receipts, sent, h, -⟩ := s.buildDataDatagram_eq now budget
    unfold buildLoop
    generalize s.buildDataDatagram now budget = r at h ⊢
    obtain ⟨built, remaining, s'⟩ := r
    dsimp only at h
    subst h
    cases built with
    | none => exact ⟨_, _, _, _, _, rfl⟩
    | some b =>
      dsimp only
      split
      · exact ⟨_, _, _, _, _, rfl⟩
      · obtain ⟨_, _, _, _, _, h'⟩ := ih remaining
          { s with
            outgoingHeap := heap
            outgoingQueuedBytes := s.outgoingQueuedBytes
              - (((some b).toList.flatMap BuiltDatagram.queued).map QueuedFrame.encodedSize).sum
            datagramWriteIndex := sequence
            metrics
            receiptTracking := receipts
            sentDatagrams := sent }
        rw [List.flatMap_cons, List.map_append, List.sum_append, Nat.sub_add_eq]
        rw [Option.toList_some, List.flatMap_singleton] at h' ⊢
        exact ⟨_, _, _, _, _, h'⟩

/-- A tick sends, drains the control queues and drops expired compounds. -/
theorem onTick_eq (s : Session F H) (now : Instant)
    (maxNew maxNewBytes maxResend maxResendBytes : Nat) :
    ∃ (pacing : Pacing F) (acks nacks : AckQueue) (ackAt nackAt : Instant)
      (metrics : SessionMetrics) (sent : AssocMap Sequence24 TrackedDatagram)
      (congestion : Congestion F) (heap : H) (sequence : Sequence24)
      (receipts : AssocMap UInt64 Nat),
      (s.onTick now maxNew maxNewBytes maxResend maxResendBytes).2 =
        { s with
          pacing
          outgoingAcks := acks
          outgoingNacks := nacks
          nextAckFlushAt := ackAt
          nextNackFlushAt := nackAt
          metrics
          sentDatagrams := sent
          congestion
          outgoingHeap := heap
          outgoingQueuedBytes := s.outgoingQueuedBytes
            - (((s.onTick now maxNew maxNewBytes maxResend maxResendBytes).1.fresh.flatMap
                BuiltDatagram.queued).map QueuedFrame.encodedSize).sum
          datagramWriteIndex := sequence
          receiptTracking := receipts
          splitAssembler := (s.splitAssembler.prune now).2 } := by
  unfold onTick
  dsimp only
  obtain ⟨acks, nacks, ackAt, nackAt, metrics, h₁⟩ := flushControl_eq
    { s with pacing := s.pacing.refreshPacingBudget s.congestion s.mtu now } now
  generalize flushControl { s with pacing := s.pacing.refreshPacingBudget s.congestion s.mtu now }
    now = r at h₁ ⊢
  obtain ⟨control, s₁⟩ := r
  dsimp only at h₁ ⊢
  obtain ⟨sent, metrics', congestion, h₂⟩ := s₁.collectResendable_eq now maxResend
    (min maxResendBytes s₁.pacing.availableBytes)
  generalize s₁.collectResendable now maxResend (min maxResendBytes s₁.pacing.availableBytes) = r
    at h₂ ⊢
  obtain ⟨resent, s₂⟩ := r
  dsimp only at h₂ ⊢
  subst h₂ h₁
  obtain ⟨_, _, _, _, _, h₃⟩ := buildLoop_eq now maxNew
    (newBytesBudget
      { s with
        pacing := (s.pacing.refreshPacingBudget s.congestion s.mtu now).consumePacingBudget
          (resent.map Datagram.encodedSize).sum
        outgoingAcks := acks
        outgoingNacks := nacks
        nextAckFlushAt := ackAt
        nextNackFlushAt := nackAt
        metrics := metrics'
        sentDatagrams := sent
        congestion } maxNewBytes)
    { s with
      pacing := (s.pacing.refreshPacingBudget s.congestion s.mtu now).consumePacingBudget
        (resent.map Datagram.encodedSize).sum
      outgoingAcks := acks
      outgoingNacks := nacks
      nextAckFlushAt := ackAt
      nextNackFlushAt := nackAt
      metrics := metrics'
      sentDatagrams := sent
      congestion }
  rw [h₃]
  exact ⟨_, _, _, _, _, _, _, _, _, _, _, rfl⟩

end Tick

/-! ## One operation -/

variable [F64 F] [MinHeap H QueuedFrame QueuedFrame.weight]

/-- What an operation that queues nothing leaves as it was: the write counters,
    the limits of the queue and, unless it sets it, the MTU. The entries it emits
    leave the byte count. -/
structure QueuesNothing (s : Session F H) (op : SessionOp) (s' : Session F H) (o : SessionOut) :
    Prop where
  made : o.made = []
  reliableWriteIndex : s'.reliableWriteIndex = s.reliableWriteIndex
  splitWriteIndex : s'.splitWriteIndex = s.splitWriteIndex
  orderingWriteIndex : s'.orderingWriteIndex = s.orderingWriteIndex
  sequencingWriteIndex : s'.sequencingWriteIndex = s.sequencingWriteIndex
  maxFrames : s'.outgoingQueueMaxFrames = s.outgoingQueueMaxFrames
  maxBytes : s'.outgoingQueueMaxBytes = s.outgoingQueueMaxBytes
  mtu : (∀ m, op ≠ .setMtu m) → s'.mtu = s.mtu
  bytes : s'.outgoingQueuedBytes = s.outgoingQueuedBytes
    - ((o.fresh.flatMap BuiltDatagram.queued).map QueuedFrame.encodedSize).sum

theorem step_queues (s : Session F H) (op : SessionOp) :
    (∃ payload reliability channel priority receiptId,
      op = .queuePayload payload reliability channel priority receiptId) ∨
    QueuesNothing s op (s.step op).1 (s.step op).2 := by
  cases op with
  | queuePayload payload reliability channel priority receiptId =>
    exact .inl ⟨payload, reliability, channel, priority, receiptId, rfl⟩
  | ingestDatagram d now =>
    refine .inr ?_
    cases hpayload : d.payload with
    | frames frames =>
      obtain ⟨_, _, _, _, _, _, _, _, h⟩ := s.ingestDatagram_footprint hpayload now
      simp only [step, h]
      exact ⟨rfl, rfl, rfl, rfl, rfl, rfl, rfl, fun _ => rfl, rfl⟩
    | ack payload =>
      simp only [step, ingestDatagram, hpayload]
      exact ⟨rfl, rfl, rfl, rfl, rfl, rfl, rfl, fun _ => rfl, rfl⟩
    | nack payload =>
      simp only [step, ingestDatagram, hpayload]
      exact ⟨rfl, rfl, rfl, rfl, rfl, rfl, rfl, fun _ => rfl, rfl⟩
  | processDatagramSequence seq now =>
    obtain ⟨_, _, _, _, h⟩ := s.processDatagramSequence_eq seq now
    simp only [step, h]
    exact .inr ⟨rfl, rfl, rfl, rfl, rfl, rfl, rfl, fun _ => rfl, rfl⟩
  | processIncomingReceipts now =>
    obtain ⟨_, _, _, _, h⟩ := s.processIncomingReceipts_eq now
    simp only [step, h]
    exact .inr ⟨rfl, rfl, rfl, rfl, rfl, rfl, rfl, fun _ => rfl, rfl⟩
  | collectResendable now maxCount maxBytes =>
    obtain ⟨_, _, _, h⟩ := s.collectResendable_eq now maxCount maxBytes
    simp only [step, h]
    exact .inr ⟨rfl, rfl, rfl, rfl, rfl, rfl, rfl, fun _ => rfl, rfl⟩
  | buildDataDatagram now budget =>
    obtain ⟨_, _, _, _, _, h, -⟩ := s.buildDataDatagram_eq now budget
    simp only [step, h]
    exact .inr ⟨rfl, rfl, rfl, rfl, rfl, rfl, rfl, fun _ => rfl, rfl⟩
  | onTick now maxNew maxNewBytes maxResend maxResendBytes =>
    obtain ⟨_, _, _, _, _, _, _, _, _, _, _, h⟩ :=
      s.onTick_eq now maxNew maxNewBytes maxResend maxResendBytes
    simp only [step, h]
    exact .inr ⟨rfl, rfl, rfl, rfl, rfl, rfl, rfl, fun _ => rfl, rfl⟩
  | drainAckDatagram now =>
    obtain ⟨_, _, _, h⟩ := s.drainAckDatagram_eq now
    simp only [step, h]
    exact .inr ⟨rfl, rfl, rfl, rfl, rfl, rfl, rfl, fun _ => rfl, rfl⟩
  | drainNackDatagram now =>
    obtain ⟨_, _, _, h⟩ := s.drainNackDatagram_eq now
    simp only [step, h]
    exact .inr ⟨rfl, rfl, rfl, rfl, rfl, rfl, rfl, fun _ => rfl, rfl⟩
  | forceControlFlushDeadlines now =>
    simp only [step, forceControlFlushDeadlines]
    split <;> split <;>
      exact .inr ⟨rfl, rfl, rfl, rfl, rfl, rfl, rfl, fun _ => rfl, rfl⟩
  | transitionTo next =>
    simp only [step, transitionTo]
    split <;> exact .inr ⟨rfl, rfl, rfl, rfl, rfl, rfl, rfl, fun _ => rfl, rfl⟩
  | setMtu m =>
    exact .inr ⟨rfl, rfl, rfl, rfl, rfl, rfl, rfl, fun h => absurd rfl (h m), rfl⟩
  | _ => exact .inr ⟨rfl, rfl, rfl, rfl, rfl, rfl, rfl, fun _ => rfl, rfl⟩

end Session

end Raknet
