-- SUMMARY: The counters of a session only rise, whatever the session does.
import Raknet.Lib.Saturating
import Raknet.Send.Footprint

/-!
# The counters of a session

Each operation of a session adds to some of its counters and takes from none.
-/

namespace Raknet

/-- The largest `u64`. -/
def counterMax : Nat := 2 ^ 64 - 1

/-- The counters of one list rise to those of the other. -/
abbrev CountersRise (as bs : List Nat) : Prop := RiseTogether counterMax as bs

@[simp] theorem rises_satAdd (n k : Nat) : Rises counterMax n (satAdd n k) := .min_add _ n k

/-- The counters of a session, in order. -/
def SessionMetrics.values (m : SessionMetrics) : List Nat :=
  [m.ingressDatagrams, m.ingressFrames, m.duplicateReliableDrops, m.orderedStaleDrops,
    m.orderedBufferFullDrops, m.sequencedStaleDrops, m.sequencedMissingIndexDrops,
    m.reliableSentDatagrams, m.resentDatagrams, m.ackOutDatagrams, m.nackOutDatagrams,
    m.ackedDatagrams, m.nackedDatagrams, m.splitTtlDrops, m.outgoingQueueDrops,
    m.outgoingQueueDefers, m.outgoingQueueDisconnects, m.backpressureDelays, m.backpressureDrops,
    m.backpressureDisconnects]

variable {F H : Type}

namespace Session

/-- The counters of the first session rise to those of the second. -/
abbrev MetricsRise (s s' : Session F H) : Prop := CountersRise s.metrics.values s'.metrics.values

theorem MetricsRise.of_eq {s s' : Session F H} (h : s'.metrics = s.metrics) : MetricsRise s s' := by
  rw [MetricsRise, h]
  exact .refl _ _

/-! ## Receiving -/

theorem releaseFrame_metrics (s : Session F H) (frame : Frame) :
    MetricsRise s (s.releaseFrame frame).2 := by
  unfold releaseFrame
  split
  · split
    · exact .of_eq rfl
    · simp [MetricsRise, SessionMetrics.values]
    · simp [MetricsRise, SessionMetrics.values]
  · split
    · split
      · exact .of_eq rfl
      · exact .of_eq rfl
      · simp [MetricsRise, SessionMetrics.values]
      · simp [MetricsRise, SessionMetrics.values]
    · exact .of_eq rfl

theorem handleFrame_metrics (s : Session F H) (frame : Frame) (now : Instant) :
    MetricsRise s (s.handleFrame frame now).2 := by
  unfold handleFrame
  split
  · simp [MetricsRise, SessionMetrics.values]
  · dsimp only
    split
    · exact .of_eq rfl
    · exact .of_eq rfl
    · next complete _ =>
      obtain ⟨tracker, hseen⟩ := markSeen_eq
        { s with splitAssembler := (s.splitAssembler.add frame now).2 } frame.header.isSplit complete
      rw [hseen]
      exact releaseFrame_metrics
        { s with splitAssembler := (s.splitAssembler.add frame now).2, reliableTracker := tracker }
        complete

theorem handleFrames_metrics (now : Instant) (frames : List Frame) (s : Session F H) :
    MetricsRise s (handleFrames now frames s).2 := by
  induction frames generalizing s with
  | nil => exact .of_eq rfl
  | cons frame rest ih =>
    have hfirst := s.handleFrame_metrics frame now
    unfold handleFrames
    generalize s.handleFrame frame now = r at hfirst ⊢
    obtain ⟨result, s'⟩ := r
    cases result with
    | error e => exact hfirst
    | ok out =>
      have hrest := ih s'
      dsimp only at hfirst ⊢
      generalize handleFrames now rest s' = r at hrest ⊢
      obtain ⟨result, s''⟩ := r
      cases result with
      | error e => exact hfirst.trans hrest
      | ok more => exact hfirst.trans hrest

theorem ingestDatagram_metrics (s : Session F H) (datagram : Datagram) (now : Instant) :
    MetricsRise s (s.ingestDatagram datagram now).2 := by
  unfold ingestDatagram
  dsimp only
  split
  · simp [MetricsRise, SessionMetrics.values, handleAckPayload]
  · simp [MetricsRise, SessionMetrics.values, handleNackPayload]
  · next frames _ =>
    obtain ⟨read, nacks, ackAt, nackAt, hseq⟩ := processDatagramSequence_eq
      { s with metrics := { s.metrics with
          ingressDatagrams := satAdd s.metrics.ingressDatagrams 1
          ingressFrames := satAdd s.metrics.ingressFrames frames.length } }
      datagram.header.sequence now
    refine RiseTogether.trans ?_ (handleFrames_metrics now frames _)
    rw [hseq]
    simp [SessionMetrics.values]

variable [F64 F]

theorem processIncomingReceipts_metrics (s : Session F H) (now : Instant) :
    MetricsRise s (s.processIncomingReceipts now).2 := by
  have hacks : MetricsRise s (s.processAcks now).2 := by
    obtain ⟨_, _, _, h⟩ := foldl_ackSequence_eq now (sequencesOf s.incomingAcks)
      (⟨0, 0, []⟩, { s with incomingAcks := [] })
    unfold processAcks
    generalize (sequencesOf s.incomingAcks).foldl (ackSequence now)
      (⟨0, 0, []⟩, { s with incomingAcks := [] }) = r at h ⊢
    obtain ⟨progress, s'⟩ := r
    dsimp only at h ⊢
    subst h
    simp [MetricsRise, SessionMetrics.values]
  have hnacks : ∀ (progress : ReceiptProgress) (s : Session F H),
      MetricsRise s (processNacks progress s now).2 := by
    intro progress s
    obtain ⟨_, h⟩ := foldl_nackSequence_eq now (sequencesOf s.incomingNacks)
      (progress, { s with incomingNacks := [] })
    unfold processNacks
    generalize (sequencesOf s.incomingNacks).foldl (nackSequence now)
      (progress, { s with incomingNacks := [] }) = r at h ⊢
    obtain ⟨progress', s'⟩ := r
    dsimp only at h ⊢
    subst h
    split <;> simp [MetricsRise, SessionMetrics.values]
  exact hacks.trans (hnacks _ _)

/-! ## Sending -/

omit [F64 F] in
theorem resendSelected_metrics (now nextSendAt : Instant) (selected : List Sequence24)
    (s : Session F H) : MetricsRise s (resendSelected now nextSendAt selected s).2 := by
  induction selected generalizing s with
  | nil => exact .of_eq rfl
  | cons seq rest ih =>
    unfold resendSelected
    split
    · exact ih s
    · refine RiseTogether.trans ?_ (ih _)
      simp [SessionMetrics.values]

theorem collectResendable_metrics (s : Session F H) (now : Instant) (maxCount maxBytes : Nat) :
    MetricsRise s (s.collectResendable now maxCount maxBytes).2 := by
  unfold collectResendable
  dsimp only
  split
  · exact .of_eq rfl
  · split
    · exact resendSelected_metrics now _ _ { s with congestion := s.congestion.onTimeout now }
    · exact resendSelected_metrics now _ _ s

omit [F64 F] in
theorem drainAckDatagram_metrics (s : Session F H) (now : Instant) :
    MetricsRise s (s.drainAckDatagram now).2 := by
  unfold drainAckDatagram
  dsimp only
  split
  · exact .of_eq rfl
  · simp [MetricsRise, SessionMetrics.values]

omit [F64 F] in
theorem drainNackDatagram_metrics (s : Session F H) (now : Instant) :
    MetricsRise s (s.drainNackDatagram now).2 := by
  unfold drainNackDatagram
  dsimp only
  split
  · exact .of_eq rfl
  · simp [MetricsRise, SessionMetrics.values]

omit [F64 F] in
theorem flushControl_metrics (s : Session F H) (now : Instant) :
    MetricsRise s (s.flushControl now).2 := by
  have hack : ∀ s : Session F H, MetricsRise s (s.flushAckIfDue now).2 := by
    intro s
    unfold flushAckIfDue
    split
    · exact .of_eq rfl
    · exact s.drainAckDatagram_metrics now
  have hnack : ∀ s : Session F H, MetricsRise s (s.flushNackIfDue now).2 := by
    intro s
    unfold flushNackIfDue
    split
    · exact .of_eq rfl
    · exact s.drainNackDatagram_metrics now
  unfold flushControl
  split
  · exact (hnack s).trans (hack _)
  · exact (hack s).trans (hnack _)

omit [F64 F] in
theorem pruneSplitState_metrics (s : Session F H) (now : Instant) :
    MetricsRise s (s.pruneSplitState now).2 := by
  simp [MetricsRise, pruneSplitState, SessionMetrics.values]

omit [F64 F] in
theorem trackSentReliableDatagram_metrics (s : Session F H) (datagram : Datagram) (now : Instant)
    (receiptIds : List UInt64) :
    MetricsRise s (s.trackSentReliableDatagram datagram now receiptIds) := by
  unfold trackSentReliableDatagram
  dsimp only
  split
  · exact .of_eq rfl
  · split
    · simp [MetricsRise, SessionMetrics.values]
    · exact .of_eq rfl

variable [MinHeap H QueuedFrame QueuedFrame.weight]

theorem queuePayloadWithReceipt_metrics (s : Session F H) (payload : Bytes)
    (reliability : Reliability) (channel : UInt8) (priority : RakPriority)
    (receiptId : Option UInt64) :
    MetricsRise s
      (s.queuePayloadWithReceipt payload reliability channel priority receiptId).2.2 := by
  unfold queuePayloadWithReceipt
  dsimp only
  split
  · simp [MetricsRise, SessionMetrics.values]
  · simp [MetricsRise, SessionMetrics.values]
  · simp [MetricsRise, SessionMetrics.values]
  · split
    · obtain ⟨_, _, _, _, _, _, h, -⟩ :=
        s.enqueueSingleFrame_eq payload reliability channel priority receiptId
      have hsame := congrArg (fun r => r.2.metrics) h
      exact .of_eq hsame
    · obtain ⟨_, _, _, _, _, _, _, h⟩ :=
        s.enqueueSplitFrames_eq payload reliability channel priority receiptId
      have hsame := congrArg Session.metrics h
      exact .of_eq hsame

omit [F64 F] in
theorem sealDatagram_metrics (s : Session F H) (p : Packing) (now : Instant) :
    MetricsRise s (s.sealDatagram p now).2 := by
  unfold sealDatagram
  dsimp only
  split
  · exact s.nextDatagramSequence.2.trackSentReliableDatagram_metrics _ now p.receiptIds
  · exact .of_eq rfl

theorem buildDataDatagram_metrics (s : Session F H) (now : Instant) (budget : Nat) :
    MetricsRise s (s.buildDataDatagram now budget).2.2 := by
  unfold buildDataDatagram
  split
  · exact .of_eq rfl
  · obtain ⟨heap, new, hs, -, -⟩ := packLoop_view s.pendingOutgoingFrames
      ⟨[], raknetDatagramHeaderSize, budget⟩ s
    generalize packLoop s.pendingOutgoingFrames ⟨[], raknetDatagramHeaderSize, budget⟩ s = r
      at hs
    obtain ⟨p, s'⟩ := r
    dsimp only at hs
    have hpacked : s'.metrics = s.metrics := by rw [hs]
    dsimp only
    split
    · exact .of_eq hpacked
    · exact (MetricsRise.of_eq hpacked).trans (s'.sealDatagram_metrics p now)

theorem buildLoop_metrics (now : Instant) (n budget : Nat) (s : Session F H) :
    MetricsRise s (buildLoop now n budget s).2 := by
  induction n generalizing budget s with
  | zero => exact .of_eq rfl
  | succ n ih =>
    have hfirst := s.buildDataDatagram_metrics now budget
    unfold buildLoop
    generalize s.buildDataDatagram now budget = r at hfirst ⊢
    obtain ⟨built, remaining, s'⟩ := r
    cases built with
    | none => exact hfirst
    | some built =>
      dsimp only at hfirst ⊢
      split
      · exact hfirst
      · exact hfirst.trans (ih remaining s')

theorem onTick_metrics (s : Session F H) (now : Instant)
    (maxNew maxNewBytes maxResend maxResendBytes : Nat) :
    MetricsRise s (s.onTick now maxNew maxNewBytes maxResend maxResendBytes).2 := by
  have hcontrol := flushControl_metrics
    { s with pacing := s.pacing.refreshPacingBudget s.congestion s.mtu now } now
  unfold onTick
  dsimp only
  generalize flushControl
    { s with pacing := s.pacing.refreshPacingBudget s.congestion s.mtu now } now = r at hcontrol ⊢
  obtain ⟨control, s₁⟩ := r
  dsimp only at hcontrol ⊢
  have hresent := s₁.collectResendable_metrics now maxResend
    (min maxResendBytes s₁.pacing.availableBytes)
  generalize s₁.collectResendable now maxResend (min maxResendBytes s₁.pacing.availableBytes) = r
    at hresent ⊢
  obtain ⟨resent, s₂⟩ := r
  dsimp only at hresent ⊢
  refine hcontrol.trans (hresent.trans ?_)
  exact (buildLoop_metrics now maxNew _ { s₂ with
    pacing := s₂.pacing.consumePacingBudget (resent.map Datagram.encodedSize).sum }).trans
      (pruneSplitState_metrics _ now)

/-! ## Every operation -/

theorem step_metrics (s : Session F H) (op : SessionOp) : MetricsRise s (s.step op).1 := by
  cases op with
  | queuePayload payload reliability channel priority receiptId =>
    exact s.queuePayloadWithReceipt_metrics payload reliability channel priority receiptId
  | ingestDatagram datagram now => exact s.ingestDatagram_metrics datagram now
  | processDatagramSequence seq now =>
    obtain ⟨_, _, _, _, h⟩ := s.processDatagramSequence_eq seq now
    have hsame := congrArg Session.metrics h
    exact .of_eq hsame
  | handleAckPayload payload => exact .of_eq rfl
  | handleNackPayload payload => exact .of_eq rfl
  | processIncomingReceipts now => exact s.processIncomingReceipts_metrics now
  | collectResendable now maxCount maxBytes =>
    exact s.collectResendable_metrics now maxCount maxBytes
  | buildDataDatagram now budget => exact s.buildDataDatagram_metrics now budget
  | onTick now maxNew maxNewBytes maxResend maxResendBytes =>
    exact s.onTick_metrics now maxNew maxNewBytes maxResend maxResendBytes
  | drainAckDatagram now => exact s.drainAckDatagram_metrics now
  | drainNackDatagram now => exact s.drainNackDatagram_metrics now
  | pruneSplitState now => exact s.pruneSplitState_metrics now
  | forceControlFlushDeadlines now =>
    refine .of_eq ?_
    simp only [step, forceControlFlushDeadlines]
    split <;> split <;> rfl
  | setMtu mtu => exact .of_eq rfl
  | transitionTo next =>
    refine .of_eq ?_
    simp only [step, transitionTo]
    split
    · rfl
    · rfl
  | touchActivity now => exact .of_eq rfl
  | markKeepaliveSent now => exact .of_eq rfl
  | takeBackpressureDisconnect => exact .of_eq rfl

end Session

end Raknet
