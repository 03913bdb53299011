-- SUMMARY: Which sequence numbers a session acknowledges: the ranges it emits cover arrivals only.
import Raknet.Send.Footprint
import Raknet.Send.History

/-!
# Acknowledgements sent

A session queues an acknowledgement for each sequence number that arrives, one
number at a time. The queue merges neighbours, across the wrap as well, and a
single number never widens a range by more than itself.
-/

namespace Raknet

namespace AckQueue

/-! ## One more number -/

/-- The overlap rule keeps the last range as it is when the new one is a single
    number. -/
theorem overlap_single {last : SequenceRange} {seq : Sequence24}
    (h : (last.stop.ge seq && seq.ge last.start) = true) :
    (⟨last.start.min seq, last.stop.max seq⟩ : SequenceRange) = last := by
  rw [Bool.and_eq_true] at h
  obtain ⟨hstop, hstart⟩ := h
  have hmin : last.start.min seq = last.start := by
    refine if_neg fun hlt => ?_
    have hcmp : seq.cmp last.start ≠ .lt := of_decide_eq_true hstart
    exact hcmp (of_decide_eq_true hlt)
  have hmax : last.stop.max seq = last.stop := by
    unfold Sequence24.max
    split
    · rfl
    · next hlt =>
      rw [Sequence24.ge_iff] at hstop
      rw [Sequence24.lt_iff] at hlt
      have hzero : seq.distanceTo last.stop = 0 := by omega
      exact Sequence24.distanceTo_eq_zero.mp hzero
  rw [hmin, hmax]

theorem mergeLast_single {last merged : SequenceRange} {seq x : Sequence24}
    (h : mergeLast last (SequenceRange.single seq) = some merged) (hx : merged.Covers x) :
    last.Covers x ∨ x = seq := by
  unfold mergeLast at h
  split at h
  · next hnext =>
    obtain rfl := Option.some.inj h
    change last.stop.next = seq at hnext
    subst hnext
    exact SequenceRange.covers_extend hx
  · split at h
    · next hoverlap =>
      obtain rfl := Option.some.inj h
      exact .inl (overlap_single hoverlap ▸ hx)
    · cases h

/-- Pushing a single number covers that number and nothing else that was not
    covered before. -/
theorem covers_push_single {q : AckQueue} {seq x : Sequence24} {r : SequenceRange}
    (hr : r ∈ (q.push (SequenceRange.single seq)).queue) (hx : r.Covers x) :
    (∃ r ∈ q.queue, r.Covers x) ∨ x = seq := by
  have hwraps : (SequenceRange.single seq).splitWrapping = none := by
    simp [SequenceRange.splitWrapping, SequenceRange.single_wraps]
  unfold push pushWith at hr
  split at hr
  · exact .inl ⟨r, hr, hx⟩
  · split at hr
    · next merged hmerge =>
      obtain ⟨last, hlast, hmerge⟩ := Option.bind_eq_some_iff.mp hmerge
      rcases List.mem_append.mp hr with hr | hr
      · exact .inl ⟨r, List.dropLast_subset _ hr, hx⟩
      · rw [List.mem_singleton] at hr
        subst hr
        rcases mergeLast_single hmerge hx with h | h
        · exact .inl ⟨last, List.mem_of_getLast? hlast, h⟩
        · exact .inr h
    · rw [hwraps] at hr
      rcases List.mem_append.mp hr with hr | hr
      · exact .inl ⟨r, hr, hx⟩
      · rw [List.mem_singleton] at hr
        subst hr
        exact .inr (SequenceRange.covers_single.mp hx)

/-- Every number the queue covers is one of `arrived`. -/
def CoversOnly (q : AckQueue) (arrived : List Sequence24) : Prop :=
  ∀ r ∈ q.queue, ∀ x, r.Covers x → x ∈ arrived

theorem CoversOnly.pushes {q : AckQueue} {arrived : List Sequence24} (h : q.CoversOnly arrived)
    (seqs : List Sequence24) :
    (seqs.foldl (fun q seq => q.push (SequenceRange.single seq)) q).CoversOnly
      (arrived ++ seqs) := by
  induction seqs generalizing q arrived with
  | nil => simpa using h
  | cons seq seqs ih =>
    have hpush : (q.push (SequenceRange.single seq)).CoversOnly (arrived ++ [seq]) := by
      intro r hr x hx
      rcases covers_push_single hr hx with ⟨r, hr, hx⟩ | rfl
      · exact List.mem_append_left _ (h r hr x hx)
      · exact List.mem_append_right _ (List.mem_singleton_self x)
    simpa using ih hpush

end AckQueue

/-! ## Arrivals and emitted ranges -/

/-- The sequence numbers an operation passes to `process_datagram_sequence`. -/
def SessionOp.arrivals : SessionOp → List Sequence24
  | .processDatagramSequence seq _ => [seq]
  | .ingestDatagram d _ =>
    match d.payload with
    | .frames _ => [d.header.sequence]
    | .ack _ | .nack _ => []
  | _ => []

/-- The ranges of an acknowledgement. -/
def Datagram.ackRanges (d : Datagram) : List SequenceRange :=
  match d.payload with
  | .ack payload => payload.ranges
  | .nack _ | .frames _ => []

namespace SessionOut

/-- The datagrams an operation emitted. -/
def datagrams (o : SessionOut) : List Datagram := o.controlDatagrams ++ o.dataDatagrams

def ackRanges (o : SessionOut) : List SequenceRange :=
  o.controlDatagrams.flatMap Datagram.ackRanges

end SessionOut

variable {F H : Type}

namespace Session

/-- Draining moves ranges from the front of the queue into the datagram. -/
theorem drainAckDatagram_acks (s : Session F H) (now : Instant) :
    (s.drainAckDatagram now).1.toList.flatMap Datagram.ackRanges
      ++ (s.drainAckDatagram now).2.outgoingAcks.queue = s.outgoingAcks.queue := by
  have happ := s.outgoingAcks.popForMtu_append s.mtu 3 s.flush.ackMaxRangesPerDatagram
  unfold drainAckDatagram
  generalize s.outgoingAcks.popForMtu s.mtu 3 s.flush.ackMaxRangesPerDatagram = r at happ
  obtain ⟨ranges, rest⟩ := r
  dsimp only at happ ⊢
  split
  · next hempty =>
    rw [List.isEmpty_iff.mp hempty] at happ
    exact happ
  · simpa [Datagram.ackRanges] using happ

theorem drainNackDatagram_acks (s : Session F H) (now : Instant) :
    (s.drainNackDatagram now).1.toList.flatMap Datagram.ackRanges = [] ∧
    (s.drainNackDatagram now).2.outgoingAcks = s.outgoingAcks := by
  unfold drainNackDatagram
  dsimp only
  split
  · exact ⟨rfl, rfl⟩
  · exact ⟨rfl, rfl⟩

theorem flushAckIfDue_acks (s : Session F H) (now : Instant) :
    (s.flushAckIfDue now).1.flatMap Datagram.ackRanges
      ++ (s.flushAckIfDue now).2.outgoingAcks.queue = s.outgoingAcks.queue := by
  unfold flushAckIfDue
  split
  · rfl
  · exact s.drainAckDatagram_acks now

theorem flushNackIfDue_acks (s : Session F H) (now : Instant) :
    (s.flushNackIfDue now).1.flatMap Datagram.ackRanges = [] ∧
    (s.flushNackIfDue now).2.outgoingAcks = s.outgoingAcks := by
  unfold flushNackIfDue
  split
  · exact ⟨rfl, rfl⟩
  · exact s.drainNackDatagram_acks now

theorem flushControl_acks (s : Session F H) (now : Instant) :
    (s.flushControl now).1.flatMap Datagram.ackRanges
      ++ (s.flushControl now).2.outgoingAcks.queue = s.outgoingAcks.queue := by
  unfold flushControl
  split
  · obtain ⟨hnone, hsame⟩ := s.flushNackIfDue_acks now
    have hacks := (s.flushNackIfDue now).2.flushAckIfDue_acks now
    simp only [List.flatMap_append, hnone, List.nil_append, hacks, hsame]
  · obtain ⟨hnone, hsame⟩ := (s.flushAckIfDue now).2.flushNackIfDue_acks now
    have hacks := s.flushAckIfDue_acks now
    simp only [List.flatMap_append, hnone, List.append_nil, hacks, hsame]

theorem ingestDatagram_acks (s : Session F H) (d : Datagram) (now : Instant) :
    (s.ingestDatagram d now).2.outgoingAcks
      = (SessionOp.ingestDatagram d now).arrivals.foldl
          (fun q seq => q.push (SequenceRange.single seq)) s.outgoingAcks := by
  obtain ⟨header, payload⟩ := d
  cases payload with
  | ack payload => rfl
  | nack payload => rfl
  | frames frames =>
    obtain ⟨_, _, _, _, _, _, _, _, h⟩ :=
      s.ingestDatagram_footprint (d := ⟨header, .frames frames⟩) rfl now
    rw [h]
    rfl

variable [F64 F] [MinHeap H QueuedFrame QueuedFrame.weight]

theorem onTick_acks (s : Session F H) (now : Instant)
    (maxNew maxNewBytes maxResend maxResendBytes : Nat) :
    (s.onTick now maxNew maxNewBytes maxResend maxResendBytes).1.control.flatMap Datagram.ackRanges
      ++ (s.onTick now maxNew maxNewBytes maxResend maxResendBytes).2.outgoingAcks.queue
      = s.outgoingAcks.queue := by
  have hflush := flushControl_acks
    { s with pacing := s.pacing.refreshPacingBudget s.congestion s.mtu now } now
  unfold onTick
  dsimp only
  generalize flushControl { s with pacing := s.pacing.refreshPacingBudget s.congestion s.mtu now }
    now = r at hflush ⊢
  obtain ⟨control, s₁⟩ := r
  dsimp only at hflush ⊢
  -- What follows the flush leaves the queue of acknowledgements alone.
  obtain ⟨_, _, _, hcollect⟩ := s₁.collectResendable_eq now maxResend
    (min maxResendBytes s₁.pacing.availableBytes)
  generalize s₁.collectResendable now maxResend (min maxResendBytes s₁.pacing.availableBytes) = r
    at hcollect ⊢
  obtain ⟨resent, s₂⟩ := r
  dsimp only at hcollect ⊢
  obtain ⟨_, _, _, _, _, hbuild⟩ := buildLoop_eq now maxNew
    (newBytesBudget { s₂ with
      pacing := s₂.pacing.consumePacingBudget (resent.map Datagram.encodedSize).sum } maxNewBytes)
    { s₂ with
      pacing := s₂.pacing.consumePacingBudget (resent.map Datagram.encodedSize).sum }
  rw [hbuild, hcollect]
  exact hflush

/-- Ranges only enter the queue as arrivals and only leave it into emitted
    acknowledgements. -/
theorem step_acks (s : Session F H) (op : SessionOp) :
    (s.step op).2.ackRanges ++ (s.step op).1.outgoingAcks.queue
      = (op.arrivals.foldl (fun q seq => q.push (SequenceRange.single seq))
          s.outgoingAcks).queue := by
  cases op with
  | queuePayload payload reliability channel priority receiptId =>
    obtain ⟨_, _, _, _, _, _, _, _, _, h⟩ :=
      s.queuePayloadWithReceipt_eq payload reliability channel priority receiptId
    simp only [step, h]
    rfl
  | ingestDatagram d now => exact congrArg AckQueue.queue (s.ingestDatagram_acks d now)
  | processDatagramSequence seq now =>
    obtain ⟨_, _, _, _, h⟩ := s.processDatagramSequence_eq seq now
    simp only [step, h]
    rfl
  | processIncomingReceipts now =>
    obtain ⟨_, _, _, _, h⟩ := s.processIncomingReceipts_eq now
    simp only [step, h]
    rfl
  | collectResendable now maxCount maxBytes =>
    obtain ⟨_, _, _, h⟩ := s.collectResendable_eq now maxCount maxBytes
    simp only [step, h]
    rfl
  | buildDataDatagram now budget =>
    obtain ⟨_, _, _, _, _, h, -⟩ := s.buildDataDatagram_eq now budget
    simp only [step, h]
    rfl
  | onTick now maxNew maxNewBytes maxResend maxResendBytes =>
    exact s.onTick_acks now maxNew maxNewBytes maxResend maxResendBytes
  | drainAckDatagram now => exact s.drainAckDatagram_acks now
  | drainNackDatagram now =>
    obtain ⟨hnone, hsame⟩ := s.drainNackDatagram_acks now
    exact congrArg₂ (fun ranges q => ranges ++ AckQueue.queue q) hnone hsame
  | forceControlFlushDeadlines now =>
    simp only [step, forceControlFlushDeadlines]
    split <;> split <;> rfl
  | transitionTo next =>
    simp only [step, transitionTo]
    split <;> rfl
  | _ => rfl

/-- Every range in the queue of a run covers arrivals only. -/
theorem exec_acks_coverOnly (mtu : Nat) (tunables : SessionTunables F) (start : Instant)
    (ops : List SessionOp) :
    ((sessionMachine F H).exec (withTunables mtu tunables start) ops).outgoingAcks.CoversOnly
      (ops.flatMap SessionOp.arrivals) := by
  refine (sessionMachine F H).run_invariant
    (P := fun ops _ s => s.outgoingAcks.CoversOnly (ops.flatMap SessionOp.arrivals)) ?_ ?_ ops
  · intro r hr
    cases hr
  · intro ops _ s op hs r hr
    rw [List.flatMap_append, List.flatMap_singleton]
    refine hs.pushes op.arrivals r ?_
    rw [← s.step_acks op]
    exact List.mem_append_right _ hr

/-- Every number that an emitted acknowledgement covers, read circularly from
    the start of a range to its end, arrived before. -/
theorem acked_was_received (mtu : Nat) (tunables : SessionTunables F) (start : Instant)
    (before : List SessionOp) (op : SessionOp) {d : Datagram} {payload : AckNackPayload}
    {r : SequenceRange} {x : Sequence24}
    (hd : d ∈ (((sessionMachine F H).exec (withTunables mtu tunables start) before).step
      op).2.datagrams)
    (hp : d.payload = .ack payload) (hr : r ∈ payload.ranges) (hx : r.Covers x) :
    x ∈ before.flatMap SessionOp.arrivals := by
  set s := (sessionMachine F H).exec (withTunables mtu tunables start) before with hs
  rcases List.mem_append.mp hd with hd | hd
  · have hrange : r ∈ (s.step op).2.ackRanges :=
      List.mem_flatMap.mpr ⟨d, hd, by rw [Datagram.ackRanges, hp]; exact hr⟩
    -- An operation that emits acknowledgements is no arrival.
    have hnone : op.arrivals = [] := by
      cases op with
      | drainAckDatagram now => rfl
      | drainNackDatagram now => rfl
      | onTick now maxNew maxNewBytes maxResend maxResendBytes => rfl
      | _ => cases hd
    have hqueue := s.step_acks op
    rw [hnone] at hqueue
    refine exec_acks_coverOnly (H := H) mtu tunables start before r ?_ x hx
    rw [← hs]
    exact hqueue ▸ List.mem_append_left _ hrange
  · -- Data datagrams carry frames.
    have hrun : d ∈ ((sessionMachine F H).outputs (withTunables mtu tunables start)
        (before ++ [op])).flatMap SessionOut.dataDatagrams := by
      rw [Machine.outputs_append, List.flatMap_append, ← hs]
      refine List.mem_append_right _ ?_
      simpa using hd
    obtain ⟨b, -, -, hframes⟩ := dataDatagram_built hrun
    rw [hp] at hframes
    cases hframes

/-- Two arrivals across the wrap leave as one range, which covers them both. -/
theorem acked_was_received_across_wrap :
    Sequence24.new 0 ∈ [SessionOp.processDatagramSequence (Sequence24.new 0x00FFFFFF) 0,
      SessionOp.processDatagramSequence (Sequence24.new 0) 0].flatMap SessionOp.arrivals :=
  acked_was_received (F := ℚ) (H := SortedHeap QueuedFrame QueuedFrame.weight) 100
    SessionTunables.standard 0
    [.processDatagramSequence (Sequence24.new 0x00FFFFFF) 0,
      .processDatagramSequence (Sequence24.new 0) 0] (.drainAckDatagram 0)
    (d :=
      { header := ⟨DatagramFlags.valid ||| DatagramFlags.ack, Sequence24.new 0⟩
        payload := .ack ⟨[⟨Sequence24.new 0x00FFFFFF, Sequence24.new 0⟩]⟩ })
    (r := ⟨Sequence24.new 0x00FFFFFF, Sequence24.new 0⟩)
    (by decide +kernel) rfl (by decide) (by decide)

end Session

end Raknet
