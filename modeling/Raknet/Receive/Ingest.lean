-- SUMMARY: How the frames of a datagram are handled one after another, and what a failing frame leaves behind.
import Raknet.Receive.Reassembly
import Raknet.Send.Footprint
import Raknet.Session.Run

/-!
# Ingestion of a data datagram

`ingestDatagram` first records the sequence number (which queues the
acknowledgement) and then handles the frames in order. It stops at the first
frame that the split assembler refuses. Nothing is rolled back: the state after
a failure is the one the earlier frames left, less the expired compounds.
-/

namespace Raknet

variable {F H : Type}

namespace Session

/-- The state in which the frames of a data datagram are handled: the datagram
    is counted and its sequence number is recorded. -/
def beginDatagram (s : Session F H) (d : Datagram) (frames : List Frame) (now : Instant) :
    Session F H :=
  processDatagramSequence
    { s with
      metrics := { s.metrics with
        ingressDatagrams := satAdd s.metrics.ingressDatagrams 1
        ingressFrames := satAdd s.metrics.ingressFrames frames.length } }
    d.header.sequence now

theorem ingestDatagram_eq (s : Session F H) {d : Datagram} {frames : List Frame}
    (h : d.payload = .frames frames) (now : Instant) :
    s.ingestDatagram d now = handleFrames now frames (s.beginDatagram d frames now) := by
  unfold ingestDatagram
  rw [h]
  rfl

/-- Recording the sequence number leaves the three receive filters alone. -/
theorem beginDatagram_filters (s : Session F H) (d : Datagram) (frames : List Frame)
    (now : Instant) :
    (s.beginDatagram d frames now).reliableTracker = s.reliableTracker ∧
    (s.beginDatagram d frames now).splitAssembler = s.splitAssembler ∧
    (s.beginDatagram d frames now).ordering = s.ordering := by
  unfold beginDatagram
  obtain ⟨_, _, _, _, h⟩ := processDatagramSequence_eq
    { s with
      metrics := { s.metrics with
        ingressDatagrams := satAdd s.metrics.ingressDatagrams 1
        ingressFrames := satAdd s.metrics.ingressFrames frames.length } }
    d.header.sequence now
  rw [h]
  exact ⟨rfl, rfl, rfl⟩

/-! ## One frame -/

/-- The state in which a frame that the assembler handed on is released. -/
def afterAssembly (s : Session F H) (frame complete : Frame) (now : Instant) : Session F H :=
  markSeen { s with splitAssembler := (s.splitAssembler.add frame now).2 }
    frame.header.isSplit complete

/-- What handling one frame can do. -/
inductive FrameOutcome (s : Session F H) (frame : Frame) (now : Instant) :
    Except DecodeError (List Frame) × Session F H → Prop where
  /-- The duplicate filter drops the frame. -/
  | duplicate (hseen : s.isDuplicate frame = true) (metrics : SessionMetrics) :
    FrameOutcome s frame now (.ok [], { s with metrics })
  /-- The assembler refuses the frame. -/
  | refused (hnew : s.isDuplicate frame = false) {e : DecodeError}
      (hadd : (s.splitAssembler.add frame now).1 = .error e) :
    FrameOutcome s frame now
      (.error e, { s with splitAssembler := (s.splitAssembler.add frame now).2 })
  /-- The assembler keeps the part. -/
  | held (hnew : s.isDuplicate frame = false)
      (hadd : (s.splitAssembler.add frame now).1 = .ok none) :
    FrameOutcome s frame now
      (.ok [], { s with splitAssembler := (s.splitAssembler.add frame now).2 })
  /-- A complete frame goes on to the ordering channels. -/
  | released (hnew : s.isDuplicate frame = false) {complete : Frame}
      (hadd : (s.splitAssembler.add frame now).1 = .ok (some complete)) :
    FrameOutcome s frame now
      (.ok ((s.afterAssembly frame complete now).releaseFrame complete).1,
        ((s.afterAssembly frame complete now).releaseFrame complete).2)

theorem handleFrame_outcome (s : Session F H) (frame : Frame) (now : Instant) :
    FrameOutcome s frame now (s.handleFrame frame now) := by
  unfold handleFrame
  split
  · next hseen => exact .duplicate hseen _
  · next hnew =>
    rw [Bool.not_eq_true] at hnew
    dsimp only
    split
    · next hadd => exact .refused hnew hadd
    · next hadd => exact .held hnew hadd
    · next hadd => exact .released hnew hadd

theorem afterAssembly_eq (s : Session F H) (frame complete : Frame) (now : Instant) :
    ∃ reliableTracker : ReliableTracker,
      s.afterAssembly frame complete now =
        { s with
          splitAssembler := (s.splitAssembler.add frame now).2
          reliableTracker } :=
  markSeen_eq { s with splitAssembler := (s.splitAssembler.add frame now).2 } _ complete

/-- Frames that are all handled without a failure: what the first one and the
    rest gave. -/
theorem handleFrames_cons_ok {now : Instant} {frame : Frame} {rest : List Frame}
    {s s' : Session F H} {out : List Frame}
    (h : handleFrames now (frame :: rest) s = (.ok out, s')) :
    ∃ own s₁ more, s.handleFrame frame now = (.ok own, s₁) ∧
      handleFrames now rest s₁ = (.ok more, s') ∧ out = own ++ more := by
  unfold handleFrames at h
  split at h
  · cases h
  · next own s₁ hown =>
    split at h
    · cases h
    · next more s₂ hmore =>
      cases h
      exact ⟨own, s₁, more, hown, hmore, rfl⟩

/-- `s'` has the receive filters of `s`, up to expired compounds. -/
structure SameFilters (s s' : Session F H) : Prop where
  reliableTracker : s'.reliableTracker = s.reliableTracker
  ordering : s'.ordering = s.ordering
  splitAssembler : s'.splitAssembler = s.splitAssembler ∨
    ∃ now, s'.splitAssembler = (s.splitAssembler.prune now).2

variable [F64 F] [MinHeap H QueuedFrame QueuedFrame.weight]

/-- An operation that ingests no data datagram leaves the receive filters
    alone. -/
theorem step_filters (s : Session F H) (op : SessionOp) :
    (∃ d frames now, op = .ingestDatagram d now ∧ d.payload = .frames frames) ∨
    SameFilters s (s.step op).1 := by
  cases op with
  | queuePayload payload reliability channel priority receiptId =>
    obtain ⟨_, _, _, _, _, _, _, _, _, h⟩ :=
      s.queuePayloadWithReceipt_eq payload reliability channel priority receiptId
    simp only [step, h]
    exact .inr ⟨rfl, rfl, .inl rfl⟩
  | ingestDatagram d now =>
    cases hpayload : d.payload with
    | frames frames => exact .inl ⟨d, frames, now, rfl, hpayload⟩
    | ack payload =>
      simp only [step, ingestDatagram, hpayload]
      exact .inr ⟨rfl, rfl, .inl rfl⟩
    | nack payload =>
      simp only [step, ingestDatagram, hpayload]
      exact .inr ⟨rfl, rfl, .inl rfl⟩
  | processDatagramSequence seq now =>
    obtain ⟨_, _, _, _, h⟩ := s.processDatagramSequence_eq seq now
    simp only [step, h]
    exact .inr ⟨rfl, rfl, .inl rfl⟩
  | processIncomingReceipts now =>
    obtain ⟨_, _, _, _, h⟩ := s.processIncomingReceipts_eq now
    simp only [step, h]
    exact .inr ⟨rfl, rfl, .inl rfl⟩
  | collectResendable now maxCount maxBytes =>
    obtain ⟨_, _, _, h⟩ := s.collectResendable_eq now maxCount maxBytes
    simp only [step, h]
    exact .inr ⟨rfl, rfl, .inl rfl⟩
  | buildDataDatagram now budget =>
    obtain ⟨_, _, _, _, _, h, -⟩ := s.buildDataDatagram_eq now budget
    simp only [step, h]
    exact .inr ⟨rfl, rfl, .inl rfl⟩
  | onTick now maxNew maxNewBytes maxResend maxResendBytes =>
    obtain ⟨_, _, _, _, _, _, _, _, _, _, _, h⟩ :=
      s.onTick_eq now maxNew maxNewBytes maxResend maxResendBytes
    simp only [step, h]
    exact .inr ⟨rfl, rfl, .inr ⟨now, rfl⟩⟩
  | drainAckDatagram now =>
    obtain ⟨_, _, _, h⟩ := s.drainAckDatagram_eq now
    simp only [step, h]
    exact .inr ⟨rfl, rfl, .inl rfl⟩
  | drainNackDatagram now =>
    obtain ⟨_, _, _, h⟩ := s.drainNackDatagram_eq now
    simp only [step, h]
    exact .inr ⟨rfl, rfl, .inl rfl⟩
  | pruneSplitState now => exact .inr ⟨rfl, rfl, .inr ⟨now, rfl⟩⟩
  | forceControlFlushDeadlines now =>
    refine .inr ?_
    simp only [step, forceControlFlushDeadlines]
    split <;> split <;> exact ⟨rfl, rfl, .inl rfl⟩
  | transitionTo next =>
    refine .inr ?_
    simp only [step, transitionTo]
    split <;> exact ⟨rfl, rfl, .inl rfl⟩
  | _ => exact .inr ⟨rfl, rfl, .inl rfl⟩

end Session

end Raknet
