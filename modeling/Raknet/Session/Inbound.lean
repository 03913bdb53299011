-- SUMMARY: The receive path: sequence bookkeeping, frame handling and ingestion of datagrams.
import Raknet.Session.State

namespace Raknet

variable {F H : Type}

namespace Session

/-- Queue an acknowledgement and start the flush interval on an empty queue. -/
def queueAck (s : Session F H) (seq : Sequence24) (now : Instant) : Session F H :=
  let ackWasEmpty := s.outgoingAcks.isEmpty
  let s := { s with outgoingAcks := s.outgoingAcks.push (SequenceRange.single seq) }
  if ackWasEmpty then { s with nextAckFlushAt := now + s.flush.ackFlushInterval } else s

/-- Queue a range of missing sequence numbers. -/
def queueNack (s : Session F H) (range : SequenceRange) (now : Instant) : Session F H :=
  let nackWasEmpty := s.outgoingNacks.isEmpty
  let s := { s with outgoingNacks := s.outgoingNacks.push range }
  if nackWasEmpty then { s with nextNackFlushAt := now + s.flush.nackFlushInterval } else s

/-- The inner loop of `process_datagram_sequence`: walk towards `nackEnd` for
    at most `n` steps. -/
def nackChunkEnd (nackEnd : Sequence24) : Nat → Sequence24 → Sequence24
  | 0, chunkEnd => chunkEnd
  | n + 1, chunkEnd =>
    if chunkEnd.lt nackEnd then nackChunkEnd nackEnd n chunkEnd.next else chunkEnd

/-- The outer loop of `process_datagram_sequence`: queue the missing numbers in
    chunks. Every round moves `nackStart` towards `nackEnd`, so their distance
    bounds the rounds. -/
def nackLoop (nackEnd : Sequence24) (now : Instant) :
    Nat → Sequence24 → Session F H → Session F H
  | 0, _, s => s
  | fuel + 1, nackStart, s =>
    let chunkEnd := nackChunkEnd nackEnd (maxAckSequences - 1) nackStart
    let s := s.queueNack ⟨nackStart, chunkEnd⟩ now
    if chunkEnd = nackEnd then s else nackLoop nackEnd now fuel chunkEnd.next s

def processDatagramSequence (s : Session F H) (seq : Sequence24) (now : Instant) : Session F H :=
  let expected := s.datagramReadIndex
  if expected.gt seq then
    s.queueAck seq now
  else
    let s := { s with datagramReadIndex := seq.next }
    if seq = expected then
      s.queueAck seq now
    else
      let nackEnd := seq.prev
      let s := nackLoop nackEnd now (expected.distanceTo nackEnd + 1) expected s
      s.queueAck seq now

def handleAckPayload (s : Session F H) (payload : AckNackPayload) : Session F H :=
  { s with incomingAcks := s.incomingAcks ++ payload.ranges }

def handleNackPayload (s : Session F H) (payload : AckNackPayload) : Session F H :=
  { s with incomingNacks := s.incomingNacks ++ payload.ranges }

/-- The end of the loop body of `handle_frames`: sequencing, ordering, or
    direct release of a frame that is no duplicate and is complete. -/
def releaseFrame (s : Session F H) (frame : Frame) : List Frame × Session F H :=
  if frame.header.reliability.isSequenced then
    match s.ordering.handleSequenced frame with
    | (.accept, ordering) => ([frame], { s with ordering })
    | (.dropMissingSequence, ordering) =>
      ([], { s with
        ordering
        metrics := { s.metrics with
          sequencedMissingIndexDrops := satAdd s.metrics.sequencedMissingIndexDrops 1 } })
    | (.dropStale, ordering) =>
      ([], { s with
        ordering
        metrics := { s.metrics with
          sequencedStaleDrops := satAdd s.metrics.sequencedStaleDrops 1 } })
  else if frame.header.reliability.isOrdered then
    match s.ordering.handleOrdered frame with
    | (.ready ready, ordering) => (ready, { s with ordering })
    | (.buffered, ordering) => ([], { s with ordering })
    | (.droppedStale, ordering) =>
      ([], { s with
        ordering
        metrics := { s.metrics with
          orderedStaleDrops := satAdd s.metrics.orderedStaleDrops 1 } })
    | (.droppedBufferFull, ordering) =>
      ([], { s with
        ordering
        metrics := { s.metrics with
          orderedBufferFullDrops := satAdd s.metrics.orderedBufferFullDrops 1 } })
  else
    ([frame], s)

/-- The duplicate test at the head of the loop body of `handle_frames`. -/
def isDuplicate (s : Session F H) (frame : Frame) : Bool :=
  let shouldDropDuplicate := frame.header.reliability.isReliable && !frame.header.isSplit
  shouldDropDuplicate && (frame.reliableIndex.map s.reliableTracker.hasSeen).getD false

/-- Record the reliable index of an unsplit reliable frame. -/
def markSeen (s : Session F H) (isSplit : Bool) (frame : Frame) : Session F H :=
  if !isSplit && frame.header.reliability.isReliable then
    match frame.reliableIndex with
    | some ridx => { s with reliableTracker := (s.reliableTracker.see ridx).2 }
    | none => s
  else
    s

/-- The loop body of `handle_frames`: the frames it appends to the output. -/
def handleFrame (s : Session F H) (frame : Frame) (now : Instant) :
    Except DecodeError (List Frame) × Session F H :=
  if s.isDuplicate frame then
    (.ok [], { s with
      metrics := { s.metrics with
        duplicateReliableDrops := satAdd s.metrics.duplicateReliableDrops 1 } })
  else
    let (assembled, splitAssembler) := s.splitAssembler.add frame now
    let s := { s with splitAssembler }
    match assembled with
    | .error e => (.error e, s)
    | .ok none => (.ok [], s)
    | .ok (some complete) =>
      let (out, s) := (s.markSeen frame.header.isSplit complete).releaseFrame complete
      (.ok out, s)

def handleFrames (now : Instant) :
    List Frame → Session F H → Except DecodeError (List Frame) × Session F H
  | [], s => (.ok [], s)
  | frame :: rest, s =>
    match s.handleFrame frame now with
    | (.error e, s) => (.error e, s)
    | (.ok out, s) =>
      match handleFrames now rest s with
      | (.error e, s) => (.error e, s)
      | (.ok more, s) => (.ok (out ++ more), s)

def ingestDatagram (s : Session F H) (datagram : Datagram) (now : Instant) :
    Except DecodeError (List Frame) × Session F H :=
  let s := { s with
    metrics := { s.metrics with ingressDatagrams := satAdd s.metrics.ingressDatagrams 1 } }
  match datagram.payload with
  | .ack payload => (.ok [], s.handleAckPayload payload)
  | .nack payload => (.ok [], s.handleNackPayload payload)
  | .frames frames =>
    let s := { s with
      metrics := { s.metrics with
        ingressFrames := satAdd s.metrics.ingressFrames frames.length } }
    let s := s.processDatagramSequence datagram.header.sequence now
    handleFrames now frames s

/-! ## What the receive path touches -/

theorem queueAck_eq (s : Session F H) (seq : Sequence24) (now : Instant) :
    ∃ deadline : Instant, s.queueAck seq now =
      { s with
        outgoingAcks := s.outgoingAcks.push (SequenceRange.single seq)
        nextAckFlushAt := deadline } := by
  unfold queueAck
  dsimp only
  split
  · exact ⟨_, rfl⟩
  · exact ⟨s.nextAckFlushAt, rfl⟩

theorem queueNack_eq (s : Session F H) (range : SequenceRange) (now : Instant) :
    ∃ deadline : Instant, s.queueNack range now =
      { s with outgoingNacks := s.outgoingNacks.push range, nextNackFlushAt := deadline } := by
  unfold queueNack
  dsimp only
  split
  · exact ⟨_, rfl⟩
  · exact ⟨s.nextNackFlushAt, rfl⟩

theorem nackLoop_eq (nackEnd : Sequence24) (now : Instant) (fuel : Nat) (nackStart : Sequence24)
    (s : Session F H) :
    ∃ (nacks : AckQueue) (deadline : Instant), nackLoop nackEnd now fuel nackStart s =
      { s with outgoingNacks := nacks, nextNackFlushAt := deadline } := by
  induction fuel generalizing nackStart s with
  | zero => exact ⟨s.outgoingNacks, s.nextNackFlushAt, rfl⟩
  | succ fuel ih =>
    simp only [nackLoop]
    obtain ⟨deadline, hq⟩ := s.queueNack_eq
      ⟨nackStart, nackChunkEnd nackEnd (maxAckSequences - 1) nackStart⟩ now
    rw [hq]
    split
    · exact ⟨_, _, rfl⟩
    · obtain ⟨nacks, deadline', h⟩ := ih (nackChunkEnd nackEnd (maxAckSequences - 1) nackStart).next
        { s with outgoingNacks := _, nextNackFlushAt := deadline }
      exact ⟨nacks, deadline', h⟩

/-- Sequence bookkeeping queues one acknowledgement, for the number itself; it
    touches the read index, the two control queues and their deadlines. -/
theorem processDatagramSequence_eq (s : Session F H) (seq : Sequence24) (now : Instant) :
    ∃ (read : Sequence24) (nacks : AckQueue) (ackAt nackAt : Instant),
      s.processDatagramSequence seq now =
        { s with
          datagramReadIndex := read
          outgoingAcks := s.outgoingAcks.push (SequenceRange.single seq)
          outgoingNacks := nacks
          nextAckFlushAt := ackAt
          nextNackFlushAt := nackAt } := by
  unfold processDatagramSequence
  dsimp only
  split
  · obtain ⟨deadline, h⟩ := s.queueAck_eq seq now
    exact ⟨_, _, deadline, _, h⟩
  · split
    · obtain ⟨deadline, h⟩ := queueAck_eq { s with datagramReadIndex := seq.next } seq now
      exact ⟨_, _, deadline, _, h⟩
    · obtain ⟨nacks, nackAt, hn⟩ := nackLoop_eq seq.prev now
        (s.datagramReadIndex.distanceTo seq.prev + 1) s.datagramReadIndex
        { s with datagramReadIndex := seq.next }
      rw [hn]
      obtain ⟨deadline, h⟩ := queueAck_eq
        { s with
          datagramReadIndex := seq.next, outgoingNacks := nacks, nextNackFlushAt := nackAt } seq now
      exact ⟨_, _, deadline, _, h⟩

theorem releaseFrame_eq (s : Session F H) (frame : Frame) :
    ∃ (ordering : OrderingChannels) (metrics : SessionMetrics),
      (s.releaseFrame frame).2 = { s with ordering, metrics } := by
  unfold releaseFrame
  split
  · split <;> exact ⟨_, _, rfl⟩
  · split
    · split <;> exact ⟨_, _, rfl⟩
    · exact ⟨s.ordering, s.metrics, rfl⟩

/-- The three ways to release a frame. -/
theorem releaseFrame_cases (s : Session F H) (frame : Frame) :
    (frame.header.reliability.isSequenced = true ∧
      (s.releaseFrame frame).2.ordering = (s.ordering.handleSequenced frame).2 ∧
      (s.releaseFrame frame).1
        = if (s.ordering.handleSequenced frame).1 = .accept then [frame] else []) ∨
    (frame.header.reliability.isSequenced = false ∧
      frame.header.reliability.isOrdered = true ∧
      (s.releaseFrame frame).2.ordering = (s.ordering.handleOrdered frame).2 ∧
      (s.releaseFrame frame).1 = (s.ordering.handleOrdered frame).1.released) ∨
    (frame.header.reliability.isSequenced = false ∧
      frame.header.reliability.isOrdered = false ∧
      s.releaseFrame frame = ([frame], s)) := by
  unfold releaseFrame
  cases hseq : frame.header.reliability.isSequenced with
  | true =>
    generalize s.ordering.handleSequenced frame = r
    obtain ⟨result, ordering⟩ := r
    cases result <;> exact .inl ⟨rfl, rfl, rfl⟩
  | false =>
    cases hord : frame.header.reliability.isOrdered with
    | true =>
      generalize s.ordering.handleOrdered frame = r
      obtain ⟨result, ordering⟩ := r
      cases result <;> exact .inr (.inl ⟨rfl, rfl, rfl, rfl⟩)
    | false => exact .inr (.inr ⟨rfl, rfl, rfl⟩)

theorem markSeen_eq (s : Session F H) (isSplit : Bool) (frame : Frame) :
    ∃ reliableTracker : ReliableTracker,
      s.markSeen isSplit frame = { s with reliableTracker } := by
  unfold markSeen
  split
  · split
    · exact ⟨_, rfl⟩
    · exact ⟨s.reliableTracker, rfl⟩
  · exact ⟨s.reliableTracker, rfl⟩

theorem handleFrame_eq (s : Session F H) (frame : Frame) (now : Instant) :
    ∃ (reliableTracker : ReliableTracker) (splitAssembler : SplitAssembler)
      (ordering : OrderingChannels) (metrics : SessionMetrics),
      (s.handleFrame frame now).2 =
        { s with reliableTracker, splitAssembler, ordering, metrics } := by
  unfold handleFrame
  split
  · exact ⟨_, _, _, _, rfl⟩
  · dsimp only
    split
    · exact ⟨_, _, _, _, rfl⟩
    · exact ⟨_, _, _, _, rfl⟩
    · next complete _ =>
      obtain ⟨tracker, hm⟩ := markSeen_eq
        { s with splitAssembler := (s.splitAssembler.add frame now).2 }
        frame.header.isSplit complete
      rw [hm]
      obtain ⟨ordering, metrics, hr⟩ := releaseFrame_eq
        { s with
          splitAssembler := (s.splitAssembler.add frame now).2
          reliableTracker := tracker } complete
      exact ⟨_, _, ordering, metrics, hr⟩

theorem handleFrames_eq (now : Instant) (frames : List Frame) (s : Session F H) :
    ∃ (reliableTracker : ReliableTracker) (splitAssembler : SplitAssembler)
      (ordering : OrderingChannels) (metrics : SessionMetrics),
      (handleFrames now frames s).2 =
        { s with reliableTracker, splitAssembler, ordering, metrics } := by
  induction frames generalizing s with
  | nil => exact ⟨s.reliableTracker, s.splitAssembler, s.ordering, s.metrics, rfl⟩
  | cons frame rest ih =>
    obtain ⟨rt, sa, o, m, hs⟩ := s.handleFrame_eq frame now
    unfold handleFrames
    generalize s.handleFrame frame now = r at hs
    obtain ⟨result, s'⟩ := r
    dsimp only at hs
    subst hs
    cases result with
    | error e => exact ⟨_, _, _, _, rfl⟩
    | ok out =>
      obtain ⟨rt', sa', o', m', hs'⟩ := ih
        { s with reliableTracker := rt, splitAssembler := sa, ordering := o, metrics := m }
      dsimp only
      generalize handleFrames now rest _ = r at hs'
      obtain ⟨result', s''⟩ := r
      dsimp only at hs'
      subst hs'
      cases result' with
      | error e => exact ⟨_, _, _, _, rfl⟩
      | ok more => exact ⟨_, _, _, _, rfl⟩

/-- A data datagram queues one acknowledgement, for its own number; beyond that
    it touches the rest of the sequence bookkeeping and the receive filters. -/
theorem ingestDatagram_footprint (s : Session F H) {d : Datagram} {frames : List Frame}
    (h : d.payload = .frames frames) (now : Instant) :
    ∃ (read : Sequence24) (nacks : AckQueue) (ackAt nackAt : Instant)
      (reliableTracker : ReliableTracker) (splitAssembler : SplitAssembler)
      (ordering : OrderingChannels) (metrics : SessionMetrics),
      (s.ingestDatagram d now).2 =
        { s with
          datagramReadIndex := read
          outgoingAcks := s.outgoingAcks.push (SequenceRange.single d.header.sequence)
          outgoingNacks := nacks
          nextAckFlushAt := ackAt
          nextNackFlushAt := nackAt
          reliableTracker
          splitAssembler
          ordering
          metrics } := by
  unfold ingestDatagram
  rw [h]
  dsimp only
  obtain ⟨_, _, _, _, hseq⟩ := processDatagramSequence_eq
    { s with
      metrics := { s.metrics with
        ingressDatagrams := satAdd s.metrics.ingressDatagrams 1
        ingressFrames := satAdd s.metrics.ingressFrames frames.length } }
    d.header.sequence now
  obtain ⟨_, _, _, _, hframes⟩ := handleFrames_eq now frames
    (processDatagramSequence
      { s with
        metrics := { s.metrics with
          ingressDatagrams := satAdd s.metrics.ingressDatagrams 1
          ingressFrames := satAdd s.metrics.ingressFrames frames.length } }
      d.header.sequence now)
  rw [hframes, hseq]
  exact ⟨_, _, _, _, _, _, _, _, rfl⟩

end Session

end Raknet
