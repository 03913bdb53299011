-- SUMMARY: What a session reports as missing: the ranges of a gap, and how long the ranges of a NACK can get.
import Mathlib.Data.List.Nodup
import Raknet.Receive.Acknowledgement
import Raknet.Wire.Datagram

/-!
# Gaps

A number ahead of the expected one reports all numbers in between as missing, in
chunks of at most `MAX_ACK_SEQUENCES`. The queue merges neighbouring chunks again, so
the bound on a chunk is none on a range that is sent.
-/

namespace Raknet

/-- How many numbers a range covers. -/
def SequenceRange.span (r : SequenceRange) : Nat := r.start.distanceTo r.stop + 1

theorem SequenceRange.length_sequences (r : SequenceRange) : r.sequences.length = r.span := by
  rw [sequences_eq, List.length_map, List.length_range, span]

theorem Sequence24.distanceTo_prev {s t : Sequence24} (h : t ≠ s) :
    s.distanceTo t.prev + 1 = s.distanceTo t := by
  have hs := s.isLt
  have ht := t.isLt
  have hne : t.value ≠ s.value := fun e => h (ext_value e)
  have h₁ := distanceTo_cases s t
  have h₂ := distanceTo_cases s t.prev
  rw [value_prev] at h₂
  split at h₂ <;> omega

theorem map_range_add {α : Type} (f : Nat → α) (m n : Nat) :
    (List.range (m + n)).map f
      = (List.range m).map f ++ (List.range n).map fun k => f (m + k) := by
  rw [List.range_add, List.map_append, List.map_map]
  rfl

variable {F H : Type}

namespace Session

/-! ## The loops -/

/-- The inner loop walks `n` steps or up to the end. -/
theorem nackChunkEnd_eq {nackEnd start : Sequence24} {d : Nat}
    (hd : start.distanceTo nackEnd = d) (hhalf : d ≤ 8388608) (n : Nat) :
    nackChunkEnd nackEnd n start = Sequence24.new (start.value + min n d) := by
  induction n generalizing start d with
  | zero => rw [nackChunkEnd, Nat.zero_min, Nat.add_zero, Sequence24.new_value]
  | succ n ih =>
    rw [nackChunkEnd]
    split
    · next hlt =>
      have hpos := (Sequence24.lt_iff.mp hlt).1
      have hne : start ≠ nackEnd := by
        intro heq
        rw [heq, Sequence24.distanceTo_self] at hpos
        exact Nat.lt_irrefl 0 hpos
      have hstep := Sequence24.distanceTo_next_left hne
      rw [ih (d := d - 1) (by omega) (by omega)]
      refine Sequence24.ext_value ?_
      simp only [Sequence24.value_new, Sequence24.value_next]
      omega
    · next hge =>
      have hzero : d = 0 := by
        by_contra hne
        exact hge (Sequence24.lt_iff.mpr ⟨by omega, by omega⟩)
      rw [hzero, Nat.min_zero, Nat.add_zero, Sequence24.new_value]

/-- The ranges that the outer loop passes to `push`, in order. -/
def nackChunks (nackEnd : Sequence24) : Nat → Sequence24 → List SequenceRange
  | 0, _ => []
  | fuel + 1, nackStart =>
    let chunkEnd := nackChunkEnd nackEnd (maxAckSequences - 1) nackStart
    ⟨nackStart, chunkEnd⟩ ::
      if chunkEnd = nackEnd then [] else nackChunks nackEnd fuel chunkEnd.next

theorem nackLoop_chunks (nackEnd : Sequence24) (now : Instant) (fuel : Nat)
    (nackStart : Sequence24) (s : Session F H) :
    nackLoop nackEnd now fuel nackStart s
      = (nackChunks nackEnd fuel nackStart).foldl (fun s r => s.queueNack r now) s := by
  induction fuel generalizing nackStart s with
  | zero => rfl
  | succ fuel ih =>
    simp only [nackLoop, nackChunks, List.foldl_cons]
    split
    · rfl
    · exact ih _ _

/-- The first chunk, and what is left of the way behind it. -/
theorem nackChunks_succ {nackEnd start : Sequence24} {d : Nat}
    (hd : start.distanceTo nackEnd = d) (hhalf : d ≤ 8388608) (fuel : Nat) :
    (d ≤ 8191 ∧ nackChunks nackEnd (fuel + 1) start = [⟨start, nackEnd⟩]) ∨
    (8191 < d ∧ (Sequence24.new (start.value + 8192)).distanceTo nackEnd = d - 8192 ∧
      nackChunks nackEnd (fuel + 1) start
        = ⟨start, Sequence24.new (start.value + 8191)⟩ ::
          nackChunks nackEnd fuel (Sequence24.new (start.value + 8192))) := by
  have hend := nackChunkEnd_eq hd hhalf (maxAckSequences - 1)
  have hmax : maxAckSequences - 1 = 8191 := rfl
  have hstop : Sequence24.new (start.value + d) = nackEnd := by
    have hcases := start.distanceTo_cases nackEnd
    have hs := start.isLt
    have he := nackEnd.isLt
    refine Sequence24.ext_value ?_
    rw [Sequence24.value_new]
    omega
  rw [hmax] at hend
  simp only [nackChunks, hmax, hend]
  rcases Nat.lt_or_ge 8191 d with hlong | hshort
  · have hne : Sequence24.new (start.value + min 8191 d) ≠ nackEnd := by
      intro heq
      have hvalue := congrArg Sequence24.value (heq.trans hstop.symm)
      rw [Sequence24.value_new, Sequence24.value_new] at hvalue
      omega
    refine .inr ⟨hlong, ?_, ?_⟩
    · have hcases := start.distanceTo_cases nackEnd
      have hcases' := (Sequence24.new (start.value + 8192)).distanceTo_cases nackEnd
      have hs := start.isLt
      have he := nackEnd.isLt
      rw [Sequence24.value_new] at hcases'
      omega
    · rw [if_neg hne, Nat.min_eq_left (Nat.le_of_lt hlong), Sequence24.next_new]
  · refine .inl ⟨hshort, ?_⟩
    rw [Nat.min_eq_right hshort, hstop, if_pos rfl]

theorem nackChunks_span {nackEnd start : Sequence24} {d fuel : Nat}
    (hd : start.distanceTo nackEnd = d) (hhalf : d ≤ 8388608) :
    ∀ r ∈ nackChunks nackEnd fuel start, r.span ≤ maxAckSequences := by
  induction fuel generalizing start d with
  | zero => exact List.forall_mem_nil _
  | succ fuel ih =>
    intro r hr
    have hmax : maxAckSequences = 8192 := rfl
    rcases nackChunks_succ hd hhalf fuel with ⟨hshort, heq⟩ | ⟨hlong, hrest, heq⟩
    · rw [heq] at hr
      rw [List.mem_singleton.mp hr, SequenceRange.span]
      dsimp only
      omega
    · rw [heq] at hr
      rcases List.mem_cons.mp hr with rfl | hr
      · have hcases := start.distanceTo_cases (Sequence24.new (start.value + 8191))
        have hs := start.isLt
        rw [Sequence24.value_new] at hcases
        rw [SequenceRange.span]
        dsimp only
        omega
      · exact ih hrest (by omega) r hr

/-- The chunks count up from the start to the end of the gap. -/
theorem nackChunks_sequences {nackEnd start : Sequence24} {d fuel : Nat}
    (hd : start.distanceTo nackEnd = d) (hhalf : d ≤ 8388608) (hfuel : d < fuel) :
    (nackChunks nackEnd fuel start).flatMap SequenceRange.sequences
      = (List.range (d + 1)).map fun k => Sequence24.new (start.value + k) := by
  induction fuel generalizing start d with
  | zero => omega
  | succ fuel ih =>
    rcases nackChunks_succ hd hhalf fuel with ⟨hshort, heq⟩ | ⟨hlong, hrest, heq⟩
    · rw [heq, List.flatMap_singleton, SequenceRange.sequences_eq]
      dsimp only
      rw [hd]
    · have hfirst : start.distanceTo (Sequence24.new (start.value + 8191)) + 1 = 8192 := by
        have hcases := start.distanceTo_cases (Sequence24.new (start.value + 8191))
        have hs := start.isLt
        rw [Sequence24.value_new] at hcases
        omega
      have hlength : d + 1 = 8192 + (d - 8192 + 1) := by omega
      rw [heq, List.flatMap_cons, ih hrest (by omega) (by omega), SequenceRange.sequences_eq,
        hfirst, hlength]
      -- A variable for the length of a chunk keeps the list of its numbers folded.
      obtain ⟨c, hc⟩ : ∃ c : Nat, c = 8192 := ⟨8192, rfl⟩
      rw [← hc, map_range_add _ c, List.append_cancel_left_eq]
      refine List.map_congr_left fun k _ => Sequence24.ext_value ?_
      simp only [Sequence24.value_new]
      omega

/-- The loop has ended: more rounds change nothing. -/
theorem nackChunks_ends {nackEnd start : Sequence24} {d fuel : Nat}
    (hd : start.distanceTo nackEnd = d) (hhalf : d ≤ 8388608) (hfuel : d < fuel) (more : Nat) :
    nackChunks nackEnd (fuel + more) start = nackChunks nackEnd fuel start := by
  induction fuel generalizing start d with
  | zero => omega
  | succ fuel ih =>
    rw [Nat.add_right_comm]
    rcases nackChunks_succ hd hhalf fuel with ⟨hshort, heq⟩ | ⟨hlong, hrest, heq⟩
    · rcases nackChunks_succ hd hhalf (fuel + more) with ⟨-, heq'⟩ | ⟨hlong, -, -⟩
      · rw [heq, heq']
      · omega
    · rcases nackChunks_succ hd hhalf (fuel + more) with ⟨hshort, -⟩ | ⟨-, -, heq'⟩
      · omega
      · rw [heq, heq', ih hrest (by omega) (by omega)]

/-! ## One arrival -/

/-- The ranges that the arrival of `seq` reports as missing when `expected` is due. -/
def missing (expected seq : Sequence24) : List SequenceRange :=
  if expected.gt seq ∨ seq = expected then []
  else nackChunks seq.prev (expected.distanceTo seq.prev + 1) expected

/-- What an arrival does, as pushes. -/
theorem processDatagramSequence_missing (s : Session F H) (seq : Sequence24) (now : Instant) :
    s.processDatagramSequence seq now
      = ((missing s.datagramReadIndex seq).foldl (fun (s : Session F H) r => s.queueNack r now)
          { s with
            datagramReadIndex :=
              if s.datagramReadIndex.gt seq then s.datagramReadIndex else seq.next }).queueAck
          seq now := by
  unfold processDatagramSequence missing
  dsimp only
  by_cases hbehind : s.datagramReadIndex.gt seq = true
  · simp only [hbehind, if_true, true_or, List.foldl_nil]
  · simp only [hbehind, if_false, Bool.false_eq_true, false_or]
    split
    · rfl
    · rw [nackLoop_chunks]

theorem foldl_queueNack (ranges : List SequenceRange) (now : Instant) (s : Session F H) :
    (ranges.foldl (fun s r => s.queueNack r now) s).outgoingNacks
      = ranges.foldl AckQueue.push s.outgoingNacks ∧
    (ranges.foldl (fun s r => s.queueNack r now) s).outgoingAcks = s.outgoingAcks ∧
    (ranges.foldl (fun s r => s.queueNack r now) s).datagramReadIndex = s.datagramReadIndex := by
  induction ranges generalizing s with
  | nil => exact ⟨rfl, rfl, rfl⟩
  | cons r ranges ih =>
    obtain ⟨deadline, heq⟩ := s.queueNack_eq r now
    obtain ⟨hnacks, hacks, hread⟩ := ih (s.queueNack r now)
    rw [heq] at hnacks hacks hread
    simp only [List.foldl_cons, heq]
    exact ⟨hnacks, hacks, hread⟩

/-- The queues and the read index after an arrival. -/
theorem processDatagramSequence_queues (s : Session F H) (seq : Sequence24) (now : Instant) :
    (s.processDatagramSequence seq now).outgoingNacks
      = (missing s.datagramReadIndex seq).foldl AckQueue.push s.outgoingNacks ∧
    (s.processDatagramSequence seq now).outgoingAcks
      = s.outgoingAcks.push (SequenceRange.single seq) ∧
    (s.processDatagramSequence seq now).datagramReadIndex
      = if s.datagramReadIndex.gt seq then s.datagramReadIndex else seq.next := by
  rw [processDatagramSequence_missing]
  obtain ⟨hnacks, hacks, hread⟩ := foldl_queueNack (missing s.datagramReadIndex seq) now
    { s with
      datagramReadIndex := if s.datagramReadIndex.gt seq then s.datagramReadIndex else seq.next }
  generalize (missing s.datagramReadIndex seq).foldl (fun s r => s.queueNack r now)
    { s with
      datagramReadIndex := if s.datagramReadIndex.gt seq then s.datagramReadIndex else seq.next }
    = s' at hnacks hacks hread
  obtain ⟨deadline, heq⟩ := s'.queueAck_eq seq now
  rw [heq]
  exact ⟨hnacks, by rw [← hacks], hread⟩

theorem not_gt_of_distanceTo_le {expected seq : Sequence24}
    (h : expected.distanceTo seq ≤ 8388608) : ¬ expected.gt seq = true := by
  rw [Sequence24.gt_iff]
  rintro ⟨hpos, hlt⟩
  have hne : expected ≠ seq := by
    intro heq
    rw [heq, Sequence24.distanceTo_self] at hpos
    exact Nat.lt_irrefl 0 hpos
  have hturn := Sequence24.distanceTo_add_distanceTo hne
  omega

/-- The missing numbers are those from the expected one up to the arrival. -/
theorem missing_sequences {expected seq : Sequence24}
    (h : expected.distanceTo seq ≤ 8388608) :
    (missing expected seq).flatMap SequenceRange.sequences
      = (List.range (expected.distanceTo seq)).map fun k => Sequence24.new (expected.value + k) := by
  have hgt := not_gt_of_distanceTo_le h
  by_cases heq : seq = expected
  · subst heq
    simp [missing]
  · have hprev := Sequence24.distanceTo_prev heq
    rw [missing, if_neg (not_or.mpr ⟨hgt, heq⟩),
      nackChunks_sequences rfl (by omega) (Nat.lt_succ_self _), hprev]

theorem missing_span {expected seq : Sequence24} (h : expected.distanceTo seq ≤ 8388608) :
    ∀ r ∈ missing expected seq, r.span ≤ maxAckSequences := by
  intro r hr
  unfold missing at hr
  split at hr
  · cases hr
  · next hahead =>
    have hprev := Sequence24.distanceTo_prev (not_or.mp hahead).2
    exact nackChunks_span rfl (by omega) r hr

theorem missing_disjoint {expected seq : Sequence24} (h : expected.distanceTo seq ≤ 8388608) :
    (missing expected seq).Pairwise fun r r' => ∀ x, ¬ (r.Covers x ∧ r'.Covers x) := by
  have hnodup : ((missing expected seq).flatMap SequenceRange.sequences).Nodup := by
    rw [missing_sequences h]
    refine List.Nodup.map_on (fun i hi j hj hij => ?_) List.nodup_range
    have hvalue := congrArg Sequence24.value hij
    rw [List.mem_range] at hi hj
    rw [Sequence24.value_new, Sequence24.value_new] at hvalue
    omega
  refine (List.nodup_flatMap.mp hnodup).2.imp fun hdisjoint x ⟨hx, hx'⟩ => ?_
  exact hdisjoint (SequenceRange.mem_sequences.mpr hx) (SequenceRange.mem_sequences.mpr hx')

/-- Gap detection is exact: the pushed ranges are disjoint, short, and cover the numbers
    from the expected one up to the arrival; the loops end; and a number from behind is
    only acknowledged. -/
theorem gap_detection_exact (s : Session F H) (seq : Sequence24) (now : Instant) :
    (s.datagramReadIndex.distanceTo seq ≤ 2 ^ 23 →
      s.processDatagramSequence seq now
        = ((missing s.datagramReadIndex seq).foldl (fun (s : Session F H) r => s.queueNack r now)
            { s with datagramReadIndex := seq.next }).queueAck seq now ∧
      (missing s.datagramReadIndex seq).Pairwise (fun r r' => ∀ x, ¬ (r.Covers x ∧ r'.Covers x)) ∧
      (∀ r ∈ missing s.datagramReadIndex seq, r.sequences.length ≤ maxAckSequences) ∧
      (missing s.datagramReadIndex seq).flatMap SequenceRange.sequences
        = (List.range (s.datagramReadIndex.distanceTo seq)).map
            (fun k => Sequence24.new (s.datagramReadIndex.value + k)) ∧
      (∀ more, seq ≠ s.datagramReadIndex →
        nackChunks seq.prev (s.datagramReadIndex.distanceTo seq + more) s.datagramReadIndex
          = missing s.datagramReadIndex seq) ∧
      (s.processDatagramSequence seq now).outgoingNacks
        = (missing s.datagramReadIndex seq).foldl AckQueue.push s.outgoingNacks ∧
      (s.processDatagramSequence seq now).outgoingAcks
        = s.outgoingAcks.push ⟨seq, seq⟩ ∧
      (s.processDatagramSequence seq now).datagramReadIndex = seq.next) ∧
    (1 ≤ seq.distanceTo s.datagramReadIndex ∧ seq.distanceTo s.datagramReadIndex ≤ 2 ^ 23 - 1 →
      s.processDatagramSequence seq now = s.queueAck seq now ∧
      (s.processDatagramSequence seq now).outgoingNacks = s.outgoingNacks ∧
      (s.processDatagramSequence seq now).outgoingAcks = s.outgoingAcks.push ⟨seq, seq⟩ ∧
      (s.processDatagramSequence seq now).datagramReadIndex = s.datagramReadIndex) := by
  obtain ⟨hnacks, hacks, hread⟩ := s.processDatagramSequence_queues seq now
  have hpushes := s.processDatagramSequence_missing seq now
  constructor
  · intro hahead
    have hgt := not_gt_of_distanceTo_le hahead
    rw [if_neg hgt] at hpushes hread
    refine ⟨hpushes, missing_disjoint hahead, ?_, missing_sequences hahead, ?_, hnacks, hacks,
      hread⟩
    · intro r hr
      rw [SequenceRange.length_sequences]
      exact missing_span hahead r hr
    · intro more hne
      have hprev := Sequence24.distanceTo_prev hne
      rw [missing, if_neg (not_or.mpr ⟨hgt, hne⟩), ← hprev]
      exact nackChunks_ends rfl (by omega) (Nat.lt_succ_self _) more
  · rintro ⟨hpos, hlt⟩
    have hgt : s.datagramReadIndex.gt seq = true := Sequence24.gt_iff.mpr ⟨by omega, by omega⟩
    have hnone : missing s.datagramReadIndex seq = [] := if_pos (.inl hgt)
    rw [if_pos hgt, hnone] at hpushes
    rw [hnone] at hnacks
    rw [if_pos hgt] at hread
    exact ⟨hpushes, hnacks, hacks, hread⟩

end Session

/-! ## Merging -/

namespace AckQueue

/-- How many numbers a list of ranges covers, counted range by range. -/
def total (ranges : List SequenceRange) : Nat := (ranges.map SequenceRange.span).sum

theorem total_append (ranges ranges' : List SequenceRange) :
    total (ranges ++ ranges') = total ranges + total ranges' := by
  rw [total, List.map_append, List.sum_append, total, total]

theorem span_le_total {ranges : List SequenceRange} {r : SequenceRange} (h : r ∈ ranges) :
    r.span ≤ total ranges :=
  List.le_sum_of_mem (List.mem_map_of_mem h)

/-- Merging short ranges covers no more than both. -/
theorem mergeLast_span {last r merged : SequenceRange} (h : mergeLast last r = some merged)
    (hshort : last.span + r.span ≤ 8388608) : merged.span ≤ last.span + r.span := by
  obtain ⟨a, b⟩ := last
  obtain ⟨c, d⟩ := r
  simp only [SequenceRange.span] at *
  have ha := a.isLt
  have hb := b.isLt
  have hc := c.isLt
  have hd := d.isLt
  have hab := a.distanceTo_cases b
  have hcd := c.distanceTo_cases d
  unfold mergeLast at h
  split at h
  · next hnext =>
    obtain rfl := Option.some.inj h
    have hvalue := congrArg Sequence24.value hnext
    rw [Sequence24.value_next] at hvalue
    have had := a.distanceTo_cases d
    dsimp only at *
    omega
  · split at h
    · next hover =>
      obtain rfl := Option.some.inj h
      rw [Bool.and_eq_true, Sequence24.ge_iff, Sequence24.ge_iff] at hover
      have hcb := c.distanceTo_cases b
      have had := a.distanceTo_cases d
      simp only [Sequence24.min, Sequence24.max, Sequence24.lt_iff]
      dsimp only at *
      split
      · split
        · omega
        · omega
      · split
        · omega
        · omega
    · cases h

/-- The halves of a wrapping range cover what it covers. -/
theorem span_splitWrapping {r left right : SequenceRange}
    (h : r.splitWrapping = some (left, right)) : left.span + right.span = r.span := by
  unfold SequenceRange.splitWrapping at h
  split at h
  · cases h
  · next hwraps =>
    simp only [Option.some.injEq, Prod.mk.injEq] at h
    obtain ⟨rfl, rfl⟩ := h
    have hlt : r.stop.value < r.start.value := by
      rw [← SequenceRange.wraps_iff]
      simpa using hwraps
    have hstart := r.start.isLt
    have hwhole := r.start.distanceTo_cases r.stop
    have htail := r.start.distanceTo_cases (Sequence24.new 0x00FFFFFF)
    have hhead := (Sequence24.new 0).distanceTo_cases r.stop
    rw [Sequence24.value_new] at htail hhead
    simp only [SequenceRange.span]
    omega

theorem pushWith_total {again : AckQueue → SequenceRange → AckQueue}
    (hagain : ∀ q r, total q.queue + r.span ≤ 8388608 →
      total (again q r).queue ≤ total q.queue + r.span)
    {q : AckQueue} {r : SequenceRange} (h : total q.queue + r.span ≤ 8388608) :
    total (pushWith again q r).queue ≤ total q.queue + r.span := by
  unfold pushWith
  split
  · exact Nat.le_add_right _ _
  · split
    · next merged hmerge =>
      obtain ⟨last, hlast, hmerge⟩ := Option.bind_eq_some_iff.mp hmerge
      have hqueue : total q.queue = total q.queue.dropLast + last.span := by
        rw [← List.dropLast_append_getLast? last hlast, total_append]
        simp [total]
      have hspan := mergeLast_span hmerge (by omega)
      have hmerged : total [merged] = merged.span := by simp [total]
      dsimp only
      rw [total_append, hmerged]
      omega
    · split
      · next left right hsplit =>
        have hspan := span_splitWrapping hsplit
        have hleft := hagain q left (by omega)
        have hright := hagain (again q left) right (by omega)
        omega
      · have hone : total [r] = r.span := by simp [total]
        dsimp only
        rw [total_append, hone]

/-- A push covers no more numbers than were covered before, and the new ones. -/
theorem push_total {q : AckQueue} {r : SequenceRange} (h : total q.queue + r.span ≤ 8388608) :
    total (q.push r).queue ≤ total q.queue + r.span :=
  pushWith_total (fun _ _ h => pushWith_total (fun _ _ _ => Nat.le_add_right _ _) h) h

theorem pushes_total {q : AckQueue} {ranges : List SequenceRange}
    (h : total q.queue + total ranges ≤ 8388608) :
    total (ranges.foldl push q).queue ≤ total q.queue + total ranges := by
  induction ranges generalizing q with
  | nil => exact Nat.le_add_right _ _
  | cons r ranges ih =>
    have hcons : total (r :: ranges) = r.span + total ranges := List.sum_cons ..
    have hpush := push_total (q := q) (r := r) (by omega)
    have hrest := ih (q := q.push r) (by omega)
    rw [List.foldl_cons]
    omega

end AckQueue

/-! ## Emitted negative acknowledgements -/

/-- The ranges of a negative acknowledgement. -/
def Datagram.nackRanges (d : Datagram) : List SequenceRange :=
  match d.payload with
  | .nack payload => payload.ranges
  | .ack _ | .frames _ => []

def SessionOut.nackRanges (o : SessionOut) : List SequenceRange :=
  o.controlDatagrams.flatMap Datagram.nackRanges

namespace Session

/-- The ranges that an operation reports as missing. -/
def reportsMissing (s : Session F H) (op : SessionOp) : List SequenceRange :=
  op.arrivals.flatMap (missing s.datagramReadIndex)

/-- Draining moves ranges from the front of the queue into the datagram. -/
theorem drainNackDatagram_nacks (s : Session F H) (now : Instant) :
    (s.drainNackDatagram now).1.toList.flatMap Datagram.nackRanges
      ++ (s.drainNackDatagram now).2.outgoingNacks.queue = s.outgoingNacks.queue := by
  have happ := s.outgoingNacks.popForMtu_append s.mtu 3 s.flush.nackMaxRangesPerDatagram
  unfold drainNackDatagram
  generalize s.outgoingNacks.popForMtu s.mtu 3 s.flush.nackMaxRangesPerDatagram = r at happ
  obtain ⟨ranges, rest⟩ := r
  dsimp only at happ ⊢
  split
  · next hempty =>
    rw [List.isEmpty_iff.mp hempty] at happ
    exact happ
  · simpa [Datagram.nackRanges] using happ

theorem drainAckDatagram_nacks (s : Session F H) (now : Instant) :
    (s.drainAckDatagram now).1.toList.flatMap Datagram.nackRanges = [] ∧
    (s.drainAckDatagram now).2.outgoingNacks = s.outgoingNacks := by
  unfold drainAckDatagram
  dsimp only
  split
  · exact ⟨rfl, rfl⟩
  · exact ⟨rfl, rfl⟩

theorem flushControl_nacks (s : Session F H) (now : Instant) :
    (s.flushControl now).1.flatMap Datagram.nackRanges
      ++ (s.flushControl now).2.outgoingNacks.queue = s.outgoingNacks.queue := by
  have hack : ∀ s : Session F H,
      (s.flushAckIfDue now).1.flatMap Datagram.nackRanges = [] ∧
      (s.flushAckIfDue now).2.outgoingNacks = s.outgoingNacks := by
    intro s
    unfold flushAckIfDue
    split
    · exact ⟨rfl, rfl⟩
    · exact s.drainAckDatagram_nacks now
  have hnack : ∀ s : Session F H,
      (s.flushNackIfDue now).1.flatMap Datagram.nackRanges
        ++ (s.flushNackIfDue now).2.outgoingNacks.queue = s.outgoingNacks.queue := by
    intro s
    unfold flushNackIfDue
    split
    · rfl
    · exact s.drainNackDatagram_nacks now
  unfold flushControl
  split
  · obtain ⟨hnone, hsame⟩ := hack (s.flushNackIfDue now).2
    simp only [List.flatMap_append, hnone, List.append_nil, hnack, hsame]
  · obtain ⟨hnone, hsame⟩ := hack s
    simp only [List.flatMap_append, hnone, List.nil_append, hnack, hsame]

theorem ingestDatagram_nacks (s : Session F H) (d : Datagram) (now : Instant) :
    (s.ingestDatagram d now).2.outgoingNacks
      = (s.reportsMissing (.ingestDatagram d now)).foldl AckQueue.push s.outgoingNacks := by
  obtain ⟨header, payload⟩ := d
  cases payload with
  | ack payload => rfl
  | nack payload => rfl
  | frames frames =>
    obtain ⟨_, _, _, _, hframes⟩ := handleFrames_eq now frames
      (processDatagramSequence
        { s with
          metrics := { s.metrics with
            ingressDatagrams := satAdd s.metrics.ingressDatagrams 1
            ingressFrames := satAdd s.metrics.ingressFrames frames.length } }
        header.sequence now)
    simp only [ingestDatagram, reportsMissing, SessionOp.arrivals, List.flatMap_singleton]
    rw [hframes]
    exact (processDatagramSequence_queues _ _ _).1

variable [F64 F] [MinHeap H QueuedFrame QueuedFrame.weight]

theorem onTick_nacks (s : Session F H) (now : Instant)
    (maxNew maxNewBytes maxResend maxResendBytes : Nat) :
    (s.onTick now maxNew maxNewBytes maxResend maxResendBytes).1.control.flatMap
        Datagram.nackRanges
      ++ (s.onTick now maxNew maxNewBytes maxResend maxResendBytes).2.outgoingNacks.queue
      = s.outgoingNacks.queue := by
  have hflush := flushControl_nacks
    { s with pacing := s.pacing.refreshPacingBudget s.congestion s.mtu now } now
  unfold onTick
  dsimp only
  generalize flushControl { s with pacing := s.pacing.refreshPacingBudget s.congestion s.mtu now }
    now = r at hflush ⊢
  obtain ⟨control, s₁⟩ := r
  dsimp only at hflush ⊢
  -- What follows the flush leaves the queue of missing numbers alone.
  obtain ⟨_, _, _, hcollect⟩ := s₁.collectResendable_eq now maxResend
    (min maxResendBytes s₁.pacing.availableBytes)
  generalize s₁.collectResendable now maxResend (min maxResendBytes s₁.pacing.availableBytes) = r
    at hcollect ⊢
  obtain ⟨resent, s₂⟩ := r
  dsimp only at hcollect ⊢
  obtain ⟨_, _, _, _, _, hbuild⟩ := buildLoop_eq now maxNew
    (newBytesBudget { s₂ with
      pacing := s₂.pacing.consumePacingBudget (resent.map Datagram.encodedSize).sum } maxNewBytes)
    { s₂ with
      pacing := s₂.pacing.consumePacingBudget (resent.map Datagram.encodedSize).sum }
  rw [hbuild, hcollect]
  exact hflush

/-- Ranges only enter the queue as gaps and only leave it into emitted negative
    acknowledgements. -/
theorem step_nacks (s : Session F H) (op : SessionOp) :
    (s.step op).2.nackRanges ++ (s.step op).1.outgoingNacks.queue
      = ((s.reportsMissing op).foldl AckQueue.push s.outgoingNacks).queue := by
  cases op with
  | queuePayload payload reliability channel priority receiptId =>
    obtain ⟨_, _, _, _, _, _, _, _, _, h⟩ :=
      s.queuePayloadWithReceipt_eq payload reliability channel priority receiptId
    simp only [step, h]
    rfl
  | ingestDatagram d now => exact congrArg AckQueue.queue (s.ingestDatagram_nacks d now)
  | processDatagramSequence seq now =>
    simp only [reportsMissing, SessionOp.arrivals, List.flatMap_singleton]
    exact congrArg AckQueue.queue (s.processDatagramSequence_queues seq now).1
  | processIncomingReceipts now =>
    obtain ⟨_, _, _, _, h⟩ := s.processIncomingReceipts_eq now
    simp only [step, h]
    rfl
  | collectResendable now maxCount maxBytes =>
    obtain ⟨_, _, _, h⟩ := s.collectResendable_eq now maxCount maxBytes
    simp only [step, h]
    rfl
  | buildDataDatagram now budget =>
    obtain ⟨_, _, _, _, _, h, -⟩ := s.buildDataDatagram_eq now budget
    simp only [step, h]
    rfl
  | onTick now maxNew maxNewBytes maxResend maxResendBytes =>
    exact s.onTick_nacks now maxNew maxNewBytes maxResend maxResendBytes
  | drainNackDatagram now => exact s.drainNackDatagram_nacks now
  | drainAckDatagram now =>
    obtain ⟨hnone, hsame⟩ := s.drainAckDatagram_nacks now
    exact congrArg₂ (fun ranges q => ranges ++ AckQueue.queue q) hnone hsame
  | forceControlFlushDeadlines now =>
    simp only [step, forceControlFlushDeadlines]
    split <;> split <;> rfl
  | transitionTo next =>
    simp only [step, transitionTo]
    split <;> rfl
  | _ => rfl

/-- With what the operation reports as missing, no more than `MAX_ACK_SEQUENCES` numbers
    wait to be sent. -/
def GapsFit (s : Session F H) (op : SessionOp) : Prop :=
  AckQueue.total s.outgoingNacks.queue + AckQueue.total (s.reportsMissing op) ≤ maxAckSequences

instance (s : Session F H) (op : SessionOp) : Decidable (s.GapsFit op) :=
  inferInstanceAs (Decidable (_ ≤ _))

theorem step_total {s : Session F H} {op : SessionOp} (h : s.GapsFit op) :
    AckQueue.total (s.step op).2.nackRanges
      + AckQueue.total (s.step op).1.outgoingNacks.queue ≤ maxAckSequences := by
  have hmax : maxAckSequences = 8192 := rfl
  have hfits : AckQueue.total s.outgoingNacks.queue + AckQueue.total (s.reportsMissing op)
    ≤ maxAckSequences := h
  have hpushes : AckQueue.total ((s.reportsMissing op).foldl AckQueue.push s.outgoingNacks).queue
      ≤ AckQueue.total s.outgoingNacks.queue + AckQueue.total (s.reportsMissing op) :=
    AckQueue.pushes_total (by omega)
  rw [← s.step_nacks op, AckQueue.total_append] at hpushes
  omega

/-- Data datagrams carry no ranges, so the ranges of a run are those of its control
    datagrams. -/
theorem nack_is_control {mtu : Nat} {tunables : SessionTunables F} {start : Instant}
    {ops : List SessionOp} {o : SessionOut} {d : Datagram} {payload : AckNackPayload}
    (ho : o ∈ (sessionMachine F H).outputs (withTunables mtu tunables start) ops)
    (hd : d ∈ o.datagrams) (hp : d.payload = .nack payload) : d ∈ o.controlDatagrams := by
  rcases List.mem_append.mp hd with hd | hd
  · exact hd
  · obtain ⟨b, -, -, hframes⟩ := dataDatagram_built (List.mem_flatMap.mpr ⟨o, ho, hd⟩)
    rw [hp] at hframes
    cases hframes

omit [F64 F] [MinHeap H QueuedFrame QueuedFrame.weight] in
theorem length_sequencesOf (ranges : List SequenceRange) :
    (sequencesOf ranges).length = AckQueue.total ranges := by
  simp only [sequencesOf, List.length_flatMap, SequenceRange.length_sequences, AckQueue.total]

/-- A range of an emitted negative acknowledgement is short as long as few numbers wait.
    An incoming payload has as many numbers looked up as its ranges are long. -/
theorem ack_ranges_bounded (mtu : Nat) (tunables : SessionTunables F) (start : Instant)
    {ops : List SessionOp}
    (hfit : (sessionMachine F H).AllSteps GapsFit (withTunables mtu tunables start) ops) :
    (∀ o ∈ (sessionMachine F H).outputs (withTunables mtu tunables start) ops,
      ∀ d ∈ o.datagrams, ∀ payload, d.payload = .nack payload →
      ∀ r ∈ payload.ranges, r.sequences.length ≤ maxAckSequences) ∧
    (∀ (s : Session F H) (src rest : Bytes) (payload : AckNackPayload),
      AckNackPayload.decodeRaknet.run src = .ok (payload, rest) →
      (sequencesOf (s.handleAckPayload payload).incomingAcks).length
        = (sequencesOf s.incomingAcks).length + AckQueue.total payload.ranges ∧
      (sequencesOf (s.handleNackPayload payload).incomingNacks).length
        = (sequencesOf s.incomingNacks).length + AckQueue.total payload.ranges ∧
      ((sequencesOf payload.ranges).length ≤ maxAckSequences ↔
        AckQueue.total payload.ranges ≤ maxAckSequences)) := by
  constructor
  · intro o ho d hd payload hp r hr
    have hcontrol := nack_is_control ho hd hp
    obtain ⟨pre, op, post, rfl, rfl⟩ := (sessionMachine F H).exists_step_of_mem_outputs ho
    have hstep := ((sessionMachine F H).allSteps_append _ _ _ _).mp hfit
    have htotal := step_total hstep.2.1
    have hrange : r ∈ (((sessionMachine F H).exec (withTunables mtu tunables start) pre).step
        op).2.nackRanges :=
      List.mem_flatMap.mpr ⟨d, hcontrol, by rw [Datagram.nackRanges, hp]; exact hr⟩
    have hspan := AckQueue.span_le_total hrange
    rw [SequenceRange.length_sequences]
    omega
  · intro s src rest payload _
    refine ⟨?_, ?_, ?_⟩
    · rw [handleAckPayload, length_sequencesOf, AckQueue.total_append, length_sequencesOf]
    · rw [handleNackPayload, length_sequencesOf, AckQueue.total_append, length_sequencesOf]
    · rw [length_sequencesOf]

/-- The two chunks of a gap of 10000 numbers at the start. -/
theorem missing_tenThousand : missing (Sequence24.new 0) (Sequence24.new 10000)
    = [⟨Sequence24.new 0, Sequence24.new 8191⟩, ⟨Sequence24.new 8192, Sequence24.new 9999⟩] := by
  have hmissing : missing (Sequence24.new 0) (Sequence24.new 10000)
      = nackChunks (Sequence24.new 9999) (9999 + 1) (Sequence24.new 0) := if_neg (by decide +kernel)
  rw [hmissing]
  have hdist : (Sequence24.new 0).distanceTo (Sequence24.new 9999) = 9999 := by decide +kernel
  rcases nackChunks_succ hdist (by decide) 9999 with ⟨hshort, -⟩ | ⟨-, hrest, heq⟩
  · omega
  rcases nackChunks_succ hrest (by decide) 9998 with ⟨-, heq'⟩ | ⟨hlong, -⟩
  · rw [heq, heq']
    rfl
  · omega

/-- A gap of 10000 numbers leaves as one range, and nine bytes make a session look up
    every number there is. -/
theorem ack_ranges_unbounded :
    (∃ o ∈ concreteMachine.outputs (withTunables 1400 SessionTunables.standard 0)
        [.processDatagramSequence (Sequence24.new 10000) 0, .drainNackDatagram 0],
      ∃ d ∈ o.datagrams,
        d.payload = .nack ⟨[⟨Sequence24.new 0, Sequence24.new 9999⟩]⟩ ∧
        maxAckSequences
          < (⟨Sequence24.new 0, Sequence24.new 9999⟩ : SequenceRange).sequences.length) ∧
    (AckNackPayload.decodeRaknet.run [0, 1, 0, 0, 0, 0, 255, 255, 255]
        = .ok (⟨[⟨Sequence24.new 0, Sequence24.new 16777215⟩]⟩, []) ∧
      (sequencesOf [⟨Sequence24.new 0, Sequence24.new 16777215⟩]).length = 16777216) := by
  refine ⟨?_, by decide +kernel, ?_⟩
  · -- the arrival is taken as its pushes, so that no number of the gap is walked
    have hstep := processDatagramSequence_missing
      (withTunables 1400 SessionTunables.standard 0 : ConcreteSession) (Sequence24.new 10000) 0
    rw [show (withTunables 1400 SessionTunables.standard 0 : ConcreteSession).datagramReadIndex
      = Sequence24.new 0 from rfl, missing_tenThousand] at hstep
    simp only [Machine.outputs_cons, sessionMachine_step, step, hstep]
    refine ⟨_, List.mem_cons_of_mem _ List.mem_cons_self,
      { header := ⟨DatagramFlags.valid ||| DatagramFlags.nack, Sequence24.new 0⟩
        payload := .nack ⟨[⟨Sequence24.new 0, Sequence24.new 9999⟩]⟩ },
      by decide +kernel, rfl, ?_⟩
    rw [SequenceRange.length_sequences]
    decide +kernel
  · rw [length_sequencesOf]
    decide +kernel

theorem ack_ranges_bounded_two_gaps :
    concreteMachine.AllSteps GapsFit (withTunables 1400 SessionTunables.standard 0)
      [.processDatagramSequence (Sequence24.new 3) 0,
        .processDatagramSequence (Sequence24.new 9) 0, .drainNackDatagram 0] ∧
    (∀ o ∈ concreteMachine.outputs (withTunables 1400 SessionTunables.standard 0)
        [.processDatagramSequence (Sequence24.new 3) 0,
          .processDatagramSequence (Sequence24.new 9) 0, .drainNackDatagram 0],
      ∀ d ∈ o.datagrams, ∀ payload, d.payload = .nack payload →
      ∀ r ∈ payload.ranges, r.sequences.length ≤ maxAckSequences) := by
  have hfit : concreteMachine.AllSteps GapsFit (withTunables 1400 SessionTunables.standard 0)
      [.processDatagramSequence (Sequence24.new 3) 0,
        .processDatagramSequence (Sequence24.new 9) 0, .drainNackDatagram 0] := by
    decide +kernel
  exact ⟨hfit, (ack_ranges_bounded 1400 SessionTunables.standard 0 hfit).1⟩

end Session

end Raknet
