-- SUMMARY: A push to the queue of ranges adds the numbers of the range and no others.
import Raknet.Receive.Gaps

/-!
# Unions of ranges

Two ranges that each span less than half of the circle, and whose ends are in order both
ways round, overlap: the smaller start and the larger end are then those of their union.
Distances are counted from the start of the last range, so that the circle is cut open there.
-/

namespace Raknet

/-- The distance of two numbers by their distances from a third. -/
theorem Sequence24.distanceTo_from (o s t : Sequence24) :
    s.distanceTo t = Circular.dist 16777216 (o.distanceTo s) (o.distanceTo t) := by
  have ho := o.isLt
  have hs := s.isLt
  have ht := t.isLt
  have hos := o.distanceTo_cases s
  have hot := o.distanceTo_cases t
  have hst := s.distanceTo_cases t
  unfold Circular.dist
  split <;> omega

theorem SequenceRange.covers_from (o : Sequence24) (r : SequenceRange) (x : Sequence24) :
    r.Covers x ↔ Circular.dist 16777216 (o.distanceTo r.start) (o.distanceTo x)
      ≤ Circular.dist 16777216 (o.distanceTo r.start) (o.distanceTo r.stop) := by
  rw [← Sequence24.distanceTo_from, ← Sequence24.distanceTo_from]
  rfl

/-- The two readings of a distance. -/
theorem Circular.dist_cases (m a b : Nat) :
    (a ≤ b ∧ Circular.dist m a b = b - a) ∨ (b < a ∧ Circular.dist m a b = m - a + b) := by
  rcases Nat.lt_or_ge b a with h | h
  · exact .inr ⟨h, if_neg (Nat.not_le.mpr h)⟩
  · exact .inl ⟨h, if_pos h⟩

/-- Of the offsets from a start: `p` is the end that belongs to it, and `k` and `v` are the
    ends of the other range. The range from the first start to the last end is the union. -/
theorem Circular.union_of_overlap {k p v lo hi : Nat} (hk : k < 16777216) (hp : p < 8388608)
    (hspan : Circular.dist 16777216 k v < 8388608)
    (hback : Circular.dist 16777216 k p < 8388608) (hv : v < 8388608)
    (hlo : (p < k ∧ lo = k) ∨ (k ≤ p ∧ lo = 0)) (hhi : hi = max p v) :
    (∀ t, t < 16777216 → (Circular.dist 16777216 lo t ≤ Circular.dist 16777216 lo hi ↔
      t ≤ p ∨ Circular.dist 16777216 k t ≤ Circular.dist 16777216 k v)) ∧
    Circular.dist 16777216 lo hi < 8388608 := by
  have hkv := Circular.dist_cases 16777216 k v
  have hkp := Circular.dist_cases 16777216 k p
  have hends := Circular.dist_cases 16777216 lo hi
  rcases hlo with ⟨hfar, rfl⟩ | ⟨hnear, rfl⟩
  · -- the other range starts before this one
    refine ⟨fun t ht => ?_, by omega⟩
    have hlt := Circular.dist_cases 16777216 lo t
    omega
  · refine ⟨fun t ht => ?_, by omega⟩
    have hkt := Circular.dist_cases 16777216 k t
    have hot := Circular.dist_cases 16777216 0 t
    omega

namespace AckQueue

/-! ## Merging -/

/-- A range right behind the last one continues it. -/
theorem covers_adjacent {last r : SequenceRange} (hlast : last.span ≤ 8388608)
    (hr : r.span ≤ 8388608) (hnext : last.stop.next = r.start) (x : Sequence24) :
    (⟨last.start, r.stop⟩ : SequenceRange).Covers x ↔ last.Covers x ∨ r.Covers x := by
  have hne : last.stop.next ≠ last.start := by
    intro heq
    have hcases := last.start.distanceTo_cases last.stop
    have hvalue := congrArg Sequence24.value heq
    have hstop := last.stop.isLt
    have hstart := last.start.isLt
    rw [Sequence24.value_next] at hvalue
    unfold SequenceRange.span at hlast
    omega
  have hbehind := Sequence24.distanceTo_next_right hne
  rw [hnext] at hbehind
  have hx := last.start.distanceTo_lt x
  have hstop := last.start.distanceTo_lt r.stop
  unfold SequenceRange.span at hlast hr
  rw [last.start.distanceTo_from r.start r.stop] at hr
  rw [r.covers_from last.start x]
  simp only [SequenceRange.Covers]
  unfold Circular.dist at *
  split at hr
  · split <;> omega
  · omega

/-- Two ranges whose ends are in order overlap, and the range from the smaller start to the
    larger end is their union. -/
theorem covers_overlap {last r : SequenceRange} (hlast : last.span ≤ 8388608)
    (hr : r.span ≤ 8388608) (hstop : r.start.distanceTo last.stop < 8388608)
    (hstart : last.start.distanceTo r.stop < 8388608) :
    let merged : SequenceRange := ⟨last.start.min r.start, last.stop.max r.stop⟩
    (∀ x, merged.Covers x ↔ last.Covers x ∨ r.Covers x) ∧ merged.span ≤ 8388608 := by
  intro merged
  have hfirst := last.start.distanceTo_lt r.start
  have hspan : merged.span = merged.start.distanceTo merged.stop + 1 := rfl
  have hx : ∀ x, last.start.distanceTo x < 16777216 := last.start.distanceTo_lt
  have hwhole : ∀ x, last.Covers x ↔ last.start.distanceTo x ≤ last.start.distanceTo last.stop :=
    fun _ => Iff.rfl
  unfold SequenceRange.span at hlast hr
  rw [last.start.distanceTo_from r.start r.stop] at hr
  rw [last.start.distanceTo_from r.start last.stop] at hstop
  have hback : r.start.distanceTo last.start
      = Circular.dist 16777216 (last.start.distanceTo r.start) 0 := by
    rw [last.start.distanceTo_from r.start last.start, Sequence24.distanceTo_self]
  have hends := last.start.distanceTo_from r.stop last.stop
  rw [hspan, last.start.distanceTo_from merged.start merged.stop]
  simp only [merged.covers_from last.start, r.covers_from last.start, hwhole]
  have hkv := Circular.dist_cases 16777216 (last.start.distanceTo r.start)
    (last.start.distanceTo r.stop)
  have hkp := Circular.dist_cases 16777216 (last.start.distanceTo r.start)
    (last.start.distanceTo last.stop)
  have hvp := Circular.dist_cases 16777216 (last.start.distanceTo r.stop)
    (last.start.distanceTo last.stop)
  have hk0 := Circular.dist_cases 16777216 (last.start.distanceTo r.start) 0
  have hlo : (last.start.distanceTo last.stop < last.start.distanceTo r.start ∧
        last.start.distanceTo merged.start = last.start.distanceTo r.start) ∨
      (last.start.distanceTo r.start ≤ last.start.distanceTo last.stop ∧
        last.start.distanceTo merged.start = 0) := by
    simp only [merged, Sequence24.min]
    split
    · next hlt =>
      rw [Sequence24.lt_iff] at hlt
      exact .inl ⟨by omega, rfl⟩
    · next hlt =>
      rw [Sequence24.lt_iff] at hlt
      exact .inr ⟨by omega, Sequence24.distanceTo_self _⟩
  have hhi : last.start.distanceTo merged.stop
      = max (last.start.distanceTo last.stop) (last.start.distanceTo r.stop) := by
    simp only [merged, Sequence24.max]
    split
    · next hlt =>
      rw [Sequence24.lt_iff] at hlt
      omega
    · next hlt =>
      rw [Sequence24.lt_iff] at hlt
      omega
  obtain ⟨hunion, hless⟩ := Circular.union_of_overlap hfirst hlast hr hstop hstart hlo hhi
  exact ⟨fun x => hunion _ (hx x), hless⟩

theorem mergeLast_union {last r merged : SequenceRange} (h : mergeLast last r = some merged)
    (hlast : last.span ≤ 8388608) (hr : r.span ≤ 8388608) :
    (∀ x, merged.Covers x ↔ last.Covers x ∨ r.Covers x) ∧
    (last.stop.next ≠ r.start → merged.span ≤ 8388608) := by
  unfold mergeLast at h
  split at h
  · next hnext =>
    obtain rfl := Option.some.inj h
    exact ⟨covers_adjacent hlast hr hnext, fun hne => absurd hnext hne⟩
  · split at h
    · next hoverlap =>
      obtain rfl := Option.some.inj h
      rw [Bool.and_eq_true, Sequence24.ge_iff, Sequence24.ge_iff] at hoverlap
      obtain ⟨hcovers, hspan⟩ := covers_overlap hlast hr hoverlap.1 hoverlap.2
      exact ⟨hcovers, fun _ => hspan⟩
    · cases h

/-! ## Pushing -/

/-- The halves of a wrapping range cover what it covers. -/
theorem splitWrapping_covers {r left right : SequenceRange}
    (h : r.splitWrapping = some (left, right)) (x : Sequence24) :
    r.Covers x ↔ left.Covers x ∨ right.Covers x := by
  unfold SequenceRange.splitWrapping at h
  split at h
  · cases h
  · next hwraps =>
    simp only [Option.some.injEq, Prod.mk.injEq] at h
    obtain ⟨rfl, rfl⟩ := h
    have hlt : r.stop.value < r.start.value := by
      rw [← SequenceRange.wraps_iff]
      simpa using hwraps
    have hstart := r.start.isLt
    have hx := x.isLt
    have hwhole := r.start.distanceTo_cases r.stop
    have hpart := r.start.distanceTo_cases x
    have htail := r.start.distanceTo_cases (Sequence24.new 0x00FFFFFF)
    have hhead := (Sequence24.new 0).distanceTo_cases r.stop
    have hlow := (Sequence24.new 0).distanceTo_cases x
    rw [Sequence24.value_new] at htail hhead hlow
    simp only [SequenceRange.Covers]
    omega

/-- The numbers that the ranges of a queue cover. -/
def covered (q : AckQueue) : Set Sequence24 := { x | ∃ r ∈ q.queue, r.Covers x }

/-- The numbers of a range. -/
def numbers (r : SequenceRange) : Set Sequence24 := { x | r.Covers x }

/-- The last range spans half of the circle at most. -/
def LastShort (q : AckQueue) : Prop := ∀ last ∈ q.queue.getLast?, last.span ≤ 8388608

theorem covered_concat (q : AckQueue) (ranges : List SequenceRange) (r : SequenceRange) :
    covered { q with queue := ranges ++ [r] } = { x | ∃ r ∈ ranges, r.Covers x } ∪ numbers r := by
  ext x
  simp only [covered, numbers, List.mem_append, List.mem_singleton, Set.mem_ofPred_eq,
    Set.mem_union, or_and_right, exists_or, exists_eq_left]

/-- A range that is merged or does not wrap: the union, one range more at most, and a short
    last range unless the range continued the last one. -/
theorem pushWith_union (again : AckQueue → SequenceRange → AckQueue) {q : AckQueue}
    {r : SequenceRange} (hroom : q.queue.length < q.maxRanges) (hlast : q.LastShort)
    (hr : r.span ≤ 8388608)
    (hwhole : (q.queue.getLast?.bind fun last => mergeLast last r) = none →
      r.splitWrapping = none) :
    (pushWith again q r).covered = q.covered ∪ numbers r ∧
    (pushWith again q r).queue.length ≤ q.queue.length + 1 ∧
    (pushWith again q r).maxRanges = q.maxRanges ∧
    ((∀ last ∈ q.queue.getLast?, last.stop.next ≠ r.start) →
      (pushWith again q r).LastShort) := by
  unfold pushWith
  rw [if_neg (Nat.not_le.mpr hroom)]
  split
  · next merged hmerge =>
    obtain ⟨last, hthere, hmerge⟩ := Option.bind_eq_some_iff.mp hmerge
    have hqueue := List.dropLast_append_getLast? last hthere
    obtain ⟨hcovers, hshort⟩ := mergeLast_union hmerge (hlast last hthere) hr
    refine ⟨?_, ?_, rfl, fun hne => ?_⟩
    · have hbefore : q.covered
          = { x | ∃ r ∈ q.queue.dropLast, r.Covers x } ∪ numbers last := by
        rw [← covered_concat q, hqueue]
      rw [covered_concat, hbefore, Set.union_assoc]
      congr 1
      ext x
      exact hcovers x
    · have hlength := congrArg List.length hqueue
      rw [List.length_append] at hlength ⊢
      exact Nat.le_of_eq hlength |>.trans (Nat.le_add_right _ _)
    · intro last' hlast'
      rw [List.getLast?_concat] at hlast'
      obtain rfl := Option.some.inj hlast'
      exact hshort (hne last hthere)
  · next hmerge =>
    rw [hwhole hmerge]
    refine ⟨covered_concat q q.queue r, ?_, rfl, fun _ => ?_⟩
    · rw [List.length_append]
      exact Nat.le_refl _
    · intro last' hlast'
      rw [List.getLast?_concat] at hlast'
      obtain rfl := Option.some.inj hlast'
      exact hr

theorem splitWrapping_start {r left right : SequenceRange}
    (h : r.splitWrapping = some (left, right)) : left.start = r.start := by
  unfold SequenceRange.splitWrapping at h
  split at h
  · cases h
  · simp only [Option.some.injEq, Prod.mk.injEq] at h
    rw [← h.1]

theorem splitWrapping_none {r : SequenceRange} (h : r.wraps = false) : r.splitWrapping = none := by
  simp [SequenceRange.splitWrapping, h]

/-- For a queue with room for two more ranges whose last range spans less than half of the
    circle, a push of such a range, wrapping or not, adds its numbers and no others; and
    `pop_for_mtu` takes a beginning off the queue and returns just it. -/
theorem push_covers_union (q : AckQueue) (r : SequenceRange)
    (hroom : q.queue.length + 1 < q.maxRanges)
    (hlast : ∀ last ∈ q.queue.getLast?, last.span < 8388608) (hr : r.span < 8388608) :
    (q.push r).covered = q.covered ∪ numbers r ∧
    ∀ mtu baseOverhead maxRanges,
      ((q.push r).popForMtu mtu baseOverhead maxRanges).1
        ++ ((q.push r).popForMtu mtu baseOverhead maxRanges).2.queue = (q.push r).queue := by
  have hshort : q.LastShort := fun last hthere => Nat.le_of_lt (hlast last hthere)
  refine ⟨?_, fun mtu baseOverhead maxRanges => popForMtu_append _ mtu baseOverhead maxRanges⟩
  by_cases hwhole : (q.queue.getLast?.bind fun last => mergeLast last r) = none →
      r.splitWrapping = none
  · exact (pushWith_union _ (by omega) hshort (Nat.le_of_lt hr) hwhole).1
  · obtain ⟨hmerge, hsome⟩ := Classical.not_imp.mp hwhole
    obtain ⟨⟨left, right⟩, hsplit⟩ := Option.ne_none_iff_exists'.mp hsome
    obtain ⟨hleft, hright⟩ := splitWrapping_halves hsplit
    have hspan := span_splitWrapping hsplit
    -- the tail does not continue the last range: the whole range would have been merged
    have hapart : ∀ last ∈ q.queue.getLast?, last.stop.next ≠ left.start := by
      intro last hthere hnext
      rw [Option.mem_def.mp hthere, Option.bind_some, mergeLast,
        if_pos (splitWrapping_start hsplit ▸ hnext)] at hmerge
      cases hmerge
    obtain ⟨htail, hlength, hmax, hnext⟩ := pushWith_union (fun q _ => q)
      (Nat.lt_of_succ_lt hroom) hshort (r := left) (by omega) fun _ => splitWrapping_none hleft
    have hhead := (pushWith_union (fun q _ => q) (q := pushWith (fun q _ => q) q left)
      (r := right) (by omega) (hnext hapart) (by omega) fun _ => splitWrapping_none hright).1
    have hhalves : q.push r
        = pushWith (fun q _ => q) (pushWith (fun q _ => q) q left) right := by
      rw [push, pushWith, if_neg (by omega), hmerge, hsplit]
    rw [hhalves, hhead, htail, Set.union_assoc]
    congr 1
    ext x
    exact (splitWrapping_covers hsplit x).symm

/-- A range across the end of the circle is pushed behind a number before it. -/
theorem push_covers_union_across_wrap :
    (push ⟨8, [SequenceRange.single (Sequence24.new 16777210)]⟩
        ⟨Sequence24.new 16777214, Sequence24.new 1⟩).covered
      = covered ⟨8, [SequenceRange.single (Sequence24.new 16777210)]⟩
        ∪ numbers ⟨Sequence24.new 16777214, Sequence24.new 1⟩ :=
  (push_covers_union _ _ (by decide) (by decide) (by decide)).1

end AckQueue

end Raknet
