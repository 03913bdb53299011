-- SUMMARY: Acknowledgement ranges and payloads, and the walk over the numbers of a range.
import Mathlib.Algebra.Group.Int.Defs
import Mathlib.Algebra.GroupWithZero.Nat
import Raknet.Protocol.Sequence24

namespace Raknet

structure SequenceRange where
  start : Sequence24
  stop : Sequence24
deriving DecidableEq, Repr

namespace SequenceRange

/-- The range of one number. -/
def single (seq : Sequence24) : SequenceRange := ⟨seq, seq⟩

def wraps (r : SequenceRange) : Bool := r.start ≠ r.stop && r.start.value > r.stop.value

def splitWrapping (r : SequenceRange) : Option (SequenceRange × SequenceRange) :=
  if !r.wraps then
    none
  else
    let tail : SequenceRange := ⟨r.start, Sequence24.new 0x00FFFFFF⟩
    let head : SequenceRange := ⟨Sequence24.new 0, r.stop⟩
    some (tail, head)

def encodedSize (r : SequenceRange) : Nat :=
  if r.start = r.stop then 1 + 3 else 1 + 3 + 3

/-- The numbers `for_each_sequence` visits from `seq` on, in order. Its loop
    runs until it meets `stop`; the walk is `seq.distanceTo stop + 1` long. -/
def visit (stop : Sequence24) : Nat → Sequence24 → List Sequence24
  | 0, seq => [seq]
  | n + 1, seq => if seq = stop then [seq] else seq :: visit stop n seq.next

/-- The numbers `Session::for_each_sequence` hands to its callback. -/
def sequences (r : SequenceRange) : List Sequence24 :=
  visit r.stop (r.start.distanceTo r.stop) r.start

section ForEach

variable {σ : Type} (f : σ → Sequence24 → σ)

/-- The loop of `for_each_sequence`, with what the callback makes of its state. It is `none`
    if the loop has not met `stop` after `fuel` rounds. -/
def forEachFrom (stop : Sequence24) : Nat → Sequence24 → σ → Option σ
  | 0, _, _ => none
  | fuel + 1, seq, acc =>
    let acc := f acc seq
    if seq = stop then some acc else forEachFrom stop fuel seq.next acc

/-- `Session::for_each_sequence`. -/
def forEachSequence (r : SequenceRange) (fuel : Nat) (acc : σ) : Option σ :=
  forEachFrom f r.stop fuel r.start acc

end ForEach

/-- A range read circularly from `start` to `stop` covers `x`. -/
def Covers (r : SequenceRange) (x : Sequence24) : Prop :=
  r.start.distanceTo x ≤ r.start.distanceTo r.stop

instance (r : SequenceRange) (x : Sequence24) : Decidable (r.Covers x) :=
  inferInstanceAs (Decidable (_ ≤ _))

end SequenceRange

structure AckNackPayload where
  ranges : List SequenceRange
deriving DecidableEq, Repr

def AckNackPayload.encodedSize (p : AckNackPayload) : Nat :=
  p.ranges.foldl (fun size r =>
    match r.splitWrapping with
    | some (a, b) => size + (a.encodedSize + b.encodedSize)
    | none => size + r.encodedSize) 2

namespace SequenceRange

@[simp] theorem covers_single {seq x : Sequence24} : (single seq).Covers x ↔ x = seq := by
  simp only [Covers, single, Sequence24.distanceTo_self, Nat.le_zero,
    Sequence24.distanceTo_eq_zero]
  exact eq_comm

theorem single_wraps (seq : Sequence24) : (single seq).wraps = false := by
  simp [single, wraps]

/-- One more number at the end of a range adds that number and nothing else. -/
theorem covers_extend {r : SequenceRange} {x : Sequence24}
    (h : (⟨r.start, r.stop.next⟩ : SequenceRange).Covers x) : r.Covers x ∨ x = r.stop.next := by
  have hnext : r.stop.next.value = Circular.shift 16777216 r.stop.value 1 := rfl
  unfold Covers at *
  simp only [Sequence24.distanceTo_eq, hnext] at h
  rcases Circular.inArc_succ_end r.start.isLt r.stop.isLt x.isLt h with h | h
  · exact .inl h
  · exact .inr (Sequence24.ext_value (by rw [h, hnext]))

theorem mem_visit {stop seq x : Sequence24} {n : Nat} (hn : seq.distanceTo stop = n) :
    x ∈ visit stop n seq ↔ seq.distanceTo x ≤ n := by
  induction n generalizing seq with
  | zero =>
    simp only [visit, List.mem_singleton, Nat.le_zero, Sequence24.distanceTo_eq_zero]
    exact eq_comm
  | succ n ih =>
    have hne : seq ≠ stop := fun e => by subst e; simp at hn
    have hstep := Sequence24.distanceTo_next_left hne
    have hrest : seq.next.distanceTo stop = n := by omega
    simp only [visit, hne, if_false, List.mem_cons, ih hrest]
    constructor
    · rintro (rfl | h)
      · simp
      · by_cases hx : seq = x
        · subst hx; simp
        · rw [Sequence24.distanceTo_next_left hx]; omega
    · intro h
      by_cases hx : seq = x
      · exact .inl hx.symm
      · rw [Sequence24.distanceTo_next_left hx] at h
        exact .inr (by omega)

/-- The walk over a range visits the numbers the range covers. -/
theorem mem_sequences {r : SequenceRange} {x : Sequence24} :
    x ∈ r.sequences ↔ r.Covers x :=
  mem_visit rfl

theorem visit_eq {stop seq : Sequence24} {n : Nat} (hn : seq.distanceTo stop = n) :
    visit stop n seq = (List.range (n + 1)).map fun k => Sequence24.new (seq.value + k) := by
  induction n generalizing seq with
  | zero => simp [visit]
  | succ n ih =>
    have hne : seq ≠ stop := fun e => by subst e; simp at hn
    have hstep := Sequence24.distanceTo_next_left hne
    have hrange : List.range (n + 1 + 1) = 0 :: (List.range (n + 1)).map Nat.succ :=
      List.range_succ_eq_map
    rw [visit, if_neg hne, ih (by omega), hrange, List.map_cons, List.map_map]
    refine List.cons_eq_cons.mpr ⟨seq.new_value.symm, ?_⟩
    refine List.map_congr_left fun k _ => Sequence24.ext_value ?_
    simp only [Function.comp_apply, Sequence24.value_new, Sequence24.value_next]
    omega

/-- The walk over a range counts up from its start. -/
theorem sequences_eq (r : SequenceRange) :
    r.sequences = (List.range (r.start.distanceTo r.stop + 1)).map
      fun k => Sequence24.new (r.start.value + k) :=
  visit_eq rfl

/-- The loop ends once it has gone all the way to `stop`, after a callback for each of the
    numbers on the way. -/
theorem forEachFrom_eq {σ : Type} (f : σ → Sequence24 → σ) {stop seq : Sequence24} {n : Nat}
    (hn : seq.distanceTo stop = n) (fuel : Nat) (acc : σ) :
    forEachFrom f stop fuel seq acc
      = if n < fuel then some ((visit stop n seq).foldl f acc) else none := by
  induction fuel generalizing seq n acc with
  | zero => rw [forEachFrom, if_neg (Nat.not_lt_zero n)]
  | succ fuel ih =>
    rw [forEachFrom]
    by_cases hstop : seq = stop
    · have hzero : n = 0 := by rw [← hn, hstop, Sequence24.distanceTo_self]
      rw [if_pos hstop, hzero, if_pos (Nat.succ_pos fuel)]
      rfl
    · have hstep := Sequence24.distanceTo_next_left hstop
      obtain ⟨k, rfl⟩ : ∃ k, n = k + 1 := ⟨seq.next.distanceTo stop, by omega⟩
      have hrest : seq.next.distanceTo stop = k := by omega
      rw [if_neg hstop, ih hrest, visit, if_neg hstop, List.foldl_cons]
      simp only [Nat.succ_lt_succ_iff]

/-- The loop over a range hands over its `sequences`. -/
theorem forEachSequence_eq {σ : Type} (f : σ → Sequence24 → σ) (r : SequenceRange) (fuel : Nat)
    (acc : σ) :
    r.forEachSequence f fuel acc
      = if r.start.distanceTo r.stop < fuel then some (r.sequences.foldl f acc) else none :=
  forEachFrom_eq f rfl fuel acc

/-- The range between the numbers of two counters visits the numbers of those in between. -/
theorem sequences_new {n m : Nat} (hle : n ≤ m) (hlt : m < n + 16777216) :
    sequences ⟨Sequence24.new n, Sequence24.new m⟩
      = (List.range' n (m - n + 1)).map Sequence24.new := by
  rw [sequences_eq, Sequence24.distanceTo_new hle hlt, List.range'_eq_map_range, List.map_map]
  refine List.map_congr_left fun k _ => Sequence24.ext_value ?_
  simp only [Function.comp_apply, Sequence24.value_new]
  omega

theorem wraps_iff {r : SequenceRange} : r.wraps = true ↔ r.stop.value < r.start.value := by
  simp only [wraps, Bool.and_eq_true, decide_eq_true_eq, and_iff_right_iff_imp, gt_iff_lt, ne_eq]
  intro hlt heq
  rw [heq] at hlt
  exact Nat.lt_irrefl _ hlt

/-- Inside a window of half a turn the 24-bit numbers stand for counters without a bound: they
    compare, count and measure as these do, and a walk between two of them ends and visits each
    counter in between once. -/
theorem sequence24_refines_counters (n m : Nat) (h : ((n : Int) - m).natAbs < 2 ^ 23) :
    (Sequence24.new n).cmp (Sequence24.new m) = compare n m ∧
    (n ≤ m → (Sequence24.new n).distanceTo (Sequence24.new m) = m - n) ∧
    ((Sequence24.new n).next.value : Int) = ((n : Int) + 1) % 2 ^ 24 ∧
    ((Sequence24.new n).prev.value : Int) = ((n : Int) - 1) % 2 ^ 24 ∧
    (n ≤ m →
      (∀ {σ : Type} (f : σ → Sequence24 → σ) (fuel : Nat) (acc : σ),
        (⟨Sequence24.new n, Sequence24.new m⟩ : SequenceRange).forEachSequence f fuel acc
          = if m - n < fuel then
              some (((List.range' n (m - n + 1)).map Sequence24.new).foldl f acc)
            else none) ∧
      ((List.range' n (m - n + 1)).map Sequence24.new).Nodup) := by
  refine ⟨Sequence24.cmp_new h, fun hle => Sequence24.distanceTo_new hle (by omega), ?_,
    Sequence24.value_prev_new n, fun hle => ⟨fun f fuel acc => ?_, ?_⟩⟩
  · rw [Sequence24.next_new, Sequence24.value_new]
    omega
  · rw [forEachSequence_eq, sequences_new hle (by omega)]
    dsimp only
    rw [Sequence24.distanceTo_new hle (by omega)]
  · have hcounters : (List.range' n (m - n + 1)).Nodup := List.nodup_range'
    refine List.pairwise_map.mpr (List.Pairwise.imp_of_mem (fun {a b} ha hb hne => ?_) hcounters)
    rw [List.mem_range'_1] at ha hb
    rw [Ne, Sequence24.new_inj (by omega) (by omega)]
    exact hne

/-- Three counters around the end of a turn. -/
theorem sequence24_refines_counters_turn :
    (Sequence24.new 16777215).cmp (Sequence24.new 16777217) = .lt ∧
    (Sequence24.new 16777215).distanceTo (Sequence24.new 16777217) = 2 ∧
    (⟨Sequence24.new 16777215, Sequence24.new 16777217⟩ : SequenceRange).forEachSequence
      (fun seen seq => seen ++ [seq.value]) 3 [] = some [16777215, 0, 1] := by
  obtain ⟨hcmp, hdist, -, -, hwalk⟩ := sequence24_refines_counters 16777215 16777217 (by decide)
  exact ⟨hcmp, hdist (by decide), (hwalk (by decide)).1 _ 3 []⟩

end SequenceRange

end Raknet
