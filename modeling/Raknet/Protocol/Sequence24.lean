-- SUMMARY: 24-bit wrapping sequence numbers: successor, forward distance and the half-window comparison.
import Mathlib.Tactic.Common
import Raknet.Lib.Circular

/-!
# Sequence numbers

Datagram, reliable, ordering and sequencing indices are 24-bit numbers that
wrap. The comparison reads the shorter way around the circle, so it is neither
antisymmetric at distance `2 ^ 23` nor transitive on sets wider than that.
-/

namespace Raknet

/-- A 24-bit sequence number. The mask of `Sequence24::new` is the field
    `isLt`. -/
structure Sequence24 where
  value : Nat
  isLt : value < 16777216
deriving DecidableEq, Repr

namespace Sequence24

/-- `1 << 24`. -/
def modulo : Nat := 16777216
/-- `MODULO - 1`. -/
def mask : Nat := 16777215
/-- `MODULO / 2`. -/
def half : Nat := 8388608

/-- `value & MASK`. -/
def new (value : Nat) : Sequence24 :=
  ⟨value % 16777216, Nat.mod_lt _ (by decide)⟩

instance : Inhabited Sequence24 := ⟨new 0⟩

def next (s : Sequence24) : Sequence24 := new (s.value + 1)

def prev (s : Sequence24) : Sequence24 :=
  if s.value = 0 then new mask else new (s.value - 1)

def distanceTo (s newer : Sequence24) : Nat :=
  let cur := s.value
  let target := newer.value
  if target ≥ cur then target - cur else modulo - cur + target

/-- `Ord::cmp`: the sign of the difference, read the shorter way around. -/
def cmp (s other : Sequence24) : Ordering :=
  let delta : Int := s.value - other.value
  if delta = 0 then
    .eq
  else if (delta > 0 ∧ delta < half) ∨ (delta < 0 ∧ delta < -half) then
    .gt
  else
    .lt

/-- The operator `<`. -/
def lt (s other : Sequence24) : Bool := s.cmp other = .lt
/-- The operator `>`. -/
def gt (s other : Sequence24) : Bool := s.cmp other = .gt
/-- The operator `>=`. -/
def ge (s other : Sequence24) : Bool := s.cmp other ≠ .lt

/-- `std::cmp::min`. -/
def min (s other : Sequence24) : Sequence24 := if other.lt s then other else s
/-- `std::cmp::max`. -/
def max (s other : Sequence24) : Sequence24 := if other.lt s then s else other

/-! ## Values -/

theorem ext_value {s t : Sequence24} (h : s.value = t.value) : s = t := by
  cases s; cases t; cases h; rfl

theorem value_inj {s t : Sequence24} : s.value = t.value ↔ s = t :=
  ⟨ext_value, fun h => h ▸ rfl⟩

@[simp] theorem value_new (n : Nat) : (new n).value = n % 16777216 := rfl

@[simp] theorem new_value (s : Sequence24) : new s.value = s :=
  ext_value (Nat.mod_eq_of_lt s.isLt)

theorem value_next (s : Sequence24) : s.next.value = (s.value + 1) % 16777216 := rfl

theorem next_new (n : Nat) : (new n).next = new (n + 1) := by
  apply ext_value
  simp only [value_next, value_new]
  omega

theorem value_prev (s : Sequence24) :
    s.prev.value = if s.value = 0 then 16777215 else s.value - 1 := by
  have := s.isLt
  unfold prev
  split
  · rfl
  · simp only [value_new]; omega

/-- The number before that of a counter is one below it, on the circle. -/
theorem value_prev_new (n : Nat) : ((new n).prev.value : Int) = ((n : Int) - 1) % 16777216 := by
  have h := (new n).value_prev
  rw [value_new] at h
  split at h <;> omega

/-- Counters less than a turn apart have different numbers. -/
theorem new_inj {a b : Nat} (hab : a < b + 16777216) (hba : b < a + 16777216) :
    new a = new b ↔ a = b := by
  rw [← value_inj, value_new, value_new]
  omega

/-! ## Distance -/

theorem distanceTo_eq (s t : Sequence24) :
    s.distanceTo t = Circular.dist 16777216 s.value t.value := rfl

/-- The two readings of a distance, without and with a wrap. -/
theorem distanceTo_cases (s t : Sequence24) :
    (s.value ≤ t.value ∧ s.distanceTo t = t.value - s.value) ∨
    (t.value < s.value ∧ s.distanceTo t = 16777216 - s.value + t.value) := by
  rcases Nat.lt_or_ge t.value s.value with h | h
  · exact .inr ⟨h, if_neg (by omega)⟩
  · exact .inl ⟨h, if_pos h⟩

theorem distanceTo_lt (s t : Sequence24) : s.distanceTo t < 16777216 :=
  Circular.dist_lt s.isLt t.isLt

@[simp] theorem distanceTo_self (s : Sequence24) : s.distanceTo s = 0 := by
  rw [distanceTo_eq, Circular.dist_self]

theorem distanceTo_eq_zero {s t : Sequence24} : s.distanceTo t = 0 ↔ s = t := by
  rw [distanceTo_eq, Circular.dist_eq_zero s.isLt, value_inj]

/-- Distances between two numbers that both stand for unbounded counters below
    one turn of each other. -/
theorem distanceTo_new {a b : Nat} (hab : a ≤ b) (hlt : b < a + 16777216) :
    (new a).distanceTo (new b) = b - a := by
  have h := distanceTo_cases (new a) (new b)
  simp only [value_new] at h
  omega

theorem distanceTo_next_right {s t : Sequence24} (h : t.next ≠ s) :
    s.distanceTo t.next = s.distanceTo t + 1 := by
  have hs := s.isLt
  have ht := t.isLt
  have hne : (t.value + 1) % 16777216 ≠ s.value := fun e => h (ext_value e)
  have h₁ := distanceTo_cases s t
  have h₂ := distanceTo_cases s t.next
  rw [value_next] at h₂
  omega

theorem distanceTo_next_left {s t : Sequence24} (h : s ≠ t) :
    s.distanceTo t = s.next.distanceTo t + 1 := by
  have hs := s.isLt
  have ht := t.isLt
  have hne : s.value ≠ t.value := fun e => h (ext_value e)
  have h₁ := distanceTo_cases s t
  have h₂ := distanceTo_cases s.next t
  rw [value_next] at h₂
  omega

/-! ## Comparison -/

theorem cmp_eq_eq {s t : Sequence24} : s.cmp t = .eq ↔ s = t := by
  rw [← value_inj]
  unfold cmp
  simp only
  split_ifs with h₁ h₂
  · exact ⟨fun _ => by omega, fun _ => rfl⟩
  · exact ⟨fun h => by simp at h, fun h => by omega⟩
  · exact ⟨fun h => by simp at h, fun h => by omega⟩

theorem cmp_cases (s t : Sequence24) :
    (s.cmp t = .eq ∧ t.distanceTo s = 0 ∧ s.distanceTo t = 0) ∨
    (s.cmp t = .gt ∧ 0 < t.distanceTo s ∧ t.distanceTo s < 8388608) ∨
    (s.cmp t = .lt ∧ 0 < s.distanceTo t ∧ s.distanceTo t ≤ 8388608) := by
  have hs := s.isLt
  have ht := t.isLt
  have hst := distanceTo_cases s t
  have hts := distanceTo_cases t s
  have hhalf : half = 8388608 := rfl
  dsimp only [cmp]
  split_ifs with h₁ h₂
  · exact .inl ⟨rfl, by omega, by omega⟩
  · exact .inr (.inl ⟨rfl, by omega, by omega⟩)
  · exact .inr (.inr ⟨rfl, by omega, by omega⟩)

/-- Two different numbers are a full turn apart, counted both ways. -/
theorem distanceTo_add_distanceTo {s t : Sequence24} (h : s ≠ t) :
    s.distanceTo t + t.distanceTo s = 16777216 :=
  Circular.dist_add_dist s.isLt t.isLt fun e => h (ext_value e)

/-- `s > t` when `s` is met within half a turn above `t`. -/
theorem gt_iff {s t : Sequence24} :
    s.gt t = true ↔ 0 < t.distanceTo s ∧ t.distanceTo s < 8388608 := by
  unfold gt
  rcases cmp_cases s t with ⟨h, h₁, h₂⟩ | ⟨h, h₁, h₂⟩ | ⟨h, h₁, h₂⟩
  · simp [h, h₁]
  · simp [h, h₁, h₂]
  · have hne : s ≠ t := fun e => by subst e; simp at h₁
    have := distanceTo_add_distanceTo hne
    simp only [h, reduceCtorEq, decide_false, Bool.false_eq_true, false_iff]
    omega

/-- `s < t` when `t` is met within half a turn above `s`, the opposite point
    included. -/
theorem lt_iff {s t : Sequence24} :
    s.lt t = true ↔ 0 < s.distanceTo t ∧ s.distanceTo t ≤ 8388608 := by
  unfold lt
  rcases cmp_cases s t with ⟨h, h₁, h₂⟩ | ⟨h, h₁, h₂⟩ | ⟨h, h₁, h₂⟩
  · simp [h, h₂]
  · have hne : s ≠ t := fun e => by subst e; simp at h₁
    have := distanceTo_add_distanceTo hne
    simp only [h, reduceCtorEq, decide_false, Bool.false_eq_true, false_iff]
    omega
  · simp [h, h₁, h₂]

theorem ge_iff {s t : Sequence24} : s.ge t = true ↔ t.distanceTo s < 8388608 := by
  unfold ge
  rcases cmp_cases s t with ⟨h, h₁, h₂⟩ | ⟨h, h₁, h₂⟩ | ⟨h, h₁, h₂⟩
  · simp [h, h₁]
  · simp [h, h₂]
  · have hne : s ≠ t := fun e => by subst e; simp at h₁
    have := distanceTo_add_distanceTo hne
    simp only [h, ne_eq, not_true_eq_false, decide_false, Bool.false_eq_true, false_iff]
    omega

/-! ## Arcs on which the comparison is an order -/

/-- On numbers less than half a turn above `a` the comparison is that of their
    distances from `a`. -/
theorem cmp_eq_compare_of_arc {a s t : Sequence24} (hs : a.distanceTo s < 8388608)
    (ht : a.distanceTo t < 8388608) :
    s.cmp t = compare (a.distanceTo s) (a.distanceTo t) := by
  have := a.isLt
  have := s.isLt
  have := t.isLt
  have has := distanceTo_cases a s
  have hat := distanceTo_cases a t
  have hst := distanceTo_cases s t
  have hts := distanceTo_cases t s
  rcases cmp_cases s t with ⟨h, h₁, h₂⟩ | ⟨h, h₁, h₂⟩ | ⟨h, h₁, h₂⟩
  · rw [h, eq_comm, Nat.compare_eq_eq]
    omega
  · rw [h, eq_comm, Nat.compare_eq_gt]
    omega
  · rw [h, eq_comm, Nat.compare_eq_lt]
    omega

/-- The numbers of two counters less than half a turn apart compare as the counters do. -/
theorem cmp_new {n m : Nat} (h : ((n : Int) - m).natAbs < 8388608) :
    (new n).cmp (new m) = compare n m := by
  -- both are on the arc of half a turn that starts at the smaller one
  have hn : (new (Min.min n m)).distanceTo (new n) = n - Min.min n m :=
    distanceTo_new (Nat.min_le_left n m) (by omega)
  have hm : (new (Min.min n m)).distanceTo (new m) = m - Min.min n m :=
    distanceTo_new (Nat.min_le_right n m) (by omega)
  rw [cmp_eq_compare_of_arc (a := new (Min.min n m)) (by omega) (by omega), hn, hm]
  rcases Nat.lt_trichotomy n m with hlt | heq | hgt
  · rw [Nat.compare_eq_lt.mpr hlt, Nat.compare_eq_lt]
    omega
  · rw [Nat.compare_eq_eq.mpr heq, Nat.compare_eq_eq]
    omega
  · rw [Nat.compare_eq_gt.mpr hgt, Nat.compare_eq_gt]
    omega

/-- The number of steps between two numbers, the shorter way around. -/
def circularDistance (s t : Sequence24) : Nat :=
  Min.min (s.distanceTo t) (t.distanceTo s)

theorem circularDistance_lt_of_arc {a s t : Sequence24} (hs : a.distanceTo s < 8388608)
    (ht : a.distanceTo t < 8388608) : s.circularDistance t < 8388608 := by
  have := a.isLt
  have := s.isLt
  have := t.isLt
  have has := distanceTo_cases a s
  have hat := distanceTo_cases a t
  have hst := distanceTo_cases s t
  have hts := distanceTo_cases t s
  rw [circularDistance, Nat.min_def]
  split <;> omega

end Sequence24

end Raknet
