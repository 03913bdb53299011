-- SUMMARY: The double-precision operations a program uses, as an interface without rounding laws, and its exact rational reading.
import Mathlib.Data.Rat.Floor

/-!
# Double-precision numbers

A program's `f64` values enter a model through the operations of this class
only. No law says how an operation rounds or what it does on a NaN, so a
statement proved for every instance holds of IEEE arithmetic as well. The one
law is a fact of IEEE arithmetic that holds of every argument, NaN and the
infinities included: `max(x, 1.0)` is at least `1.0`.

Durations and instants are natural numbers of nanoseconds.
-/

/-- The `f64` operations and conversions. -/
class F64 (F : Type) extends Add F, Sub F, Mul F, Div F where
  /-- An integer `as f64`. -/
  ofNat : Nat → F
  /-- The decimal literal `n / 10 ^ k`. -/
  decimal : Nat → Nat → F
  infinity : F
  max : F → F → F
  clamp : F → F → F → F
  abs : F → F
  floor : F → F
  lt : F → F → Bool
  le : F → F → Bool
  /-- A float `as usize`. -/
  toUsize : F → Nat
  /-- `Duration::as_secs_f64`. -/
  ofDuration : Nat → F
  /-- `Duration::from_secs_f64`. -/
  toDuration : F → Nat
  zero_lt_floor_max_one : ∀ x : F, lt (ofNat 0) (floor (max x (ofNat 1))) = true

/-- Exact rational arithmetic, which agrees with `f64` on values that need no
    rounding. -/
instance : F64 ℚ where
  ofNat n := n
  decimal n k := n / 10 ^ k
  infinity := 2 ^ 1024
  max x y := if x ≤ y then y else x
  clamp x lo hi := if x < lo then lo else if hi < x then hi else x
  abs x := if x < 0 then -x else x
  floor x := ⌊x⌋
  lt x y := decide (x < y)
  le x y := decide (x ≤ y)
  toUsize x := ⌊x⌋.toNat
  ofDuration d := d / 10 ^ 9
  toDuration x := ⌊x * 10 ^ 9⌋.toNat
  zero_lt_floor_max_one x := by
    have h : (1 : ℚ) ≤ if x ≤ ((1 : ℕ) : ℚ) then ((1 : ℕ) : ℚ) else x := by
      split
      · simp
      · next hx => push Not at hx; simpa using hx.le
    have hfloor : (1 : ℤ) ≤ ⌊if x ≤ ((1 : ℕ) : ℚ) then ((1 : ℕ) : ℚ) else x⌋ := by
      rw [Int.le_floor]
      simpa using h
    simp only [decide_eq_true_eq]
    have : (0 : ℤ) < ⌊if x ≤ ((1 : ℕ) : ℚ) then ((1 : ℕ) : ℚ) else x⌋ := by omega
    exact_mod_cast this

namespace F64

theorem ofNat_rat (n : Nat) : (ofNat n : ℚ) = n := rfl

theorem max_rat (x y : ℚ) : F64.max x y = if x ≤ y then y else x := rfl

theorem clamp_rat (x lo hi : ℚ) : clamp x lo hi = if x < lo then lo else if hi < x then hi else x :=
  rfl

end F64
