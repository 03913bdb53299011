-- SUMMARY: Counters that stop at a cap: when one rises, and lists of them.
import Mathlib.Algebra.GroupWithZero.Nat
import Mathlib.Data.List.Forall2

/-!
# Saturating counters

A counter with a cap is added to until it reaches the cap. `Rises` compares two of
its values: a value within the cap becomes one that is no smaller and still within.
-/

/-- A value within the cap becomes one that is no smaller and within it. -/
def Rises (cap a b : Nat) : Prop := a ≤ cap → a ≤ b ∧ b ≤ cap

namespace Rises

variable {cap a b c : Nat}

@[simp] theorem refl (cap a : Nat) : Rises cap a a := fun h => ⟨Nat.le_refl a, h⟩

theorem trans (h : Rises cap a b) (h' : Rises cap b c) : Rises cap a c := fun ha =>
  ⟨Nat.le_trans (h ha).1 (h' (h ha).2).1, (h' (h ha).2).2⟩

@[simp] theorem min_add (cap a k : Nat) : Rises cap a (min (a + k) cap) := fun ha =>
  ⟨Nat.le_min.mpr ⟨Nat.le_add_right a k, ha⟩, Nat.min_le_right _ _⟩

/-- A field to which the values of a list are added makes the capped sum. -/
theorem foldl_add_eq {α β : Type*} {add : α → β → α} {f : α → Nat} {g : β → Nat}
    (hadd : ∀ total v, f (add total v) = min (f total + g v) cap) (vs : List β) {total : α}
    (h : f total ≤ cap) : f (vs.foldl add total) = min (f total + (vs.map g).sum) cap := by
  induction vs generalizing total with
  | nil => simp [h]
  | cons v vs ih =>
    have hnext : f (add total v) ≤ cap := hadd total v ▸ Nat.min_le_right _ _
    rw [List.foldl_cons, ih hnext, hadd, List.map_cons, List.sum_cons]
    omega

end Rises

/-- The counters are within the cap. -/
def Within (cap : Nat) (as : List Nat) : Prop := ∀ a ∈ as, a ≤ cap

/-- The counters of one list rise to those of the other. -/
def RiseTogether (cap : Nat) (as bs : List Nat) : Prop := List.Forall₂ (Rises cap) as bs

namespace RiseTogether

variable {cap : Nat} {as bs cs : List Nat}

@[simp] theorem nil (cap : Nat) : RiseTogether cap [] [] := List.Forall₂.nil

@[simp] theorem cons_iff {a b : Nat} :
    RiseTogether cap (a :: as) (b :: bs) ↔ Rises cap a b ∧ RiseTogether cap as bs :=
  List.forall₂_cons

theorem refl (cap : Nat) (as : List Nat) : RiseTogether cap as as :=
  List.forall₂_same.mpr fun a _ => Rises.refl cap a

theorem trans (h : RiseTogether cap as bs) (h' : RiseTogether cap bs cs) :
    RiseTogether cap as cs := by
  induction h generalizing cs with
  | nil => exact h'
  | cons hab _ ih =>
    cases h' with
    | cons hbc htail => exact List.Forall₂.cons (hab.trans hbc) (ih htail)

theorem within (h : RiseTogether cap as bs) (ha : Within cap as) : Within cap bs := by
  induction h with
  | nil => exact ha
  | cons hab _ ih =>
    obtain ⟨hhead, htail⟩ := List.forall_mem_cons.mp ha
    exact List.forall_mem_cons.mpr ⟨(hab hhead).2, ih htail⟩

theorem le (h : RiseTogether cap as bs) (ha : Within cap as) : List.Forall₂ (· ≤ ·) as bs := by
  induction h with
  | nil => exact .nil
  | cons hab _ ih =>
    obtain ⟨hhead, htail⟩ := List.forall_mem_cons.mp ha
    exact .cons (hab hhead).1 (ih htail)

end RiseTogether
