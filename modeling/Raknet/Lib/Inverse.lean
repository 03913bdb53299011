-- SUMMARY: Two maps that are inverse to each other, and how insertion and removal keep them so.
import Raknet.Lib.Containers

/-!
# Inverse maps

One map takes a key to a value that names a key of the other map (`f`), which leads back.
-/

namespace AssocMap

variable {K K' V : Type} [DecidableEq K] [DecidableEq K']

/-- The value of `k` names `k'` just if `k'` leads back to `k`. -/
def Inverse (f : V → K') (m : AssocMap K V) (m' : AssocMap K' K) : Prop :=
  ∀ k k', (m.lookup k).map f = some k' ↔ m'.lookup k' = some k

namespace Inverse

variable {f : V → K'} {m : AssocMap K V} {m' : AssocMap K' K}

theorem empty (f : V → K') : Inverse f (∅ : AssocMap K V) (∅ : AssocMap K' K) := by
  intro k k'
  constructor
  · intro h
    cases h
  · intro h
    cases h

/-- A new key for a name that is free. -/
theorem insert (h : Inverse f m m') {k : K} {v : V} (hnew : m.lookup k = none)
    (hfree : m'.lookup (f v) = none) : Inverse f (m.insert k v) (m'.insert (f v) k) := by
  intro l l'
  have hold := h l l'
  rw [lookup_insert_eq, lookup_insert_eq]
  by_cases hkey : l = k
  · subst hkey
    rw [if_pos rfl, Option.map_some, Option.some.injEq]
    by_cases hname : l' = f v
    · rw [if_pos hname]
      exact iff_of_true hname.symm rfl
    · rw [hnew] at hold
      rw [if_neg hname, ← hold]
      exact iff_of_false (fun heq => hname heq.symm) (Option.some_ne_none _).symm
  · rw [if_neg hkey]
    by_cases hname : l' = f v
    · subst hname
      rw [if_pos rfl, hold, hfree, Option.some.injEq]
      exact iff_of_false (Option.some_ne_none _).symm fun heq => hkey heq.symm
    · rw [if_neg hname]
      exact hold

/-- Another value with the same name. -/
theorem replace (h : Inverse f m m') {k : K} {v w : V} (hold : m.lookup k = some v)
    (hname : f w = f v) : Inverse f (m.insert k w) m' := by
  intro l l'
  rw [lookup_insert_eq]
  split
  · next hkey =>
    subst hkey
    rw [← h l l', hold, Option.map_some, Option.map_some, hname]
  · exact h l l'

/-- A key and its name are removed together. -/
theorem erase (h : Inverse f m m') {k : K} {v : V} (hthere : m.lookup k = some v) :
    Inverse f (m.erase k) (m'.erase (f v)) := by
  intro l l'
  have hold := h l l'
  have hback : m'.lookup (f v) = some k := (h k (f v)).mp (by rw [hthere]; rfl)
  rw [lookup_erase_eq, lookup_erase_eq]
  by_cases hkey : l = k
  · subst hkey
    rw [if_pos rfl]
    by_cases hname : l' = f v
    · rw [if_pos hname]
      exact iff_of_false (Option.some_ne_none _).symm (Option.some_ne_none _).symm
    · rw [hthere, Option.map_some, Option.some.injEq] at hold
      rw [if_neg hname, ← hold]
      exact iff_of_false (Option.some_ne_none _).symm fun heq => hname heq.symm
  · rw [if_neg hkey]
    by_cases hname : l' = f v
    · subst hname
      rw [if_pos rfl, hold, hback, Option.some.injEq]
      exact iff_of_false (fun heq => hkey heq.symm) (Option.some_ne_none _).symm
    · rw [if_neg hname]
      exact hold

end Inverse

end AssocMap
