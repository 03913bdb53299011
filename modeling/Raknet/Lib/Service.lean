-- SUMMARY: Bags served by smallest key: when the entries of one class leave in the order in which they came.
import Mathlib.Data.Multiset.AddSub
import Mathlib.Data.Multiset.Filter

/-!
# Service by smallest key

Entries wait in a bag and leave one by one. Among the entries of a class, a smallest key
goes first. If the keys of the class grow in the order of arrival, the class is served
first in, first out.
-/

namespace Service

variable {α : Type*} {p : α → Bool} {key : α → Nat}

/-- The list leaves the bag, one entry after the other, down to the second bag. An entry
    of the class `p` leaves only if no other one of the class has a smaller key. -/
inductive Served (p : α → Bool) (key : α → Nat) : Multiset α → List α → Multiset α → Prop
  | nil (bag : Multiset α) : Served p key bag [] bag
  | cons {bag bag' : Multiset α} {x : α} {rest : List α}
      (hmin : p x = true → ∀ y ∈ bag, p y = true → key x ≤ key y)
      (hrest : Served p key bag rest bag') : Served p key (x ::ₘ bag) (x :: rest) bag'

theorem Served.add_eq {bag bag' : Multiset α} {l : List α} (h : Served p key bag l bag') :
    bag = (l : Multiset α) + bag' := by
  induction h with
  | nil bag => rw [Multiset.coe_nil, Multiset.zero_add]
  | cons _ _ ih => rw [ih, ← Multiset.cons_coe, Multiset.cons_add]

theorem Served.trans {a b c : Multiset α} {l l' : List α} (h : Served p key a l b)
    (h' : Served p key b l' c) : Served p key a (l ++ l') c := by
  induction h with
  | nil bag => exact h'
  | cons hmin _ ih => exact .cons hmin (ih h')

/-- Entries of the class that wait in the order of their keys leave in that order. -/
theorem Served.in_order {bag bag' : Multiset α} {taken : List α} (h : Served p key bag taken bag')
    {waiting : List α} (hbag : (waiting : Multiset α) = bag)
    (hkeys : (waiting.filter p).Pairwise fun x y => key x < key y) :
    ∃ waiting' : List α, (waiting' : Multiset α) = bag' ∧
      waiting.filter p = taken.filter p ++ waiting'.filter p := by
  induction h generalizing waiting with
  | nil bag => exact ⟨waiting, hbag, rfl⟩
  | @cons bag bag' x rest hmin _ ih =>
    have hx : x ∈ waiting := by
      rw [← Multiset.mem_coe, hbag]
      exact Multiset.mem_cons_self x bag
    obtain ⟨before, behind, rfl⟩ := List.append_of_mem hx
    have hleft : ((before ++ behind : List α) : Multiset α) = bag := by
      refine (Multiset.cons_inj_right x).mp (Eq.trans ?_ hbag)
      rw [Multiset.cons_coe]
      exact Multiset.coe_eq_coe.mpr List.perm_middle.symm
    have hfilter : (before ++ x :: behind).filter p
        = [x].filter p ++ (before ++ behind).filter p := by
      cases hpx : p x with
      | false => simp [hpx]
      | true =>
        -- Nothing of the class waits in front of `x`: it would have the smaller key.
        have hnone : before.filter p = [] := by
          refine List.eq_nil_iff_forall_not_mem.mpr fun y hy => ?_
          rw [List.filter_append] at hkeys
          have hlt := (List.pairwise_append.mp hkeys).2.2 y hy x (by simp [hpx])
          obtain ⟨hy, hpy⟩ := List.mem_filter.mp hy
          have hle := hmin hpx y (hleft ▸ by simp [hy]) hpy
          exact Nat.lt_irrefl _ (Nat.lt_of_lt_of_le hlt hle)
        simp [hpx, hnone]
    rw [hfilter] at hkeys
    obtain ⟨waiting', hbag', heq⟩ := ih hleft (List.pairwise_append.mp hkeys).2.1
    refine ⟨waiting', hbag', ?_⟩
    rw [hfilter, heq, ← List.append_assoc, ← List.filter_append, List.singleton_append]

end Service
