-- SUMMARY: Priority queues that serve the smallest key first and leave ties open, with a sorted-list implementation.
import Mathlib.Data.List.Sort

/-!
# Priority queues

The interface of a binary heap that serves the smallest key. Which of several
entries of the smallest key `pop` returns, and in which order the entries are
stored, is left to the implementation: the laws fix the contents up to order.
-/

/-- A priority queue of type `H` for entries `α` with keys in `Nat`. -/
class MinHeap (H : Type) (α : outParam Type) (key : outParam (α → Nat)) where
  empty : H
  push : H → α → H
  pop : H → Option (α × H)
  toList : H → List α
  toList_empty : toList empty = []
  toList_push : ∀ h x, (toList (push h x)).Perm (x :: toList h)
  pop_none : ∀ h, pop h = none → toList h = []
  pop_some : ∀ h x h', pop h = some (x, h') →
    (toList h).Perm (x :: toList h') ∧ ∀ y ∈ toList h, key x ≤ key y

namespace MinHeap

variable {H α : Type} {key : α → Nat} [MinHeap H α key]

/-- The number of entries. -/
def size (h : H) : Nat := (toList h).length

@[simp] theorem size_empty : size (empty : H) = 0 := by
  simp [size, toList_empty]

theorem size_pop {h h' : H} {x : α} (hp : pop h = some (x, h')) : size h = size h' + 1 := by
  simpa [size] using (pop_some h x h' hp).1.length_eq

theorem mem_pop {h h' : H} {x y : α} (hp : pop h = some (x, h')) :
    y ∈ toList h ↔ y = x ∨ y ∈ toList h' := by
  rw [(pop_some h x h' hp).1.mem_iff, List.mem_cons]

end MinHeap

/-! ## Sorted lists as priority queues -/

/-- Entries in ascending order of their keys. -/
structure SortedHeap (α : Type) (key : α → Nat) where
  items : List α
  sorted : items.Pairwise (fun x y => key x ≤ key y)

namespace SortedHeap

variable {α : Type} {key : α → Nat}

/-- Insert behind every entry of the same or a smaller key. -/
def insertItem (key : α → Nat) (x : α) : List α → List α
  | [] => [x]
  | y :: ys => if key x < key y then x :: y :: ys else y :: insertItem key x ys

theorem insertItem_perm (x : α) (l : List α) : (insertItem key x l).Perm (x :: l) := by
  induction l with
  | nil => exact List.Perm.refl _
  | cons y ys ih =>
    unfold insertItem
    split
    · exact List.Perm.refl _
    · exact (ih.cons y).trans (List.Perm.swap x y ys)

theorem insertItem_sorted (x : α) {l : List α} (h : l.Pairwise (fun x y => key x ≤ key y)) :
    (insertItem key x l).Pairwise (fun x y => key x ≤ key y) := by
  induction l with
  | nil => simp [insertItem]
  | cons y ys ih =>
    rw [List.pairwise_cons] at h
    unfold insertItem
    split
    · next hlt =>
      refine List.pairwise_cons.mpr ⟨?_, List.pairwise_cons.mpr h⟩
      intro z hz
      rcases List.mem_cons.mp hz with rfl | hz
      · omega
      · have := h.1 z hz; omega
    · next hge =>
      refine List.pairwise_cons.mpr ⟨?_, ih h.2⟩
      intro z hz
      rcases List.mem_cons.mp ((insertItem_perm x ys).mem_iff.mp hz) with rfl | hz
      · omega
      · exact h.1 z hz

/-- Remove the first entry. -/
def popItem (h : SortedHeap α key) : Option (α × SortedHeap α key) :=
  match h with
  | ⟨[], _⟩ => none
  | ⟨x :: xs, hs⟩ => some (x, ⟨xs, (List.pairwise_cons.mp hs).2⟩)

instance : MinHeap (SortedHeap α key) α key where
  empty := ⟨[], List.Pairwise.nil⟩
  push h x := ⟨insertItem key x h.items, insertItem_sorted x h.sorted⟩
  pop := popItem
  toList := items
  toList_empty := rfl
  toList_push h x := insertItem_perm x h.items
  pop_none := by
    rintro ⟨items, hs⟩ h
    cases items with
    | nil => rfl
    | cons x xs => simp [popItem] at h
  pop_some := by
    rintro ⟨items, hs⟩ x h' h
    cases items with
    | nil => simp [popItem] at h
    | cons y ys =>
      simp only [popItem, Option.some.injEq, Prod.mk.injEq] at h
      obtain ⟨rfl, rfl⟩ := h
      refine ⟨List.Perm.refl _, ?_⟩
      intro z hz
      rcases List.mem_cons.mp hz with rfl | hz
      · exact Nat.le_refl _
      · exact (List.pairwise_cons.mp hs).1 z hz

end SortedHeap
