-- SUMMARY: Finite maps with unique keys (retain, adjust) and vectors that grow on access.
import Mathlib.Algebra.Order.BigOperators.Group.List
import Mathlib.Algebra.Order.Ring.Nat
import Mathlib.Data.List.AList
import Mathlib.Tactic.Common

/-!
# Containers

Maps are Mathlib's association lists without repeated keys. They stand for hash
maps, whose iteration order nothing here depends on, and for ordered maps whose
iteration sorts the entries at the point of use.
-/

universe u v

/-- A finite map from `K` to `V`. -/
abbrev AssocMap (K : Type u) (V : Type v) := AList (fun _ : K => V)

namespace AssocMap

variable {K : Type u} {V : Type v} [DecidableEq K]

/-- The number of entries. -/
def size (m : AssocMap K V) : Nat := m.entries.length

/-- Keep the entries that satisfy `p`. -/
def retain (p : K → V → Bool) (m : AssocMap K V) : AssocMap K V :=
  ⟨m.entries.filter (fun e => p e.1 e.2), m.nodupKeys.sublist List.filter_sublist⟩

/-- Insert unless the key is present. -/
def insertIfNew (k : K) (v : V) (m : AssocMap K V) : AssocMap K V :=
  match m.lookup k with
  | some _ => m
  | none => m.insert k v

theorem mem_entries_iff {m : AssocMap K V} {k : K} {v : V} :
    (⟨k, v⟩ : Sigma fun _ : K => V) ∈ m.entries ↔ m.lookup k = some v := by
  rw [← AList.mem_lookup_iff, Option.mem_def]

theorem lookup_retain (p : K → V → Bool) (m : AssocMap K V) (k : K) :
    (retain p m).lookup k = (m.lookup k).filter (p k) := by
  ext v
  rw [← mem_entries_iff, Option.filter_eq_some_iff, ← mem_entries_iff]
  simp [retain]

theorem lookup_retain_some {p : K → V → Bool} {m : AssocMap K V} {k : K} {v : V}
    (h : (retain p m).lookup k = some v) : m.lookup k = some v := by
  rw [lookup_retain, Option.filter_eq_some_iff] at h
  exact h.1

theorem lookup_insert_eq (m : AssocMap K V) (k k' : K) (v : V) :
    (m.insert k v).lookup k' = if k' = k then some v else m.lookup k' := by
  split
  · next h => subst h; exact AList.lookup_insert m
  · next h => exact AList.lookup_insert_ne h

theorem lookup_erase_eq (m : AssocMap K V) (k k' : K) :
    (m.erase k).lookup k' = if k' = k then none else m.lookup k' := by
  split
  · next h => subst h; exact AList.lookup_erase k' m
  · next h => exact AList.lookup_erase_ne h

theorem lookup_insertIfNew (m : AssocMap K V) (k k' : K) (v : V) :
    (insertIfNew k v m).lookup k' =
      if k' = k then some ((m.lookup k).getD v) else m.lookup k' := by
  unfold insertIfNew
  by_cases he : k' = k
  · subst he
    cases hk : m.lookup k' with
    | none => simp
    | some w => simp [hk]
  · rw [if_neg he]
    split
    · rfl
    · rw [lookup_insert_eq, if_neg he]

/-- The number of entries whose value satisfies `p`. -/
def countBy (p : V → Bool) (m : AssocMap K V) : Nat := m.entries.countP fun e => p e.2

theorem countP_kerase (p : V → Bool) (k : K) (l : List (Sigma fun _ : K => V)) :
    (l.kerase k).countP (fun e => p e.2) + ((l.dlookup k).any p).toNat
      = l.countP fun e => p e.2 := by
  induction l with
  | nil => rfl
  | cons e l ih =>
    obtain ⟨k', v⟩ := e
    by_cases hk : k = k'
    · subst hk
      have herase : List.kerase k (⟨k, v⟩ :: l) = l := List.kerase_cons_eq rfl
      rw [herase, List.dlookup_cons_eq, List.countP_cons]
      cases hv : p v <;> simp [hv]
    · rw [List.kerase_cons_ne hk, List.dlookup_cons_ne l ⟨k', v⟩ hk, List.countP_cons,
        List.countP_cons, ← ih]
      omega

/-- Erasing a key takes its value off the count. -/
theorem countBy_erase (p : V → Bool) (m : AssocMap K V) (k : K) :
    countBy p (m.erase k) + ((m.lookup k).any p).toNat = countBy p m :=
  countP_kerase p k m.entries

/-- Inserting puts the new value in the place of the old one. -/
theorem countBy_insert (p : V → Bool) (m : AssocMap K V) (k : K) (v : V) :
    countBy p (m.insert k v) + ((m.lookup k).any p).toNat = countBy p m + (p v).toNat := by
  have herase := countBy_erase p m k
  have hinsert : countBy p (m.insert k v) = countBy p (m.erase k) + (p v).toNat := by
    unfold countBy
    rw [AList.entries_insert, List.countP_cons]
    cases p v <;> rfl
  omega

/-- The values of a map, taken as numbers and added up. -/
def sumBy (f : V → Nat) (m : AssocMap K V) : Nat := (m.entries.map fun e => f e.2).sum

theorem sum_kerase (f : V → Nat) (k : K) (l : List (Sigma fun _ : K => V)) :
    ((l.kerase k).map fun e => f e.2).sum + ((l.dlookup k).map f).getD 0
      = (l.map fun e => f e.2).sum := by
  induction l with
  | nil => rfl
  | cons e l ih =>
    obtain ⟨k', v⟩ := e
    by_cases hk : k = k'
    · subst hk
      have herase : List.kerase k (⟨k, v⟩ :: l) = l := List.kerase_cons_eq rfl
      rw [herase, List.dlookup_cons_eq, List.map_cons, List.sum_cons, Option.map_some,
        Option.getD_some, Nat.add_comm]
    · rw [List.kerase_cons_ne hk, List.dlookup_cons_ne l ⟨k', v⟩ hk, List.map_cons, List.map_cons,
        List.sum_cons, List.sum_cons, Nat.add_assoc, ih]

/-- Inserting puts the new value in the place of the old one. -/
theorem sumBy_insert (f : V → Nat) (m : AssocMap K V) (k : K) (v : V) :
    sumBy f (m.insert k v) + ((m.lookup k).map f).getD 0 = sumBy f m + f v := by
  have herase := sum_kerase f k m.entries
  have hinsert : sumBy f (m.insert k v) = f v + ((m.entries.kerase k).map fun e => f e.2).sum := by
    rw [sumBy, AList.entries_insert, List.map_cons, List.sum_cons]
  have hlookup : m.lookup k = m.entries.dlookup k := rfl
  rw [hinsert, hlookup, Nat.add_assoc, herase, Nat.add_comm]
  rfl

omit [DecidableEq K] in
theorem length_keys (m : AssocMap K V) : m.keys.length = m.size := List.length_map ..

/-- A map with no further keys has no more entries. -/
theorem size_le_of_keys {m m' : AssocMap K V}
    (h : ∀ k, (m'.lookup k).isSome = true → (m.lookup k).isSome = true) : m'.size ≤ m.size := by
  rw [← length_keys, ← length_keys]
  refine (List.subperm_of_subset m'.keys_nodup fun k hk => ?_).length_le
  exact AList.mem_keys.mp (AList.lookup_isSome.mp (h k (AList.lookup_isSome.mpr
    (AList.mem_keys.mpr hk))))

/-- An entry for a new key, or in the place of an old one. -/
theorem size_insert (m : AssocMap K V) (k : K) (v : V) :
    size (m.insert k v) = if (m.lookup k).isNone then m.size + 1 else m.size := by
  have hcount : ∀ m : AssocMap K V, countBy (fun _ => true) m = m.size := fun m =>
    congrFun List.countP_true m.entries
  have hinsert := countBy_insert (fun _ => true) m k v
  rw [hcount, hcount] at hinsert
  cases hlookup : m.lookup k with
  | none =>
    rw [hlookup] at hinsert
    exact hinsert
  | some old =>
    rw [hlookup] at hinsert
    exact Nat.add_right_cancel hinsert

theorem size_insert_le (m : AssocMap K V) (k : K) (v : V) :
    size (m.insert k v) ≤ m.size + 1 := by
  rw [size, AList.entries_insert, List.length_cons, size]
  exact Nat.succ_le_succ (List.kerase_sublist k m.entries).length_le

theorem size_insertIfNew_le (m : AssocMap K V) (k : K) (v : V) :
    size (insertIfNew k v m) ≤ m.size + 1 := by
  unfold insertIfNew
  split
  · exact Nat.le_succ _
  · exact size_insert_le m k v

theorem size_erase_le (m : AssocMap K V) (k : K) : size (m.erase k) ≤ m.size :=
  (List.kerase_sublist k m.entries).length_le

/-- Taking a present key out leaves one entry less. -/
theorem size_erase {m : AssocMap K V} {k : K} {v : V} (h : m.lookup k = some v) :
    size (m.erase k) + 1 = m.size := by
  have hmem : k ∈ m.keys := AList.mem_keys.mp (AList.lookup_isSome.mp (by rw [h]; rfl))
  have hpos := List.length_pos_of_mem hmem
  rw [← length_keys, ← length_keys, AList.keys_erase, List.length_erase_of_mem hmem]
  omega

/-- A map of positive size has an entry. -/
theorem exists_lookup_of_size_pos {m : AssocMap K V} (h : 0 < m.size) :
    ∃ k v, m.lookup k = some v := by
  obtain ⟨⟨k, v⟩, hmem⟩ := List.exists_mem_of_length_pos h
  exact ⟨k, v, mem_entries_iff.mp hmem⟩

/-- The values of the keys add up to more in a map that has the keys with greater values. -/
theorem sum_lookup_le {m m' : AssocMap K V} (f : V → Nat) {ks ks' : List K}
    (hks : ks.Perm m.keys) (hks' : ks'.Perm m'.keys)
    (h : ∀ k v, m.lookup k = some v → ∃ v', m'.lookup k = some v' ∧ f v ≤ f v') :
    ((ks.filterMap m.lookup).map f).sum ≤ ((ks'.filterMap m'.lookup).map f).sum := by
  have hsum : ∀ (m : AssocMap K V) (ks : List K), ((ks.filterMap m.lookup).map f).sum
      = (ks.map fun k => ((m.lookup k).map f).getD 0).sum := by
    intro m ks
    induction ks with
    | nil => rfl
    | cons k ks ih => cases hk : m.lookup k <;> simp [hk, ih]
  rw [hsum, hsum, (hks.map _).sum_eq, (hks'.map _).sum_eq]
  have hkeys : m.keys ⊆ m'.keys := by
    intro k hk
    obtain ⟨v, hv⟩ := Option.isSome_iff_exists.mp (AList.lookup_isSome.mpr (AList.mem_keys.mpr hk))
    obtain ⟨v', hv', -⟩ := h k v hv
    exact AList.mem_keys.mp (AList.lookup_isSome.mp (Option.isSome_of_mem hv'))
  obtain ⟨l, hperm, hsub⟩ := List.subperm_of_subset m.keys_nodup hkeys
  calc (m.keys.map fun k => ((m.lookup k).map f).getD 0).sum
      ≤ (m.keys.map fun k => ((m'.lookup k).map f).getD 0).sum := by
        refine List.sum_le_sum fun k _ => ?_
        cases hv : m.lookup k with
        | none => exact Nat.zero_le _
        | some v =>
          obtain ⟨v', hv', hle⟩ := h k v hv
          rw [hv']
          exact hle
    _ = (l.map fun k => ((m'.lookup k).map f).getD 0).sum := (hperm.map _).sum_eq.symm
    _ ≤ (m'.keys.map fun k => ((m'.lookup k).map f).getD 0).sum :=
        (hsub.map _).sum_le_sum fun _ _ => Nat.zero_le _

end AssocMap

/-! ## Growing vectors -/

namespace List

variable {α : Type u}

/-- `Vec::resize` to at least `n` entries, where the caller never shrinks. -/
def growTo (n : Nat) (d : α) (l : List α) : List α :=
  l ++ List.replicate (n - l.length) d

/-- Write position `i`, growing the list with `d` up to it first. -/
def setGrow (i : Nat) (d v : α) (l : List α) : List α :=
  (l.growTo (i + 1) d).set i v

theorem getD_growTo (n i : Nat) (d : α) (l : List α) : (l.growTo n d).getD i d = l.getD i d := by
  unfold growTo
  rcases Nat.lt_or_ge i l.length with h | h
  · simp [List.getD_eq_getElem?_getD, List.getElem?_append_left h]
  · simp only [List.getD_eq_getElem?_getD, List.getElem?_append_right h,
      List.getElem?_eq_none h, List.getElem?_replicate]
    split <;> rfl

theorem length_growTo (n : Nat) (d : α) (l : List α) :
    (l.growTo n d).length = max l.length n := by
  simp only [growTo, List.length_append, List.length_replicate]
  omega

theorem getD_setGrow (i j : Nat) (d v : α) (l : List α) :
    (l.setGrow i d v).getD j d = if j = i then v else l.getD j d := by
  unfold setGrow
  have hlen : i < (l.growTo (i + 1) d).length := by rw [length_growTo]; omega
  split
  · next h =>
    subst h
    simp [List.getD_eq_getElem?_getD, hlen]
  · next h =>
    rw [← getD_growTo (i + 1) j d l]
    simp only [List.getD_eq_getElem?_getD, List.getElem?_set_ne (Ne.symm h)]

end List
