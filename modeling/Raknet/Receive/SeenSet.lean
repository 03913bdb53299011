-- SUMMARY: How far the reliable window is the set of the indices it has reported as new.
import Raknet.Receive.Duplicates

/-!
# The window as a set

`see` tells whether an index is new, and `hasSeen` asks for it later. The window is
the set of the indices that were reported as new only until the first index
arrives: an index behind the base is never found again. Ahead of the base the
window is exact, and reports no index as new twice, as long as the base moves
through flags that are all set (`InStep`).
-/

namespace Raknet

/-! ## The window over unbounded indices -/

/-- If everything below `r` has arrived, then `r` is new, and nothing but `r` is
    missing below an index that has arrived. -/
def OnlyGap (seen : List Nat) (r : Nat) : Prop :=
  (∀ j < r, j ∈ seen) → r ∉ seen ∧ ∀ i ∈ seen, ∀ j < i, j ∈ seen ∨ j = r

instance (seen : List Nat) (r : Nat) : Decidable (OnlyGap seen r) :=
  inferInstanceAs (Decidable (_ → _))

namespace ReliableTracker

/-- The tracker has the arrivals `seen` exactly: all below `base`, not `base`,
    and above it those with a flag. The last flag is set. -/
structure Exact (t : ReliableTracker) (base : Nat) (seen : List Nat) : Prop where
  base_eq : t.base = Sequence24.new base
  below : ∀ j < base, j ∈ seen
  fresh : base ∉ seen
  flag : ∀ o, t.seenAhead.getD o false = true ↔ base + 1 + o ∈ seen
  last : ∀ o, o + 1 = t.seenAhead.length → t.seenAhead.getD o false = true

variable {t : ReliableTracker} {base r : Nat} {seen : List Nat}

theorem new_exact (maxWindow : Nat) : (new maxWindow).Exact 0 [] where
  base_eq := rfl
  below := fun _ hj => absurd hj (Nat.not_lt_zero _)
  fresh := List.not_mem_nil
  flag := fun o => by simp [new]
  last := fun o ho => absurd ho (Nat.succ_ne_zero o)

theorem Exact.congr {seen' : List Nat} (h : t.Exact base seen)
    (hmem : ∀ i, i ∈ seen' ↔ i ∈ seen) : t.Exact base seen' where
  base_eq := h.base_eq
  below := fun j hj => (hmem j).mpr (h.below j hj)
  fresh := fun hb => h.fresh ((hmem base).mp hb)
  flag := fun o => (h.flag o).trans (hmem _).symm
  last := h.last

theorem Exact.base_le (h : t.Exact base seen) (hgap : OnlyGap seen r) : base ≤ r := by
  by_contra hlt
  rw [Nat.not_le] at hlt
  exact (hgap fun j hj => h.below j (Nat.lt_trans hj hlt)).1 (h.below r hlt)

/-- The distance to an index above the base, within one turn. -/
theorem Exact.distance (h : t.Exact base seen) (hle : base ≤ r) (hr : r < 16777216) :
    t.base.distanceTo (Sequence24.new r) = r - base := by
  rw [h.base_eq]
  exact Sequence24.distanceTo_new hle (by omega)

theorem Exact.ne_base (h : t.Exact base seen) (hlt : base < r) (hr : r < 16777216) :
    Sequence24.new r ≠ t.base := by
  intro heq
  have hdistance := h.distance (Nat.le_of_lt hlt) hr
  rw [heq, Sequence24.distanceTo_self] at hdistance
  omega

/-- The filter reports exactly the arrivals. -/
theorem Exact.hasSeen_iff (h : t.Exact base seen) (hgap : OnlyGap seen r)
    (hwindow : r ≤ t.maxWindow) (hr : r < 16777216) :
    t.hasSeen (Sequence24.new r) = true ↔ r ∈ seen := by
  rcases Nat.eq_or_lt_of_le (h.base_le hgap) with rfl | hlt
  · -- The base is new.
    have hbase : Sequence24.new base = t.base := h.base_eq.symm
    simp only [hasSeen, hbase, if_true, Bool.false_eq_true, false_iff]
    exact h.fresh
  · have hdistance := h.distance (Nat.le_of_lt hlt) hr
    have hpos : r - base ≠ 0 := by omega
    have hnear : ¬ r - base > t.maxWindow := by omega
    simp only [hasSeen, h.ne_base hlt hr, hdistance, hpos, hnear, if_false]
    rw [h.flag]
    have hindex : base + 1 + (r - base - 1) = r := by omega
    rw [hindex]

/-- An index that fills the only gap finds every flag set. -/
theorem Exact.all_set (h : t.Exact base seen) (hgap : OnlyGap seen base) :
    ∀ flag ∈ t.seenAhead, flag = true := by
  have hclosed := (hgap h.below).2
  intro flag hflag
  obtain ⟨o, ho, hget⟩ := List.getElem_of_mem hflag
  have hgetD : t.seenAhead.getD o false = flag := by
    rw [List.getD_eq_getElem?_getD, List.getElem?_eq_getElem ho, hget, Option.getD_some]
  rw [← hgetD, h.flag]
  -- The last flag is set, and no other index is missing below it.
  have hlast : base + 1 + (t.seenAhead.length - 1) ∈ seen := by
    rw [← h.flag]
    exact h.last _ (by omega)
  rcases Nat.eq_or_lt_of_le (show o ≤ t.seenAhead.length - 1 by omega) with heq | hlt
  · rw [heq]
    exact hlast
  · rcases hclosed _ hlast (base + 1 + o) (by omega) with hmem | heq
    · exact hmem
    · omega

/-- The base moves behind the flags if they are all set. -/
theorem Exact.see_base_of_set (h : t.Exact base seen) (hset : ∀ flag ∈ t.seenAhead, flag = true) :
    (t.see (Sequence24.new base)).2.Exact (base + 1 + t.seenAhead.length) (seen ++ [base]) := by
  rw [← h.base_eq, ReliableTracker.see_base hset]
  have hmem : ∀ o, base + 1 + o ∈ seen ++ [base] ↔ t.seenAhead.getD o false = true := by
    intro o
    rw [h.flag, List.mem_append, List.mem_singleton]
    exact or_iff_left (by omega)
  have hbeyond : ∀ o, t.seenAhead.length ≤ o → t.seenAhead.getD o false = false := by
    intro o ho
    rw [List.getD_eq_getElem?_getD, List.getElem?_eq_none ho, Option.getD_none]
  refine ⟨?_, ?_, ?_, ?_, ?_⟩
  · -- The unbounded base is the value of the wrapping one.
    rw [h.base_eq]
    apply Sequence24.ext_value
    simp only [Sequence24.value_new]
    omega
  · intro j hj
    rcases Nat.lt_trichotomy j base with hlt | rfl | hgt
    · exact List.mem_append_left [base] (h.below j hlt)
    · exact List.mem_append_right seen (List.mem_singleton_self j)
    · obtain ⟨o, rfl⟩ : ∃ o, j = base + 1 + o := ⟨j - base - 1, by omega⟩
      have ho : o < t.seenAhead.length := by omega
      rw [hmem, List.getD_eq_getElem?_getD, List.getElem?_eq_getElem ho, Option.getD_some]
      exact hset _ (List.getElem_mem ho)
  · rw [hmem, hbeyond _ (Nat.le_refl _)]
    exact Bool.false_ne_true
  · intro o
    have hindex : base + 1 + t.seenAhead.length + 1 + o
        = base + 1 + (t.seenAhead.length + 1 + o) := by omega
    rw [hindex, hmem, hbeyond (t.seenAhead.length + 1 + o) (by omega)]
    rfl
  · intro o ho
    cases ho

theorem Exact.see_ahead (h : t.Exact base seen) (hlt : base < r)
    (hwindow : r ≤ base + t.maxWindow) (hr : r < 16777216) :
    (t.see (Sequence24.new r)).2.Exact base (seen ++ [r]) := by
  have hdistance := h.distance (Nat.le_of_lt hlt) hr
  rw [ReliableTracker.see_ahead (h.ne_base hlt hr) (by omega), hdistance]
  refine ⟨h.base_eq, ?_, ?_, ?_, ?_⟩
  · intro j hj
    exact List.mem_append_left [r] (h.below j hj)
  · rw [List.mem_append, List.mem_singleton, not_or]
    exact ⟨h.fresh, by omega⟩
  · intro o
    dsimp only
    rw [List.getD_setGrow, List.mem_append, List.mem_singleton]
    split
    · next heq =>
      have hindex : base + 1 + o = r := by omega
      simp [hindex]
    · next hne =>
      rw [h.flag]
      exact (or_iff_left (by omega)).symm
  · intro o ho
    have hlength : (t.seenAhead.setGrow (r - base - 1) false true).length
        = max t.seenAhead.length (r - base - 1 + 1) := by
      rw [List.setGrow, List.length_set, List.length_growTo]
    dsimp only at ho ⊢
    rw [hlength] at ho
    rw [List.getD_setGrow]
    split
    · rfl
    · exact h.last o (by omega)

/-- Recording a new index keeps the tracker exact. -/
theorem Exact.see_new (h : t.Exact base seen) (hgap : OnlyGap seen r) (hwindow : r ≤ t.maxWindow)
    (hr : r < 16777216) :
    ∃ base', (t.see (Sequence24.new r)).2.Exact base' (seen ++ [r]) := by
  rcases Nat.eq_or_lt_of_le (h.base_le hgap) with rfl | hlt
  · exact ⟨_, h.see_base_of_set (h.all_set hgap)⟩
  · exact ⟨base, h.see_ahead hlt (by omega) hr⟩

theorem see_maxWindow (t : ReliableTracker) (r : Sequence24) :
    (t.see r).2.maxWindow = t.maxWindow := by
  unfold see
  dsimp only
  split
  · rfl
  · split
    · rfl
    · generalize (if t.seenAhead.length ≤ t.base.distanceTo r - 1 then
        t.seenAhead.growTo (t.base.distanceTo r - 1 + 1) false else t.seenAhead) = flags
      split <;> rfl

/-! ## Reported indices -/

/-- The indices that were reported as new, in order. -/
def reported (t : ReliableTracker) (rs : List Sequence24) : List Sequence24 :=
  machine.gather (fun t r => if (t.see r).1 then [r] else []) t rs

/-- Behind these recordings the window is the set of the reported indices, as far as
    it reaches and behind the base, and none was reported twice. -/
structure IsSeenSet (maxWindow : Nat) (rs : List Sequence24) : Prop where
  seen : ∀ r, r.value ≤ (machine.exec (new maxWindow) rs).base.value + maxWindow →
    ((machine.exec (new maxWindow) rs).hasSeen r = true ↔ r ∈ (new maxWindow).reported rs)
  once : ((new maxWindow).reported rs).Nodup

theorem see_base_reports (t : ReliableTracker) : (t.see t.base).1 = true := by
  unfold see
  rw [if_pos rfl]

theorem see_beyond_reports {t : ReliableTracker} {r : Sequence24} (hne : r ≠ t.base)
    (h : t.maxWindow < t.base.distanceTo r) : (t.see r).1 = false := by
  unfold see
  rw [if_neg hne]
  simp only [gt_iff_lt, h, or_true, if_true]

theorem see_ahead_reports {t : ReliableTracker} {r : Sequence24} (hne : r ≠ t.base)
    (h : t.base.distanceTo r ≤ t.maxWindow) :
    (t.see r).1 = !t.seenAhead.getD (t.base.distanceTo r - 1) false := by
  have hpos : t.base.distanceTo r ≠ 0 := fun hzero =>
    hne (Sequence24.distanceTo_eq_zero.mp hzero).symm
  have hguard : ¬ (t.base.distanceTo r = 0 ∨ t.base.distanceTo r > t.maxWindow) := by omega
  unfold see
  rw [if_neg hne]
  simp only [hguard, if_false]
  generalize t.base.distanceTo r - 1 = offset
  have hgrown : (if t.seenAhead.length ≤ offset then t.seenAhead.growTo (offset + 1) false
      else t.seenAhead).getD offset false = t.seenAhead.getD offset false := by
    split
    · exact List.getD_growTo (offset + 1) offset false t.seenAhead
    · rfl
  rw [hgrown]
  cases t.seenAhead.getD offset false <;> rfl

theorem mem_map_value {seen : List Sequence24} {r : Sequence24} :
    r.value ∈ seen.map Sequence24.value ↔ r ∈ seen :=
  List.mem_map_of_injective fun _ _ h => Sequence24.ext_value h

/-- The tracker has exactly the indices `seen`, each of the lower half and only once. -/
structure Tracks (t : ReliableTracker) (base : Nat) (seen : List Sequence24) : Prop where
  exact : t.Exact base (seen.map Sequence24.value)
  small : ∀ r ∈ seen, r.value < 8388608
  nodup : seen.Nodup

theorem new_tracks (maxWindow : Nat) : (new maxWindow).Tracks 0 [] :=
  ⟨new_exact maxWindow, nofun, List.nodup_nil⟩

namespace Tracks

variable {seen : List Sequence24} {r : Sequence24}

theorem base_le (h : t.Tracks base seen) : base ≤ 8388608 := by
  by_contra hlt
  obtain ⟨r, hr, hvalue⟩ := List.mem_map.mp (h.exact.below 8388608 (by omega))
  have := h.small r hr
  omega

theorem concat (h : t.Tracks base seen) {t' : ReliableTracker} {base' : Nat}
    (hexact : t'.Exact base' (seen.map Sequence24.value ++ [r.value])) (hr : r.value < 8388608)
    (hnew : r ∉ seen) : t'.Tracks base' (seen ++ [r]) where
  exact := by
    rw [List.map_append]
    exact hexact
  small := by
    intro r' hr'
    rcases List.mem_append.mp hr' with hr' | hr'
    · exact h.small r' hr'
    · rw [List.mem_singleton.mp hr']
      exact hr
  nodup := h.nodup.append (List.nodup_singleton r) (List.disjoint_singleton.mpr hnew)

/-- Ahead of the base the flag of an index says whether it is new. -/
theorem see_ahead (h : t.Tracks base seen) (hlt : base < r.value) (hr : r.value < 8388608) :
    (t.see r).2.Tracks base (seen ++ if (t.see r).1 then [r] else []) := by
  have hnew : Sequence24.new r.value = r := Sequence24.new_value r
  have hne : r ≠ t.base := hnew ▸ h.exact.ne_base hlt (by omega)
  have hdistance : t.base.distanceTo r = r.value - base := by
    have := h.exact.distance (Nat.le_of_lt hlt) (by omega : r.value < 16777216)
    rwa [hnew] at this
  rcases Nat.lt_or_ge t.maxWindow (t.base.distanceTo r) with hfar | hnear
  · rw [see_beyond hne hfar, see_beyond_reports hne hfar, if_neg Bool.false_ne_true,
      List.append_nil]
    exact h
  · have hseen : t.seenAhead.getD (t.base.distanceTo r - 1) false = true ↔ r ∈ seen := by
      rw [h.exact.flag, hdistance, ← mem_map_value]
      have hindex : base + 1 + (r.value - base - 1) = r.value := by omega
      rw [hindex]
    have hexact := h.exact.see_ahead hlt (by omega) (by omega : r.value < 16777216)
    rw [hnew] at hexact
    rw [see_ahead_reports hne hnear]
    by_cases hmem : r ∈ seen
    · rw [hseen.mpr hmem, Bool.not_true, if_neg Bool.false_ne_true, List.append_nil]
      refine ⟨hexact.congr fun i => ?_, h.small, h.nodup⟩
      rw [List.mem_append, List.mem_singleton]
      refine ⟨.inl, fun hi => hi.elim id fun heq => ?_⟩
      rw [heq]
      exact mem_map_value.mpr hmem
    · rw [Bool.eq_false_iff.mpr (hmem ∘ hseen.mp), Bool.not_false, if_pos rfl]
      exact h.concat hexact hr hmem

/-- The base runs through flags that are all set. -/
theorem see_base (h : t.Tracks base seen) (hbase : r.value = base) (hr : r.value < 8388608)
    (hset : ∀ flag ∈ t.seenAhead, flag = true) :
    (t.see r).2.Tracks (base + 1 + t.seenAhead.length)
      (seen ++ if (t.see r).1 then [r] else []) := by
  have hnew : Sequence24.new base = r := by
    rw [← hbase]
    exact Sequence24.new_value r
  have hexact := h.exact.see_base_of_set hset
  rw [hnew] at hexact
  have hreports := see_base_reports t
  rw [h.exact.base_eq, hnew] at hreports
  rw [hreports, if_pos rfl]
  refine h.concat (hbase ▸ hexact) hr fun hmem => h.exact.fresh ?_
  rw [← hbase]
  exact mem_map_value.mpr hmem

theorem value_base (h : t.Tracks base seen) : t.base.value = base := by
  have hle := h.base_le
  rw [h.exact.base_eq, Sequence24.value_new]
  omega

/-- An index behind the base is beyond a window of less than half a turn. -/
theorem see_behind (h : t.Tracks base seen) (hlt : r.value < base)
    (hwindow : t.maxWindow < 8388608) :
    (t.see r).2.Tracks base (seen ++ if (t.see r).1 then [r] else []) := by
  have hle := h.base_le
  have hvalue := h.value_base
  have hne : r ≠ t.base := by
    intro heq
    rw [heq] at hlt
    omega
  have hfar : t.maxWindow < t.base.distanceTo r := by
    rcases t.base.distanceTo_cases r with h' | h' <;> omega
  rw [see_beyond hne hfar, see_beyond_reports hne hfar, if_neg Bool.false_ne_true,
    List.append_nil]
  exact h

/-- From the base on the filter reports exactly the indices that were seen. -/
theorem hasSeen_iff (h : t.Tracks base seen) (hle : base ≤ r.value)
    (hwindow : r.value ≤ base + t.maxWindow) : t.hasSeen r = true ↔ r ∈ seen := by
  have hvalue := h.value_base
  have hdistance : t.base.distanceTo r = r.value - base := by
    rcases t.base.distanceTo_cases r with h' | h' <;> omega
  rcases Nat.eq_or_lt_of_le hle with heq | hlt
  · have hbase : r = t.base := Sequence24.ext_value (heq.symm.trans hvalue.symm)
    simp only [hasSeen, hbase, if_true, Bool.false_eq_true, false_iff]
    intro hmem
    refine h.exact.fresh ?_
    rw [← hvalue]
    exact mem_map_value.mpr hmem
  · have hne : r ≠ t.base := by
      intro hbase
      rw [hbase] at hlt
      omega
    have hpos : r.value - base ≠ 0 := by omega
    have hnear : ¬ r.value - base > t.maxWindow := by omega
    simp only [hasSeen, hne, hdistance, hpos, hnear, if_false]
    rw [h.exact.flag, ← mem_map_value]
    have hindex : base + 1 + (r.value - base - 1) = r.value := by omega
    rw [hindex]

/-- As long as the base is not recorded, it stays. -/
theorem exec_before {rs : List Sequence24} (h : t.Tracks 0 seen)
    (hsmall : ∀ r ∈ rs, r.value < 8388608) (hbase : Sequence24.new 0 ∉ rs) :
    (machine.exec t rs).Tracks 0 (seen ++ t.reported rs) := by
  induction rs generalizing t seen with
  | nil => rwa [reported, Machine.gather, List.append_nil]
  | cons r rs ih =>
    have hpos : 0 < r.value := by
      rw [Nat.pos_iff_ne_zero]
      intro hzero
      exact hbase (List.mem_cons.mpr (.inl (Sequence24.ext_value hzero.symm)))
    have hnext := ih (h.see_ahead hpos (hsmall r List.mem_cons_self))
      (fun r' hr' => hsmall r' (List.mem_cons_of_mem r hr'))
      (fun hmem => hbase (List.mem_cons_of_mem r hmem))
    rw [List.append_assoc] at hnext
    exact hnext

/-- As long as the base moves through flags that are all set, the tracker has what
    it has reported. -/
theorem exec_inStep {rs : List Sequence24} (h : t.Tracks base seen)
    (hsmall : ∀ r ∈ rs, r.value < 8388608) (hwindow : t.maxWindow < 8388608)
    (hstep : machine.AllSteps InStep t rs) :
    ∃ base', (machine.exec t rs).Tracks base' (seen ++ t.reported rs) := by
  induction rs generalizing t base seen with
  | nil =>
    refine ⟨base, ?_⟩
    rwa [reported, Machine.gather, List.append_nil]
  | cons r rs ih =>
    have hr := hsmall r List.mem_cons_self
    have hsee : ∃ base', (t.see r).2.Tracks base' (seen ++ if (t.see r).1 then [r] else []) := by
      rcases Nat.lt_trichotomy r.value base with hlt | heq | hgt
      · exact ⟨base, h.see_behind hlt hwindow⟩
      · have hbase : r = t.base := Sequence24.ext_value (heq.trans h.value_base.symm)
        exact ⟨_, h.see_base heq hr (hstep.1 hbase)⟩
      · exact ⟨base, h.see_ahead hgt hr⟩
    obtain ⟨base₁, hsee⟩ := hsee
    obtain ⟨base', hnext⟩ := ih hsee (fun r' hr' => hsmall r' (List.mem_cons_of_mem r hr'))
      (by rwa [see_maxWindow]) hstep.2
    refine ⟨base', ?_⟩
    rw [List.append_assoc] at hnext
    exact hnext

/-- The flags do not reach half a turn ahead. -/
theorem length_lt (h : t.Tracks base seen) : base + t.seenAhead.length < 8388609 := by
  rcases Nat.eq_zero_or_pos t.seenAhead.length with hzero | hpos
  · have := h.base_le
    omega
  · have hlast := h.exact.last (t.seenAhead.length - 1) (by omega)
    obtain ⟨r, hr, hvalue⟩ := List.mem_map.mp ((h.exact.flag _).mp hlast)
    have := h.small r hr
    omega

end Tracks

theorem exec_maxWindow (t : ReliableTracker) (rs : List Sequence24) :
    (machine.exec t rs).maxWindow = t.maxWindow := by
  induction rs generalizing t with
  | nil => rfl
  | cons r rs ih => exact (ih _).trans (t.see_maxWindow r)

/-- The base advances by the number of the flags it pops. -/
theorem advance_eq (b : Nat) (flags : List Bool) :
    ∃ k ≤ flags.length, advance (Sequence24.new b) flags
      = (Sequence24.new (b + k), flags.drop k) := by
  induction flags generalizing b with
  | nil => exact ⟨0, Nat.le_refl 0, rfl⟩
  | cons flag rest ih =>
    cases flag with
    | false => exact ⟨0, Nat.zero_le _, rfl⟩
    | true =>
      obtain ⟨k, hk, h⟩ := ih (b + 1)
      refine ⟨k + 1, Nat.succ_le_succ hk, ?_⟩
      rw [advance, Sequence24.next_new, h, Nat.add_right_comm, Nat.add_assoc]
      rfl

/-- The first recorded index is not found again. -/
theorem Tracks.not_hasSeen_first {seen : List Sequence24} (h : t.Tracks 0 seen) :
    (t.see (Sequence24.new 0)).2.hasSeen (Sequence24.new 0) = false := by
  have hlength := h.length_lt
  obtain ⟨k, hk, hadvance⟩ := advance_eq 1 t.seenAhead
  have hsee : (t.see (Sequence24.new 0)).2
      = { t with base := Sequence24.new (1 + k), seenAhead := t.seenAhead.drop k } := by
    unfold see
    rw [if_pos h.exact.base_eq.symm, advanceBase, h.exact.base_eq, Sequence24.next_new, hadvance]
  have hne : Sequence24.new 0 ≠ Sequence24.new (1 + k) := by
    intro heq
    have hvalue := congrArg Sequence24.value heq
    simp only [Sequence24.value_new] at hvalue
    omega
  have hfar : t.seenAhead.length - k
      ≤ (Sequence24.new (1 + k)).distanceTo (Sequence24.new 0) - 1 := by
    have hcases := (Sequence24.new (1 + k)).distanceTo_cases (Sequence24.new 0)
    simp only [Sequence24.value_new] at hcases
    omega
  rw [hsee]
  unfold hasSeen
  rw [if_neg hne]
  dsimp only
  split
  · next hzero => exact absurd (Sequence24.distanceTo_eq_zero.mp hzero).symm hne
  · split
    · rfl
    · rw [List.getD_eq_getElem?_getD, List.getElem?_eq_none (by rwa [List.length_drop])]
      rfl

theorem reported_append (t : ReliableTracker) (rs rs' : List Sequence24) :
    t.reported (rs ++ rs') = t.reported rs ++ (machine.exec t rs).reported rs' :=
  machine.gather_append _ t rs rs'

theorem isSeenSet_before {maxWindow : Nat} {rs : List Sequence24}
    (hsmall : ∀ r ∈ rs, r.value < 8388608) (hbase : Sequence24.new 0 ∉ rs) :
    IsSeenSet maxWindow rs := by
  have htracks := (new_tracks maxWindow).exec_before hsmall hbase
  rw [List.nil_append] at htracks
  refine ⟨fun r hr => htracks.hasSeen_iff (Nat.zero_le _) ?_, htracks.nodup⟩
  rw [htracks.value_base] at hr
  rw [exec_maxWindow]
  exact hr

theorem not_isSeenSet_first {maxWindow : Nat} {rs : List Sequence24}
    (hsmall : ∀ r ∈ rs, r.value < 8388608) (hbase : Sequence24.new 0 ∉ rs) :
    ¬IsSeenSet maxWindow (rs ++ [Sequence24.new 0]) := by
  intro h
  have htracks := (new_tracks maxWindow).exec_before hsmall hbase
  have hreported : Sequence24.new 0 ∈ (new maxWindow).reported (rs ++ [Sequence24.new 0]) := by
    rw [reported_append]
    refine List.mem_append_right _ ?_
    have hreports := see_base_reports (machine.exec (new maxWindow) rs)
    rw [htracks.exact.base_eq] at hreports
    simp [reported, Machine.gather, hreports]
  have hseen := (h.seen (Sequence24.new 0) (Nat.zero_le _)).mpr hreported
  rw [Machine.exec_append, Machine.exec_cons, Machine.exec_nil] at hseen
  exact Bool.false_ne_true (htracks.not_hasSeen_first.symm.trans hseen)

/-- All along a list of recordings the window is the set of the indices reported as
    new exactly as long as the first index is not among them. If the window is less
    than half a turn and the base only moves through flags that are all set, no index
    is reported twice, and from the base on the window is exact. -/
theorem seen_set_iff (maxWindow : Nat) (rs : List Sequence24)
    (hsmall : ∀ r ∈ rs, r.value < 8388608) :
    ((∀ pre, pre <+: rs → IsSeenSet maxWindow pre) ↔ Sequence24.new 0 ∉ rs) ∧
    (maxWindow < 8388608 → machine.AllSteps InStep (new maxWindow) rs →
      ((new maxWindow).reported rs).Nodup ∧
      ∀ r, (machine.exec (new maxWindow) rs).base.value ≤ r.value →
        r.value ≤ (machine.exec (new maxWindow) rs).base.value + maxWindow →
        ((machine.exec (new maxWindow) rs).hasSeen r = true ↔ r ∈ (new maxWindow).reported rs)) := by
  refine ⟨⟨fun h hmem => ?_, fun hbase pre hpre => ?_⟩, fun hwindow hstep => ?_⟩
  · -- up to the first time the first index is recorded
    obtain ⟨pre, post, hsplit, hbase⟩ := List.eq_append_cons_of_mem hmem
    have hbegin : pre ++ [Sequence24.new 0] <+: rs := ⟨post, by simp [hsplit]⟩
    refine not_isSeenSet_first (fun r hr => hsmall r ?_) hbase (h _ hbegin)
    rw [hsplit]
    exact List.mem_append_left _ hr
  · exact isSeenSet_before (fun r hr => hsmall r (hpre.subset hr)) fun hmem =>
      hbase (hpre.subset hmem)
  · obtain ⟨base, htracks⟩ := (new_tracks maxWindow).exec_inStep hsmall hwindow hstep
    rw [List.nil_append] at htracks
    refine ⟨htracks.nodup, fun r hle hr => htracks.hasSeen_iff ?_ ?_⟩
    · rwa [htracks.value_base] at hle
    · rw [htracks.value_base] at hr
      rw [exec_maxWindow]
      exact hr

/-- Three indices that are recorded ahead of the first. -/
theorem seen_set_iff_ahead :
    IsSeenSet 8 ([3, 1, 3].map Sequence24.new) := by
  have h := seen_set_iff 8 ([3, 1, 3].map Sequence24.new) (by decide)
  exact h.1.mpr (by decide) _ List.prefix_rfl

/-- The first index is forgotten at once, and an index that was recorded behind a gap
    is reported as new again when the base moves. -/
theorem first_index_forgotten :
    ((new 8).see (Sequence24.new 0)).1 = true ∧
    ((new 8).see (Sequence24.new 0)).2.hasSeen (Sequence24.new 0) = false ∧
    (new 8).reported ([2, 0, 2].map Sequence24.new) = [2, 0, 2].map Sequence24.new := by
  decide

end ReliableTracker

end Raknet
