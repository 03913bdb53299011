-- SUMMARY: Machines that spend from an account which fills with time, and the bound on what they spend in any interval.
import Mathlib.Algebra.Order.Field.Rat
import Mathlib.Tactic.Linarith
import Mathlib.Tactic.Ring
import Raknet.Lib.Machine

/-!
# Metered machines

Some actions of a machine happen at a time and spend something. If there is an
account that every spending is paid from, that fills at a fixed rate and never
holds more than a cap (`Metered`), then the actions within any interval of time
spend at most the cap and what the rate gives in the interval
(`Metered.spentWithin_le`).
-/

universe u v w

namespace Machine

variable {σ : Type u} {α : Type v} {ω : Type w} (M : Machine σ α ω)

/-- What the actions at the times from `lo` to `hi` spend. -/
def spentWithin (time : α → Option ℕ) (spent : σ → α → ℚ) (lo hi : ℕ) (s : σ) : List α → ℚ
  | [] => 0
  | a :: as =>
    (if (time a).any fun now => decide (lo ≤ now ∧ now ≤ hi) then spent s a else 0)
      + spentWithin time spent lo hi (M.step s a).1 as

/-- An account for the actions `C`: what it holds in a state at a time is `level`, where `Inv`
    holds of the state and the time. -/
structure Metered (time : α → Option ℕ) (spent : σ → α → ℚ) (rate cap : ℚ) (C : α → Prop)
    (Inv : σ → ℕ → Prop) (level : σ → ℕ → ℚ) : Prop where
  rate_nonneg : 0 ≤ rate
  spent_nonneg : ∀ s a, 0 ≤ spent s a
  level_nonneg : ∀ {s now}, Inv s now → 0 ≤ level s now
  level_le : ∀ {s now}, Inv s now → level s now ≤ cap
  inv_later : ∀ {s now later}, now ≤ later → Inv s now → Inv s later
  level_later : ∀ {s now later}, now ≤ later → Inv s now →
    level s later ≤ level s now + rate * (later - now)
  inv_step : ∀ {s a now}, C a → (∀ t ∈ time a, t = now) → Inv s now → Inv (M.step s a).1 now
  pays : ∀ {s a now}, C a → (∀ t ∈ time a, t = now) → Inv s now →
    spent s a + level (M.step s a).1 now ≤ level s now

namespace Metered

variable {M} {time : α → Option ℕ} {spent : σ → α → ℚ} {rate cap : ℚ} {C : α → Prop}
  {Inv : σ → ℕ → Prop} {level : σ → ℕ → ℚ}

theorem head_le_of_mem {t : ℕ} {times : List ℕ} (h : (t :: times).Pairwise (· ≤ ·)) :
    ∀ t' ∈ t :: times, t ≤ t' := fun t' ht' => by
  rcases List.mem_cons.mp ht' with rfl | ht'
  · exact le_refl _
  · exact (List.pairwise_cons.mp h).1 t' ht'

theorem spentWithin_of_late {lo hi : ℕ} {s : σ} {as : List α}
    (hlate : ∀ now ∈ as.filterMap time, hi < now) : M.spentWithin time spent lo hi s as = 0 := by
  induction as generalizing s with
  | nil => rfl
  | cons a as ih =>
    have hrest : ∀ now ∈ as.filterMap time, hi < now := fun now hnow => hlate now <| by
      obtain ⟨a', ha', htime⟩ := List.mem_filterMap.mp hnow
      exact List.mem_filterMap.mpr ⟨a', List.mem_cons_of_mem a ha', htime⟩
    have hfirst : ¬ ((time a).any fun now => decide (lo ≤ now ∧ now ≤ hi)) = true := by
      cases htime : time a with
      | none => exact Bool.false_ne_true
      | some now =>
        have := hlate now (List.mem_filterMap.mpr ⟨a, List.mem_cons_self, htime⟩)
        simp only [Option.any_some, decide_eq_true_eq]
        omega
    rw [spentWithin, if_neg hfirst, ih hrest, add_zero]

/-- Up to a time the run spends what the account holds and what it gets until then. -/
theorem spentWithin_le_level (h : M.Metered time spent rate cap C Inv level) {lo hi now : ℕ}
    {s : σ} {as : List α} (hC : ∀ a ∈ as, C a)
    (htimes : (now :: as.filterMap time).Pairwise (· ≤ ·)) (hinv : Inv s now) (hle : now ≤ hi) :
    M.spentWithin time spent lo hi s as ≤ level s now + rate * (hi - now) := by
  induction as generalizing s now with
  | nil =>
    have hlevel := h.level_nonneg hinv
    have hwait : 0 ≤ rate * ((hi : ℚ) - now) :=
      mul_nonneg h.rate_nonneg (sub_nonneg.mpr (Nat.cast_le.mpr hle))
    exact add_nonneg hlevel hwait
  | cons a as ih =>
    have hrest : ∀ a ∈ as, C a := fun a' ha' => hC a' (List.mem_cons_of_mem a ha')
    have hfirst := hC a List.mem_cons_self
    have hspent : (if (time a).any fun now => decide (lo ≤ now ∧ now ≤ hi) then spent s a else 0)
        ≤ spent s a := by
      split
      · exact le_refl _
      · exact h.spent_nonneg s a
    cases htime : time a with
    | none =>
      rw [List.filterMap_cons_none htime] at htimes
      have hnone : ∀ t ∈ time a, t = now := by simp [htime]
      have hafter := ih hrest htimes (h.inv_step hfirst hnone hinv) hle
      have hpays := h.pays hfirst hnone hinv
      rw [spentWithin]
      linarith
    | some t =>
      rw [List.filterMap_cons_some htime] at htimes
      obtain ⟨hnow, htimes⟩ := List.pairwise_cons.mp htimes
      have hnow : now ≤ t := hnow t List.mem_cons_self
      by_cases ht : t ≤ hi
      · have hsame : ∀ t' ∈ time a, t' = t := by simp [htime]
        have hlater := h.inv_later hnow hinv
        have hafter := ih hrest htimes (h.inv_step hfirst hsame hlater) ht
        have hpays := h.pays hfirst hsame hlater
        have hwait := h.level_later hnow hinv
        have hsplit : rate * ((hi : ℚ) - now) = rate * (t - now) + rate * (hi - t) := by ring
        rw [spentWithin]
        linarith
      · have hlate : ∀ t' ∈ (a :: as).filterMap time, hi < t' := by
          rw [List.filterMap_cons_some htime]
          exact fun t' ht' => lt_of_lt_of_le (Nat.lt_of_not_le ht) (head_le_of_mem htimes t' ht')
        rw [spentWithin_of_late hlate]
        have hwait : 0 ≤ rate * ((hi : ℚ) - now) :=
          mul_nonneg h.rate_nonneg (sub_nonneg.mpr (Nat.cast_le.mpr hle))
        exact add_nonneg (h.level_nonneg hinv) hwait

/-- In any interval the run spends at most the cap and what the rate gives in the interval. -/
theorem spentWithin_le (h : M.Metered time spent rate cap C Inv level) {lo hi now : ℕ}
    {s : σ} {as : List α} (hC : ∀ a ∈ as, C a)
    (htimes : (now :: as.filterMap time).Pairwise (· ≤ ·)) (hinv : Inv s now) (hle : lo ≤ hi) :
    M.spentWithin time spent lo hi s as ≤ cap + rate * (hi - lo) := by
  have hcap : 0 ≤ cap := (h.level_nonneg hinv).trans (h.level_le hinv)
  have hgain : 0 ≤ rate * ((hi : ℚ) - lo) :=
    mul_nonneg h.rate_nonneg (sub_nonneg.mpr (Nat.cast_le.mpr hle))
  induction as generalizing s now with
  | nil => exact add_nonneg hcap hgain
  | cons a as ih =>
    have hrest : ∀ a ∈ as, C a := fun a' ha' => hC a' (List.mem_cons_of_mem a ha')
    have hfirst := hC a List.mem_cons_self
    cases htime : time a with
    | none =>
      rw [List.filterMap_cons_none htime] at htimes
      have hafter := ih hrest htimes (h.inv_step hfirst (by simp [htime]) hinv)
      rwa [spentWithin, htime, Option.any_none, if_neg Bool.false_ne_true, zero_add]
    | some t =>
      rw [List.filterMap_cons_some htime] at htimes
      obtain ⟨hnow, htimes⟩ := List.pairwise_cons.mp htimes
      have hlater := h.inv_later (hnow t List.mem_cons_self) hinv
      by_cases hlo : t < lo
      · have hafter := ih hrest htimes (h.inv_step hfirst (by simp [htime]) hlater)
        rwa [spentWithin, htime, Option.any_some, if_neg (by simp; omega), zero_add]
      · -- The first action within the interval: the account holds at most the cap.
        have htwice : (t :: (a :: as).filterMap time).Pairwise (· ≤ ·) := by
          rw [List.filterMap_cons_some htime]
          exact List.pairwise_cons.mpr ⟨head_le_of_mem htimes, htimes⟩
        by_cases hhi : t ≤ hi
        · have hspent : M.spentWithin time spent lo hi s (a :: as) ≤ level s t + rate * (hi - t) :=
            h.spentWithin_le_level hC htwice hlater hhi
          have hlevel := h.level_le hlater
          have hshorter : rate * ((hi : ℚ) - t) ≤ rate * (hi - lo) :=
            mul_le_mul_of_nonneg_left
              (sub_le_sub_left (Nat.cast_le.mpr (Nat.le_of_not_lt hlo)) _) h.rate_nonneg
          linarith
        · have hlate : ∀ t' ∈ (a :: as).filterMap time, hi < t' := fun t' ht' =>
            lt_of_lt_of_le (Nat.lt_of_not_le hhi) ((List.pairwise_cons.mp htwice).1 t' ht')
          rw [spentWithin_of_late hlate]
          exact add_nonneg hcap hgain

end Metered

end Machine
