-- SUMMARY: Points of the events within an interval, and counters that add them up in windows.
import Mathlib.Algebra.GroupWithZero.Nat
import Mathlib.Algebra.BigOperators.Group.List.Basic
import Mathlib.Algebra.Order.BigOperators.Group.List
import Mathlib.Algebra.Order.Group.Nat

/-!
# Tallies of windows

A tally adds up the points of events from the time its window was opened, and a
window that has been open for too long is opened anew. So what a tally shows is no more
than the points of the events since then (`Tally.Backed`), and a tally that
gets to a threshold shows that the events within one window are worth it
(`Tally.Backed.reached`).
-/

section Within

variable {α : Type*} (points time : α → ℕ)

/-- The points of the events from `lo` to `hi`. -/
def pointsWithin (lo hi : ℕ) (log : List α) : ℕ :=
  (log.map fun e => if lo ≤ time e ∧ time e ≤ hi then points e else 0).sum

variable {points time}

theorem pointsWithin_append (lo hi : ℕ) (log more : List α) :
    pointsWithin points time lo hi (log ++ more)
      = pointsWithin points time lo hi log + pointsWithin points time lo hi more := by
  simp [pointsWithin]

theorem pointsWithin_singleton {lo hi : ℕ} {e : α} (hlo : lo ≤ time e) (hhi : time e ≤ hi) :
    pointsWithin points time lo hi [e] = points e := by
  simp [pointsWithin, hlo, hhi]

theorem pointsWithin_later {lo hi hi' : ℕ} (h : hi ≤ hi') (log : List α) :
    pointsWithin points time lo hi log ≤ pointsWithin points time lo hi' log := by
  refine List.sum_le_sum fun e _ => ?_
  by_cases he : lo ≤ time e ∧ time e ≤ hi
  · rw [if_pos he, if_pos ⟨he.1, he.2.trans h⟩]
  · rw [if_neg he]
    exact Nat.zero_le _

end Within

/-- Some interval no longer than the window has events worth the threshold. -/
def Reached {α : Type*} (points time : α → ℕ) (window threshold : ℕ) (log : List α) : Prop :=
  ∃ lo hi, hi ≤ lo + window ∧ threshold ≤ pointsWithin points time lo hi log

theorem Reached.append {α : Type*} {points time : α → ℕ} {window threshold : ℕ} {log : List α}
    (h : Reached points time window threshold log) (more : List α) :
    Reached points time window threshold (log ++ more) := by
  obtain ⟨lo, hi, hlength, hpoints⟩ := h
  refine ⟨lo, hi, hlength, ?_⟩
  rw [pointsWithin_append]
  omega

/-- The points since a window was opened. -/
structure Tally where
  start : ℕ
  score : ℕ

namespace Tally

variable {α : Type*} {points time : α → ℕ} {t : Tally} {clock now : ℕ} {log : List α}

/-- A window that has been open for longer than `window` is opened anew. -/
def reopened (t : Tally) (window now : ℕ) : Tally :=
  if now - t.start > window then ⟨now, 0⟩ else t

variable (points time) in
/-- The score is no more than the points of the events since the window was opened. -/
structure Backed (t : Tally) (clock : ℕ) (log : List α) : Prop where
  start_le : t.start ≤ clock
  score_le : t.score ≤ pointsWithin points time t.start clock log

theorem backed_fresh (now : ℕ) (log : List α) : Backed points time ⟨now, 0⟩ now log :=
  ⟨le_rfl, Nat.zero_le _⟩

theorem Backed.later (h : t.Backed points time clock log) (hle : clock ≤ now) :
    t.Backed points time now log :=
  ⟨h.start_le.trans hle, h.score_le.trans (pointsWithin_later hle log)⟩

theorem Backed.append (h : t.Backed points time clock log) (more : List α) :
    t.Backed points time clock (log ++ more) := by
  refine ⟨h.start_le, h.score_le.trans ?_⟩
  rw [pointsWithin_append]
  exact Nat.le_add_right _ _

theorem Backed.reopened (h : t.Backed points time now log) (window : ℕ) :
    (t.reopened window now).Backed points time now log ∧
      now ≤ (t.reopened window now).start + window := by
  unfold Tally.reopened
  split
  · exact ⟨backed_fresh now log, Nat.le_add_right _ _⟩
  · exact ⟨h, by omega⟩

/-- An event of this moment is added to the score. -/
theorem Backed.record (h : t.Backed points time now log) {e : α} (htime : time e = now)
    (score : ℕ) (hscore : score ≤ t.score + points e) :
    Backed points time ⟨t.start, score⟩ now (log ++ [e]) := by
  refine ⟨h.start_le, ?_⟩
  have hevent : pointsWithin points time t.start now [e] = points e :=
    pointsWithin_singleton (h.start_le.trans htime.ge) htime.le
  rw [pointsWithin_append, hevent]
  exact hscore.trans (Nat.add_le_add_right h.score_le _)

theorem Backed.reached (h : t.Backed points time now log) {window threshold : ℕ}
    (hopen : now ≤ t.start + window) (hscore : threshold ≤ t.score) :
    Reached points time window threshold log :=
  ⟨t.start, now, hopen, hscore.trans h.score_le⟩

end Tally
