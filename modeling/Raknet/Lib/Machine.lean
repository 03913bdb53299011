-- SUMMARY: Deterministic machines with outputs: runs, histories, and the induction rules for invariants of runs.
import Mathlib.Data.List.Induction

/-!
# Machines and runs

A machine takes a state and an action to a new state and an output. A run feeds
it a list of actions. The rules below turn a fact about one step into a fact
about every run, with the actions and outputs so far at hand (`run_invariant`)
and, where the step needs a condition on the state it starts from, for the runs
whose steps all meet it (`run_invariant_of_steps`).
-/

universe u v w

/-- A deterministic transition function with an output. -/
structure Machine (σ : Type u) (α : Type v) (ω : Type w) where
  step : σ → α → σ × ω

namespace Machine

variable {σ : Type u} {α : Type v} {ω : Type w} (M : Machine σ α ω)

/-- The state after a list of actions. -/
def exec (s : σ) : List α → σ
  | [] => s
  | a :: as => exec (M.step s a).1 as

/-- The outputs of a list of actions, in order. -/
def outputs (s : σ) : List α → List ω
  | [] => []
  | a :: as => (M.step s a).2 :: outputs (M.step s a).1 as

/-- What the steps of a run contribute, in order. -/
def gather {β : Type*} (f : σ → α → List β) (s : σ) : List α → List β
  | [] => []
  | a :: as => f s a ++ gather f (M.step s a).1 as

/-- Every step of the run starts from a state that meets the condition. -/
def AllSteps (C : σ → α → Prop) (s : σ) : List α → Prop
  | [] => True
  | a :: as => C s a ∧ AllSteps C (M.step s a).1 as

/-- Some step of the run starts from a state that meets the condition. -/
def SomeStep (C : σ → α → Prop) (s : σ) : List α → Prop
  | [] => False
  | a :: as => C s a ∨ SomeStep C (M.step s a).1 as

instance decidableAllSteps (C : σ → α → Prop) [∀ s a, Decidable (C s a)] :
    ∀ (s : σ) (as : List α), Decidable (M.AllSteps C s as)
  | _, [] => isTrue trivial
  | s, a :: as =>
    have := decidableAllSteps C (M.step s a).1 as
    inferInstanceAs (Decidable (C s a ∧ M.AllSteps C (M.step s a).1 as))

@[simp] theorem exec_nil (s : σ) : M.exec s [] = s := rfl
@[simp] theorem exec_cons (s : σ) (a : α) (as : List α) :
    M.exec s (a :: as) = M.exec (M.step s a).1 as := rfl
@[simp] theorem outputs_nil (s : σ) : M.outputs s [] = [] := rfl
@[simp] theorem outputs_cons (s : σ) (a : α) (as : List α) :
    M.outputs s (a :: as) = (M.step s a).2 :: M.outputs (M.step s a).1 as := rfl
@[simp] theorem allSteps_nil (C : σ → α → Prop) (s : σ) : M.AllSteps C s [] := trivial
@[simp] theorem allSteps_cons (C : σ → α → Prop) (s : σ) (a : α) (as : List α) :
    M.AllSteps C s (a :: as) ↔ C s a ∧ M.AllSteps C (M.step s a).1 as := Iff.rfl

@[simp] theorem exec_append (s : σ) (as bs : List α) :
    M.exec s (as ++ bs) = M.exec (M.exec s as) bs := by
  induction as generalizing s with
  | nil => rfl
  | cons a as ih => exact ih _

@[simp] theorem outputs_append (s : σ) (as bs : List α) :
    M.outputs s (as ++ bs) = M.outputs s as ++ M.outputs (M.exec s as) bs := by
  induction as generalizing s with
  | nil => rfl
  | cons a as ih => simp only [List.cons_append, outputs_cons, exec_cons, ih]

theorem gather_append {β : Type*} (f : σ → α → List β) (s : σ) (as bs : List α) :
    M.gather f s (as ++ bs) = M.gather f s as ++ M.gather f (M.exec s as) bs := by
  induction as generalizing s with
  | nil => rfl
  | cons a as ih => simp only [List.cons_append, gather, exec_cons, ih, List.append_assoc]

theorem allSteps_append (C : σ → α → Prop) (s : σ) (as bs : List α) :
    M.AllSteps C s (as ++ bs) ↔ M.AllSteps C s as ∧ M.AllSteps C (M.exec s as) bs := by
  induction as generalizing s with
  | nil => simp
  | cons a as ih => simp only [List.cons_append, allSteps_cons, exec_cons, ih, and_assoc]

theorem someStep_append (C : σ → α → Prop) (s : σ) (as bs : List α) :
    M.SomeStep C s (as ++ bs) ↔ M.SomeStep C s as ∨ M.SomeStep C (M.exec s as) bs := by
  induction as generalizing s with
  | nil => simp [SomeStep]
  | cons a as ih => simp only [List.cons_append, SomeStep, exec_cons, ih, or_assoc]

/-- A condition that the actions of a run meet in every state. -/
theorem allSteps_of_mem {C : σ → α → Prop} {s : σ} {as : List α} (h : ∀ a ∈ as, ∀ s, C s a) :
    M.AllSteps C s as := by
  induction as generalizing s with
  | nil => trivial
  | cons a as ih =>
    exact ⟨h a List.mem_cons_self s, ih fun a' ha' => h a' (List.mem_cons_of_mem a ha')⟩

theorem allSteps_and {C D : σ → α → Prop} {s : σ} {as : List α} (hC : M.AllSteps C s as)
    (hD : M.AllSteps D s as) : M.AllSteps (fun s a => C s a ∧ D s a) s as := by
  induction as generalizing s with
  | nil => trivial
  | cons a as ih => exact ⟨⟨hC.1, hD.1⟩, ih hC.2 hD.2⟩

/-- Every output is that of a step of the run. -/
theorem exists_step_of_mem_outputs {s : σ} {as : List α} {o : ω} (h : o ∈ M.outputs s as) :
    ∃ pre a post, as = pre ++ a :: post ∧ o = (M.step (M.exec s pre) a).2 := by
  induction as generalizing s with
  | nil => cases h
  | cons a as ih =>
    cases h with
    | head => exact ⟨[], a, as, rfl, rfl⟩
    | tail _ h =>
      obtain ⟨pre, a', post, rfl, ho⟩ := ih h
      exact ⟨a :: pre, a', post, rfl, ho⟩

/-- What holds at the start and is kept by every step that meets `C` holds at
    the end of every run whose steps all meet `C`. The property may speak of
    the actions and the outputs so far. -/
theorem run_invariant_of_steps {C : σ → α → Prop} {P : List α → List ω → σ → Prop} {s₀ : σ}
    (h₀ : P [] [] s₀)
    (hstep : ∀ as os s a, P as os s → C s a →
      P (as ++ [a]) (os ++ [(M.step s a).2]) (M.step s a).1) :
    ∀ as, M.AllSteps C s₀ as → P as (M.outputs s₀ as) (M.exec s₀ as) := by
  intro as
  induction as using List.reverseRecOn with
  | nil => intro _; exact h₀
  | append_singleton as a ih =>
    intro hall
    obtain ⟨hpre, hlast⟩ := (M.allSteps_append C s₀ as [a]).mp hall
    have := hstep as _ _ a (ih hpre) hlast.1
    simpa using this

/-- What holds at the start and is kept by every step holds at the end of every
    run. -/
theorem run_invariant {P : List α → List ω → σ → Prop} {s₀ : σ}
    (h₀ : P [] [] s₀)
    (hstep : ∀ as os s a, P as os s →
      P (as ++ [a]) (os ++ [(M.step s a).2]) (M.step s a).1) (as : List α) :
    P as (M.outputs s₀ as) (M.exec s₀ as) := by
  exact M.run_invariant_of_steps h₀ (fun as os s a hP _ => hstep as os s a hP) as
    (M.allSteps_of_mem fun _ _ _ => trivial)

/-- If a step keeps `P` exactly when it meets `C`, then `P` holds all along a run
    exactly when all its steps meet `C`. -/
theorem forall_prefix_iff_allSteps {I P : σ → Prop} {C : σ → α → Prop}
    (hI : ∀ s a, I s → I (M.step s a).1)
    (hstep : ∀ s a, I s → P s → (P (M.step s a).1 ↔ C s a)) {s₀ : σ} (h₀ : I s₀) (hP : P s₀)
    (as : List α) : (∀ pre, pre <+: as → P (M.exec s₀ pre)) ↔ M.AllSteps C s₀ as := by
  induction as generalizing s₀ with
  | nil =>
    refine iff_of_true (fun pre hpre => ?_) trivial
    rw [List.prefix_nil.mp hpre]
    exact hP
  | cons a as ih =>
    rw [allSteps_cons]
    constructor
    · intro h
      have hnext : P (M.step s₀ a).1 := h [a] ⟨as, rfl⟩
      refine ⟨(hstep s₀ a h₀ hP).mp hnext, (ih (hI s₀ a h₀) hnext).mp fun pre hpre => ?_⟩
      exact h (a :: pre) (List.cons_prefix_cons.mpr ⟨rfl, hpre⟩)
    · rintro ⟨hC, hall⟩ pre hpre
      cases pre with
      | nil => exact hP
      | cons a' pre =>
        obtain ⟨rfl, hrest⟩ := List.cons_prefix_cons.mp hpre
        exact (ih (hI s₀ a' h₀) ((hstep s₀ a' h₀ hP).mpr hC)).mpr hall pre hrest

/-- A property of a state and of whether all steps so far have met `C`, which every step keeps,
    holds at the end of every run. -/
theorem exec_allSteps {C : σ → α → Prop} {I : Prop → σ → Prop}
    (hstep : ∀ met s a, I met s → I (met ∧ C s a) (M.step s a).1) {met : Prop} {s₀ : σ}
    (h₀ : I met s₀) (as : List α) : I (met ∧ M.AllSteps C s₀ as) (M.exec s₀ as) := by
  induction as generalizing met s₀ with
  | nil => rwa [AllSteps, and_true]
  | cons a as ih =>
    rw [AllSteps, ← and_assoc]
    exact ih (hstep met s₀ a h₀)

/-- The second state comes of the first by allowed actions. -/
def Reaches (allowed : α → Prop) (s s' : σ) : Prop :=
  ∃ as, (∀ a ∈ as, allowed a) ∧ s' = M.exec s as

namespace Reaches

variable {M} {allowed : α → Prop} {s s' s'' : σ}

theorem refl (s : σ) : M.Reaches allowed s s := ⟨[], nofun, rfl⟩

theorem step {a : α} (h : allowed a) (s : σ) : M.Reaches allowed s (M.step s a).1 :=
  ⟨[a], fun _ hb => List.mem_singleton.mp hb ▸ h, rfl⟩

theorem trans (h : M.Reaches allowed s s') (h' : M.Reaches allowed s' s'') :
    M.Reaches allowed s s'' := by
  obtain ⟨as, has, rfl⟩ := h
  obtain ⟨bs, hbs, rfl⟩ := h'
  refine ⟨as ++ bs, fun a ha => ?_, (M.exec_append s as bs).symm⟩
  rcases List.mem_append.mp ha with ha | ha
  · exact has a ha
  · exact hbs a ha

theorem mono {allowed' : α → Prop} (h : M.Reaches allowed s s')
    (hle : ∀ a, allowed a → allowed' a) : M.Reaches allowed' s s' := by
  obtain ⟨as, has, rfl⟩ := h
  exact ⟨as, fun a ha => hle a (has a ha), rfl⟩

/-- What allowed actions keep is kept. -/
theorem invariant {P : σ → Prop} (hstep : ∀ s a, allowed a → P s → P (M.step s a).1)
    (h : M.Reaches allowed s s') (hs : P s) : P s' := by
  obtain ⟨as, has, rfl⟩ := h
  induction as generalizing s with
  | nil => exact hs
  | cons a as ih =>
    exact ih (hstep s a (has a List.mem_cons_self) hs)
      fun b hb => has b (List.mem_cons_of_mem a hb)

end Reaches

end Machine
