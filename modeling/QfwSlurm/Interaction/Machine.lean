import Mathlib.Tactic

/-!
# Runs of a state machine

A machine is a function `next : σ → ι → σ`: the state after one step.  `after next s steps` is the
state after a whole run.  The rules below are how a fact about one step becomes a fact about
runs: `after_invariant` for an invariant that every step preserves, and `after_invariant_of_meets`
for one that is preserved by the steps that meet a condition, which then has to hold at every step
of the run.  `exists_step_of_after` looks back: what a run leads to arises at one of its steps.
-/

namespace Interaction

variable {σ ι : Type}

/-- The state after a run. -/
def after (next : σ → ι → σ) (s : σ) (steps : List ι) : σ := steps.foldl next s

variable (next : σ → ι → σ) (s : σ)

@[simp] lemma after_nil : after next s [] = s := rfl

@[simp] lemma after_cons (step : ι) (steps : List ι) :
    after next s (step :: steps) = after next (next s step) steps := rfl

@[simp] lemma after_append (steps more : List ι) :
    after next s (steps ++ more) = after next (after next s steps) more :=
  List.foldl_append ..

/-- Every step of the run meets the condition in the state it is taken from. -/
def Meets (C : σ → ι → Prop) : σ → List ι → Prop
  | _, [] => True
  | s, step :: steps => C s step ∧ Meets C (next s step) steps

/-- The beginning of a run whose steps meet a condition is such a run. -/
lemma Meets.of_append {C : σ → ι → Prop} {steps more : List ι} {s : σ}
    (h : Meets next C s (steps ++ more)) : Meets next C s steps := by
  induction steps generalizing s with
  | nil => trivial
  | cons step steps ih => exact ⟨h.1, ih h.2⟩

/-- The step a run of such steps ends with meets the condition where it is taken. -/
lemma Meets.last {C : σ → ι → Prop} {steps : List ι} {step : ι} {s : σ}
    (h : Meets next C s (steps ++ [step])) : C (after next s steps) step := by
  induction steps generalizing s with
  | nil => exact h.1
  | cons first steps ih => exact ih h.2

/-- The rest of a run whose steps meet a condition is such a run. -/
lemma Meets.rest {C : σ → ι → Prop} {steps more : List ι} {s : σ}
    (h : Meets next C s (steps ++ more)) : Meets next C (after next s steps) more := by
  induction steps generalizing s with
  | nil => exact h
  | cons step steps ih => exact ih h.2

/-- A run whose steps meet a condition is one of steps that meet a weaker one. -/
lemma Meets.mono {C C' : σ → ι → Prop} (hweak : ∀ s step, C s step → C' s step)
    {steps : List ι} {s : σ} (h : Meets next C s steps) : Meets next C' s steps := by
  induction steps generalizing s with
  | nil => trivial
  | cons step steps ih => exact ⟨hweak s step h.1, ih h.2⟩

/-- A condition on the steps alone can be added to the condition that a run meets. -/
lemma Meets.of_forall_mem {C : σ → ι → Prop} {P : ι → Prop} {steps : List ι} {s : σ}
    (hP : ∀ step ∈ steps, P step) (h : Meets next C s steps) :
    Meets next (fun s step => P step ∧ C s step) s steps := by
  induction steps generalizing s with
  | nil => trivial
  | cons step steps ih =>
    obtain ⟨hstep, hrest⟩ := List.forall_mem_cons.mp hP
    exact ⟨⟨hstep, h.1⟩, ih hrest h.2⟩

/-- A run of steps that satisfy a condition of their own. -/
lemma Meets.of_mem {P : ι → Prop} {steps : List ι} (hP : ∀ step ∈ steps, P step) (s : σ) :
    Meets next (fun _ step => P step) s steps := by
  induction steps generalizing s with
  | nil => trivial
  | cons step steps ih =>
    obtain ⟨hstep, hrest⟩ := List.forall_mem_cons.mp hP
    exact ⟨hstep, ih hrest (next s step)⟩

/-- An invariant that the steps meeting a condition preserve holds after every run of such steps. -/
theorem after_invariant_of_meets {C : σ → ι → Prop} (Inv : σ → Prop)
    (hstep : ∀ s step, Inv s → C s step → Inv (next s step)) {s : σ} (hs : Inv s)
    {steps : List ι} (h : Meets next C s steps) : Inv (after next s steps) := by
  induction steps generalizing s with
  | nil => exact hs
  | cons step steps ih => exact ih (hstep s step hs h.1) h.2

/-- An invariant that every step preserves holds after every run. -/
theorem after_invariant (Inv : σ → Prop) (hstep : ∀ s step, Inv s → Inv (next s step)) {s : σ}
    (hs : Inv s) (steps : List ι) : Inv (after next s steps) := by
  induction steps generalizing s with
  | nil => exact hs
  | cons step steps ih => exact ih (hstep s step hs)

/-- What holds after a run of such steps, and did not hold before it, arises at one of them. -/
theorem exists_step_of_after {C : σ → ι → Prop} (P : σ → Prop) (Q : σ → ι → Prop)
    (hstep : ∀ s step, C s step → P (next s step) → P s ∨ Q s step) {s : σ} {steps : List ι}
    (h : Meets next C s steps) (hafter : P (after next s steps)) :
    P s ∨ ∃ before step later, steps = before ++ step :: later ∧ Q (after next s before) step := by
  induction steps generalizing s with
  | nil => exact .inl hafter
  | cons step steps ih =>
    rcases ih h.2 hafter with hnext | ⟨before, other, later, rfl, hother⟩
    · exact (hstep s step h.1 hnext).imp_right fun hfirst => ⟨[], step, steps, rfl, hfirst⟩
    · exact .inr ⟨step :: before, other, later, rfl, hother⟩

end Interaction
