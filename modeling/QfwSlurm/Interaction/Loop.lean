import Mathlib.Tactic

/-!
# Loops that may not end

A loop is a function `next : σ → Option σ`: the state after one round, or `none` where the loop is
left.  `loop next fuel s` is the state in which the loop is left, if that happens within `fuel`
rounds, and `Leads next s s'` says that the loop comes from `s` to `s'`.  `loop_of_measure` is the
rule for total correctness: an invariant, and a measure that every round makes smaller, give the
final state for every large enough fuel.
-/

namespace Interaction

variable {σ : Type}

/-- The state in which the loop is left. -/
def loop (next : σ → Option σ) : ℕ → σ → Option σ
  | 0, _ => none
  | fuel + 1, s =>
    match next s with
    | none => some s
    | some s' => loop next fuel s'

variable {next : σ → Option σ} {s s' : σ}

lemma loop_of_none (h : next s = none) (fuel : ℕ) : loop next (fuel + 1) s = some s := by
  rw [loop, h]

lemma loop_of_some (h : next s = some s') (fuel : ℕ) :
    loop next (fuel + 1) s = loop next fuel s' := by
  rw [loop, h]

/-- The loop comes from one state to the other. -/
def Leads (next : σ → Option σ) : σ → σ → Prop :=
  Relation.ReflTransGen fun s s' => next s = some s'

/-- A state that the loop comes by is one it goes on from. -/
lemma loop_of_leads (h : Leads next s s') :
    ∃ n, ∀ fuel, loop next (fuel + n) s = loop next fuel s' := by
  induction h with
  | refl => exact ⟨0, fun fuel => rfl⟩
  | tail _ hnext ih =>
    obtain ⟨n, hn⟩ := ih
    refine ⟨n + 1, fun fuel => ?_⟩
    rw [← loop_of_some hnext, ← hn (fuel + 1), Nat.add_right_comm, Nat.add_assoc]

/-- The loop comes by the state in which it is left. -/
lemma leads_of_loop {fuel : ℕ} (h : loop next fuel s = some s') : Leads next s s' := by
  induction fuel generalizing s with
  | zero => cases h
  | succ fuel ih =>
    cases hnext : next s with
    | none =>
      rw [loop_of_none hnext] at h
      rw [Option.some.inj h]
      exact Relation.ReflTransGen.refl
    | some after =>
      rw [loop_of_some hnext] at h
      exact Relation.ReflTransGen.head hnext (ih h)

/-- The states that the loop comes by, within so many rounds. -/
def visited (next : σ → Option σ) : ℕ → σ → List σ
  | 0, s => [s]
  | fuel + 1, s =>
    match next s with
    | none => [s]
    | some s' => s :: visited next fuel s'

/-- A loop that is left has come by no other states. -/
lemma mem_visited_of_leads {fuel : ℕ} (hleft : (loop next fuel s).isSome) (h : Leads next s s') :
    s' ∈ visited next fuel s := by
  induction fuel generalizing s with
  | zero => cases hleft
  | succ fuel ih =>
    rw [visited]
    cases hnext : next s with
    | none =>
      rcases Relation.ReflTransGen.cases_head h with rfl | ⟨_, hmore, -⟩
      · exact List.mem_singleton_self _
      · cases hnext.symm.trans hmore
    | some after =>
      rw [loop_of_some hnext] at hleft
      rcases Relation.ReflTransGen.cases_head h with rfl | ⟨_, hmore, hlater⟩
      · exact List.mem_cons_self
      · cases hnext.symm.trans hmore
        exact List.mem_cons_of_mem _ (ih hleft hlater)

/-- A loop with an invariant and a decreasing measure is left, in a state that meets the
invariant. -/
theorem loop_of_measure (Inv : σ → Prop) (measure : σ → ℕ)
    (hstep : ∀ s s', Inv s → next s = some s' → Inv s' ∧ measure s' < measure s) {s : σ}
    (hs : Inv s) :
    ∃ last, Inv last ∧ next last = none ∧
      ∀ fuel, measure s < fuel → loop next fuel s = some last := by
  -- by induction on a bound of the measure
  induction hn : measure s using Nat.strong_induction_on generalizing s with
  | _ n ih =>
    cases hnext : next s with
    | none =>
      refine ⟨s, hs, hnext, fun fuel hfuel => ?_⟩
      obtain ⟨fuel, rfl⟩ : ∃ k, fuel = k + 1 := ⟨fuel - 1, by omega⟩
      exact loop_of_none hnext fuel
    | some s' =>
      obtain ⟨hs', hless⟩ := hstep s s' hs hnext
      obtain ⟨last, hlast, hend, hloop⟩ := ih (measure s') (hn ▸ hless) hs' rfl
      refine ⟨last, hlast, hend, fun fuel hfuel => ?_⟩
      obtain ⟨fuel, rfl⟩ : ∃ k, fuel = k + 1 := ⟨fuel - 1, by omega⟩
      rw [loop_of_some hnext]
      exact hloop fuel (by omega)

end Interaction
