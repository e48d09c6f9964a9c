import QfwSlurm.Interaction.Interleaving

/-!
# What holds along a run

A program that is stopped in the middle leaves the world as it is at that point.  `Program.Along`
states that an assertion holds at every point of a run in a given environment, and that the run ends
with a result and a world as stated.  It comes with a rule for each way programs are composed, so
the points of a long program are dealt with part by part.
-/

namespace Interaction

variable {S Q : Type} {A : Q → Type} {α β ε : Type}

/-- From the world on, the assertion holds at every point of the run of the program, and it ends
with a result and a world as stated. -/
def Program.Along (E : Environment S Q A) (I : World S Q A → Prop)
    (Post : α → World S Q A → Prop) : Program Q A α → World S Q A → Prop
  | .done a, w => I w ∧ Post a w
  | .ask q next, w => I w ∧ (next (E.respond q w).1).Along E I Post (E.respond q w).2

namespace Program

variable {E : Environment S Q A} {I : World S Q A → Prop} {w : World S Q A}

/-- The assertion holds where the run begins. -/
lemma Along.here {Post : α → World S Q A → Prop} {p : Program Q A α} (h : p.Along E I Post w) :
    I w := by
  cases p with
  | done a => exact h.1
  | ask q next => exact h.1

/-- A run ends with anything that follows; the assertion holds at its end too. -/
lemma Along.mono {Post Post' : α → World S Q A → Prop}
    (hpost : ∀ a w, I w → Post a w → Post' a w) {p : Program Q A α} (h : p.Along E I Post w) :
    p.Along E I Post' w := by
  induction p generalizing w with
  | done a => exact ⟨h.1, hpost a w h.1 h.2⟩
  | ask q next ih => exact ⟨h.1, ih _ h.2⟩

/-- The second part of a composition runs from where the first one ends. -/
lemma Along.bind {Post : β → World S Q A → Prop} {p : Program Q A α} {f : α → Program Q A β}
    (h : p.Along E I (fun a w' => (f a).Along E I Post w') w) : (p >>= f).Along E I Post w := by
  rw [bind_eq]
  induction p generalizing w with
  | done a => exact h.2
  | ask q next ih => exact ⟨h.1, ih _ h.2⟩

/-- Questions that keep a fact from which the assertion follows. -/
lemma Along.of_asks {P : Q → Prop} {J : World S Q A → Prop} (hassert : ∀ w, J w → I w)
    (hstep : ∀ q w, P q → J w → J (E.respond q w).2) {p : Program Q A α} (hp : p.Asks P)
    (hw : J w) : p.Along E I (fun _ w' => J w') w := by
  induction p generalizing w with
  | done a => exact ⟨hassert w hw, hw⟩
  | ask q next ih => exact ⟨hassert w hw, ih _ (hp.2 _) (hstep q w hp.1 hw)⟩

/-- What holds along the run holds after any number of its questions. -/
theorem Along.runFor {Post : α → World S Q A → Prop} {p : Program Q A α}
    (h : p.Along E I Post w) (n : ℕ) : I (Program.runFor E n p w).2 := by
  have hleft : (Program.runFor E n p w).1.Along E I Post (Program.runFor E n p w).2 := by
    induction n with
    | zero => exact h
    | succ n ih =>
      rw [runFor_succ]
      generalize Program.runFor E n p w = x at ih
      obtain ⟨left, w'⟩ := x
      cases left with
      | done a => exact ih
      | ask q next => exact ih.2
  exact hleft.here

end Program

namespace Procedure

variable {E : Environment S Q A} {I : World S Q A → Prop} {w : World S Q A}

/-- The same for a procedure; it ends with a value or an error as stated. -/
def Along (E : Environment S Q A) (I : World S Q A → Prop)
    (Post : Except ε α → World S Q A → Prop) (x : Procedure Q A ε α) (w : World S Q A) : Prop :=
  Program.Along E I Post (ExceptT.run x) w

lemma Along.here {Post : Except ε α → World S Q A → Prop} {x : Procedure Q A ε α}
    (h : Along E I Post x w) : I w :=
  Program.Along.here h

lemma Along.mono {Post Post' : Except ε α → World S Q A → Prop}
    (hpost : ∀ r w, I w → Post r w → Post' r w) {x : Procedure Q A ε α} (h : Along E I Post x w) :
    Along E I Post' x w :=
  Program.Along.mono hpost h

/-- The statements after one that returned go on from where it ends; an error goes past them. -/
lemma Along.bind {Post : Except ε β → World S Q A → Prop} {x : Procedure Q A ε α}
    {f : α → Procedure Q A ε β}
    (h : Along E I (fun r w' => (∀ a, r = .ok a → Along E I Post (f a) w') ∧
      ∀ e, r = .error e → Post (.error e) w') x w) : Along E I Post (x >>= f) w := by
  refine Program.Along.bind (Program.Along.mono ?_ h)
  rintro (e | a) w' hI ⟨hok, herror⟩
  · exact ⟨hI, herror e rfl⟩
  · exact hok a rfl

/-- A handler goes on from where the guarded statements have failed. -/
lemma Along.tryCatch {Post : Except ε α → World S Q A → Prop} {x : Procedure Q A ε α}
    {handler : ε → Procedure Q A ε α}
    (h : Along E I (fun r w' => (∀ a, r = .ok a → Post (.ok a) w') ∧
      ∀ e, r = .error e → Along E I Post (handler e) w') x w) :
    Along E I Post (MonadExcept.tryCatch x handler : Procedure Q A ε α) w := by
  refine Program.Along.bind (Program.Along.mono ?_ h)
  rintro (e | a) w' hI ⟨hok, herror⟩
  · exact herror e rfl
  · exact ⟨hI, hok a rfl⟩

/-- Changing the error changes nothing along the run. -/
lemma Along.adapt {ε' : Type} {f : ε → ε'} {Post : Except ε' α → World S Q A → Prop}
    {x : Procedure Q A ε α} (h : Along E I (fun r w' => Post (r.mapError f) w') x w) :
    Along E I Post (ExceptT.adapt f x : Procedure Q A ε' α) w :=
  Program.Along.bind (Program.Along.mono (fun _ _ hI hpost => ⟨hI, hpost⟩) h)

/-- Running a procedure for its outcome does not either. -/
lemma Along.lift_run {ε' : Type} {Post : Except ε' (Except ε α) → World S Q A → Prop}
    {x : Procedure Q A ε α} (h : Along E I (fun r w' => Post (.ok r) w') x w) :
    Along E I Post (ExceptT.lift (ExceptT.run x) : Procedure Q A ε' (Except ε α)) w :=
  Program.Along.bind (Program.Along.mono (fun _ _ hI hpost => ⟨hI, hpost⟩) h)

end Procedure

end Interaction
