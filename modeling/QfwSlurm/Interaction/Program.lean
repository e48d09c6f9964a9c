import Mathlib.Tactic

/-!
# Interactive programs

A `Program Q A α` computes a value of type `α` by putting questions `q : Q` to its environment and
continuing with the answer, a value of `A q`.  Questions stand for everything a program does besides
computing: reading a store, writing to it, calling a remote service.

An `Environment` answers a question from its own state and from the trace of questions and answers
so far, and may change its state.  `Program.run` executes a program against an environment and
records the trace.  A program that can fail is a `Procedure`, the exception transformer over
programs; `Procedure.exec` is its execution, and the equations of this file unfold it statement by
statement.

`Program.Asks` bounds the questions a program can ever put, whatever the answers are; the rule
`Program.run_invariant` derives from it that a property of the state survives a whole run.
-/

namespace Interaction

/-- A program of result type `α` that puts questions `q : Q` with answers in `A q`. -/
inductive Program (Q : Type) (A : Q → Type) (α : Type) : Type where
  /-- The program has ended with a result. -/
  | done (a : α) : Program Q A α
  /-- The program puts the question `q` and continues with its answer. -/
  | ask (q : Q) (next : A q → Program Q A α) : Program Q A α

/-- The state of the environment together with the questions and answers so far, oldest first. -/
structure World (S Q : Type) (A : Q → Type) where
  /-- The state the environment keeps. -/
  state : S
  /-- The questions put so far, each with its answer. -/
  trace : List (Σ q, A q)

/-- An environment: how a question is answered in a world, and the state it leaves. -/
abbrev Environment (S Q : Type) (A : Q → Type) := (q : Q) → World S Q A → A q × S

variable {S Q : Type} {A : Q → Type} {α β ε : Type}

/-- Answer one question and record it in the trace. -/
def Environment.respond (E : Environment S Q A) (q : Q) (w : World S Q A) : A q × World S Q A :=
  ((E q w).1, ⟨(E q w).2, w.trace ++ [⟨q, (E q w).1⟩]⟩)

namespace Program

/-- Sequential composition. -/
protected def bind : Program Q A α → (α → Program Q A β) → Program Q A β
  | .done a, f => f a
  | .ask q next, f => .ask q fun a => (next a).bind f

instance : Monad (Program Q A) where
  pure := .done
  bind := Program.bind

/-- The program that puts one question and returns its answer. -/
def question (q : Q) : Program Q A (A q) := .ask q .done

/-- Execute a program against an environment. -/
def run (E : Environment S Q A) : Program Q A α → World S Q A → α × World S Q A
  | .done a, w => (a, w)
  | .ask q next, w => (next (E.respond q w).1).run E (E.respond q w).2

/-! ### The monad laws and the equations of a run -/

lemma bind_eq (p : Program Q A α) (f : α → Program Q A β) : p >>= f = p.bind f := rfl

/-- Returning the result unchanged does nothing. -/
lemma bind_done (p : Program Q A α) : p.bind .done = p := by
  induction p with
  | done a => rfl
  | ask q next ih => exact congrArg (Program.ask q) (funext ih)

/-- Composition is associative. -/
lemma bind_assoc {γ : Type} (p : Program Q A α) (f : α → Program Q A β) (g : β → Program Q A γ) :
    (p.bind f).bind g = p.bind fun a => (f a).bind g := by
  induction p with
  | done a => rfl
  | ask q next ih => exact congrArg (Program.ask q) (funext ih)

instance : LawfulMonad (Program Q A) :=
  LawfulMonad.mk' (Program Q A) (fun p => bind_done p) (fun _ _ => rfl)
    (fun p f g => bind_assoc p f g)

/-- A finished program changes nothing. -/
@[simp] lemma run_pure (E : Environment S Q A) (a : α) (w : World S Q A) :
    (pure a : Program Q A α).run E w = (a, w) := rfl

/-- Putting one question is answering it. -/
@[simp] lemma run_question (E : Environment S Q A) (q : Q) (w : World S Q A) :
    (question q).run E w = E.respond q w := rfl

/-- A composition runs its parts one after the other. -/
@[simp] lemma run_bind (E : Environment S Q A) (p : Program Q A α) (f : α → Program Q A β)
    (w : World S Q A) : (p >>= f).run E w = (f (p.run E w).1).run E (p.run E w).2 := by
  rw [bind_eq]
  induction p generalizing w with
  | done a => rfl
  | ask q next ih => exact ih _ _

/-! ### What a program may ask -/

/-- Every question the program can put, whatever the answers are, satisfies `P`. -/
def Asks (P : Q → Prop) : Program Q A α → Prop
  | .done _ => True
  | .ask q next => P q ∧ ∀ a, (next a).Asks P

@[simp] lemma asks_pure (P : Q → Prop) (a : α) : (pure a : Program Q A α).Asks P := trivial

@[simp] lemma asks_question (P : Q → Prop) (q : Q) :
    (question q : Program Q A (A q)).Asks P ↔ P q :=
  ⟨fun h => h.1, fun h => ⟨h, fun _ => trivial⟩⟩

/-- Every program asks something or nothing. -/
lemma asks_true (p : Program Q A α) : p.Asks fun _ => True := by
  induction p with
  | done a => trivial
  | ask q next ih => exact ⟨trivial, ih⟩

/-- The questions of a composition are those of its parts. -/
lemma Asks.bind {P : Q → Prop} {p : Program Q A α} {f : α → Program Q A β} (hp : p.Asks P)
    (hf : ∀ a, (f a).Asks P) : (p >>= f).Asks P := by
  rw [bind_eq]
  induction p with
  | done a => exact hf a
  | ask q next ih => exact ⟨hp.1, fun a => ih a (hp.2 a)⟩

/-- A program that asks less asks no more. -/
lemma Asks.mono {P P' : Q → Prop} (h : ∀ q, P q → P' q) {p : Program Q A α} (hp : p.Asks P) :
    p.Asks P' := by
  induction p with
  | done a => trivial
  | ask q next ih => exact ⟨h q hp.1, fun a => ih a (hp.2 a)⟩

/-- The invariant rule: a relation between states that is reflexive, transitive and respected by
every question the program may put holds between the states before and after a run. -/
theorem run_invariant {P : Q → Prop} {R : S → S → Prop} (hrefl : ∀ s, R s s)
    (htrans : ∀ {s t u}, R s t → R t u → R s u) (E : Environment S Q A)
    (hstep : ∀ q w, P q → R w.state (E q w).2) {p : Program Q A α} (hp : p.Asks P)
    (w : World S Q A) : R w.state (p.run E w).2.state := by
  induction p generalizing w with
  | done a => exact hrefl _
  | ask q next ih =>
    have hnext := ih (E.respond q w).1 (hp.2 _) (E.respond q w).2
    exact htrans (hstep q w hp.1) hnext

/-- A run only adds to the trace, and every question it adds is one the program may put. -/
theorem run_trace_asks {P : Q → Prop} (E : Environment S Q A) {p : Program Q A α} (hp : p.Asks P)
    (w : World S Q A) :
    ∃ events, (p.run E w).2.trace = w.trace ++ events ∧ ∀ e ∈ events, P e.1 := by
  induction p generalizing w with
  | done a => exact ⟨[], (List.append_nil _).symm, by simp⟩
  | ask q next ih =>
    obtain ⟨events, htrace, hevents⟩ := ih (E.respond q w).1 (hp.2 _) (E.respond q w).2
    refine ⟨⟨q, (E q w).1⟩ :: events, ?_, ?_⟩
    · refine htrace.trans ?_
      simp [Environment.respond]
    · simpa using ⟨hp.1, hevents⟩

/-- Every answer in the trace of a run is one the environment can give. -/
theorem run_trace_answers {P : (Σ q, A q) → Prop} (E : Environment S Q A)
    (hE : ∀ q w, P ⟨q, (E q w).1⟩) (p : Program Q A α) (w : World S Q A) :
    ∃ events, (p.run E w).2.trace = w.trace ++ events ∧ ∀ e ∈ events, P e := by
  induction p generalizing w with
  | done a => exact ⟨[], (List.append_nil _).symm, by simp⟩
  | ask q next ih =>
    obtain ⟨events, htrace, hevents⟩ := ih (E.respond q w).1 (E.respond q w).2
    refine ⟨⟨q, (E q w).1⟩ :: events, ?_, ?_⟩
    · refine htrace.trans ?_
      simp [Environment.respond]
    · simpa using ⟨hE q w, hevents⟩

end Program

/-! ### Procedures: programs that can fail -/

/-- A program that ends with a value or with an error. -/
abbrev Procedure (Q : Type) (A : Q → Type) (ε α : Type) := ExceptT ε (Program Q A) α

namespace Procedure

/-- Execute a procedure against an environment. -/
def exec (E : Environment S Q A) (x : Procedure Q A ε α) (w : World S Q A) :
    Except ε α × World S Q A :=
  Program.run E (ExceptT.run x) w

@[simp] lemma exec_pure (E : Environment S Q A) (a : α) (w : World S Q A) :
    exec E (pure a : Procedure Q A ε α) w = (.ok a, w) := rfl

@[simp] lemma exec_throw (E : Environment S Q A) (e : ε) (w : World S Q A) :
    exec E (throw e : Procedure Q A ε α) w = (.error e, w) := rfl

@[simp] lemma exec_mk (E : Environment S Q A) (p : Program Q A (Except ε α)) (w : World S Q A) :
    exec E (ExceptT.mk p : Procedure Q A ε α) w = p.run E w := rfl

/-- A sequence of statements stops at the first error. -/
@[simp] lemma exec_bind (E : Environment S Q A) (x : Procedure Q A ε α)
    (f : α → Procedure Q A ε β) (w : World S Q A) :
    exec E (x >>= f) w =
      match exec E x w with
      | (.ok a, w') => exec E (f a) w'
      | (.error e, w') => (.error e, w') := by
  simp only [exec, ExceptT.run_bind, Program.run_bind]
  cases h : Program.run E x.run w with
  | mk r w' => cases r <;> rfl

/-- A handler runs exactly when the guarded statements fail, in the world they left. -/
@[simp] lemma exec_tryCatch (E : Environment S Q A) (x : Procedure Q A ε α)
    (handler : ε → Procedure Q A ε α) (w : World S Q A) :
    exec E (tryCatch x handler) w =
      match exec E x w with
      | (.ok a, w') => (.ok a, w')
      | (.error e, w') => exec E (handler e) w' := by
  simp only [exec, ExceptT.run_tryCatch, Program.run_bind]
  cases h : Program.run E x.run w with
  | mk r w' => cases r <;> rfl

section Steps

variable {E : Environment S Q A} {x : Procedure Q A ε α} {w w' : World S Q A}

/-- A sequence continues after a statement that returned. -/
lemma exec_bind_ok {a : α} (h : exec E x w = (.ok a, w')) (f : α → Procedure Q A ε β) :
    exec E (x >>= f) w = exec E (f a) w' := by
  rw [exec_bind, h]

/-- A sequence ends at a statement that raised. -/
lemma exec_bind_error {e : ε} (h : exec E x w = (.error e, w')) (f : α → Procedure Q A ε β) :
    exec E (x >>= f) w = (.error e, w') := by
  rw [exec_bind, h]

/-- A guarded statement that returns skips the handler. -/
lemma exec_tryCatch_ok {a : α} (h : exec E x w = (.ok a, w')) (handler : ε → Procedure Q A ε α) :
    exec E (tryCatch x handler) w = (.ok a, w') := by
  rw [exec_tryCatch, h]

/-- A guarded statement that raises runs the handler. -/
lemma exec_tryCatch_error {e : ε} (h : exec E x w = (.error e, w'))
    (handler : ε → Procedure Q A ε α) : exec E (tryCatch x handler) w = exec E (handler e) w' := by
  rw [exec_tryCatch, h]

end Steps

/-- Changing the error changes nothing else. -/
@[simp] lemma exec_adapt {ε' : Type} (E : Environment S Q A) (f : ε → ε') (x : Procedure Q A ε α)
    (w : World S Q A) :
    exec E (ExceptT.adapt f x : Procedure Q A ε' α) w =
      match exec E x w with
      | (.ok a, w') => (.ok a, w')
      | (.error e, w') => (.error (f e), w') := by
  have hrun : exec E (ExceptT.adapt f x : Procedure Q A ε' α) w =
      ((Program.run E x.run w).1.mapError f, (Program.run E x.run w).2) := by
    have hadapt : (ExceptT.adapt f x : Procedure Q A ε' α).run = (Except.mapError f) <$> x.run := rfl
    rw [exec, hadapt, ← bind_pure_comp, Program.run_bind]
    rfl
  rw [hrun, exec]
  cases h : Program.run E x.run w with
  | mk r w' => cases r <;> rfl

/-- A procedure that is run for its outcome does not fail. -/
@[simp] lemma exec_lift_run {ε' : Type} (E : Environment S Q A) (x : Procedure Q A ε' α)
    (w : World S Q A) :
    exec E (ExceptT.lift (ExceptT.run x) : Procedure Q A ε (Except ε' α)) w =
      (.ok (exec E x w).1, (exec E x w).2) := by
  simp only [exec, ExceptT.lift, ExceptT.run_mk, ← bind_pure_comp, Program.run_bind,
    Program.run_pure]

/-- The questions a procedure may put. -/
def Asks (P : Q → Prop) (x : Procedure Q A ε α) : Prop := Program.Asks P (ExceptT.run x)

@[simp] lemma asks_pure (P : Q → Prop) (a : α) : Asks P (pure a : Procedure Q A ε α) := trivial

@[simp] lemma asks_throw (P : Q → Prop) (e : ε) : Asks P (throw e : Procedure Q A ε α) := trivial

lemma Asks.mono {P P' : Q → Prop} (h : ∀ q, P q → P' q) {x : Procedure Q A ε α} (hx : Asks P x) :
    Asks P' x :=
  Program.Asks.mono h hx

lemma Asks.bind {P : Q → Prop} {x : Procedure Q A ε α} {f : α → Procedure Q A ε β}
    (hx : Asks P x) (hf : ∀ a, Asks P (f a)) : Asks P (x >>= f) := by
  refine Program.Asks.bind hx fun r => ?_
  cases r with
  | ok a => exact hf a
  | error e => trivial

lemma Asks.tryCatch {P : Q → Prop} {x : Procedure Q A ε α} {handler : ε → Procedure Q A ε α}
    (hx : Asks P x) (hh : ∀ e, Asks P (handler e)) :
    Asks P (MonadExcept.tryCatch x handler : Procedure Q A ε α) := by
  refine Program.Asks.bind hx fun r => ?_
  cases r with
  | ok a => trivial
  | error e => exact hh e

lemma Asks.adapt {ε' : Type} {P : Q → Prop} {x : Procedure Q A ε α} (hx : Asks P x) (f : ε → ε') :
    Asks P (ExceptT.adapt f x : Procedure Q A ε' α) :=
  Program.Asks.bind hx fun _ => trivial

lemma Asks.lift_run {ε' : Type} {P : Q → Prop} {x : Procedure Q A ε α} (hx : Asks P x) :
    Asks P (ExceptT.lift (ExceptT.run x) : Procedure Q A ε' (Except ε α)) :=
  Program.Asks.bind hx fun _ => trivial

end Procedure

end Interaction
