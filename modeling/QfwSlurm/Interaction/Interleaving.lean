import QfwSlurm.Interaction.Program
import QfwSlurm.Interaction.Machine

/-!
# Programs side by side

Programs that share a state are run step by step, one question at a time.  `Program.advance` puts
the next question of one program and `Program.runFor` the next `n`; a program that is stopped early
is one that is never advanced again.  A `Pool` has a family of programs on one state, each with the
trace of its own questions; a schedule is the list of the programs that take the steps, and
`after (Pool.step E)` runs it.

A `Discipline` is an automaton that reads the questions of a program and their answers: it says
which questions may be put in which standing, and where an answer leads.  `Program.Follows` states
that a program keeps to it whatever it is answered, and comes with a rule for each way programs are
composed.  What every allowed question preserves then holds at every point of every interleaving
(`Pool.disciplined`).

`Pool.alone` is about programs that own disjoint sets of cells of the state: in every interleaving
each of them does what it does alone.
-/

namespace Interaction

variable {ι S Q σ : Type} {A : Q → Type} {α β ε : Type}

/-! ### One question at a time -/

namespace Program

/-- Put the next question, if there is one. -/
def advance (E : Environment S Q A) :
    Program Q A α × World S Q A → Program Q A α × World S Q A
  | (.done a, w) => (.done a, w)
  | (.ask q next, w) => (next (E.respond q w).1, (E.respond q w).2)

/-- Put the next `n` questions. -/
def runFor (E : Environment S Q A) (n : ℕ) (p : Program Q A α) (w : World S Q A) :
    Program Q A α × World S Q A :=
  (advance E)^[n] (p, w)

/-- What the program has ended with, if it has. -/
def result : Program Q A α → Option α
  | .done a => some a
  | .ask _ _ => none

lemma result_eq_some {p : Program Q A α} {a : α} : p.result = some a ↔ p = .done a := by
  cases p with
  | done b => simp [result]
  | ask q next => simp [result]

@[simp] lemma runFor_zero (E : Environment S Q A) (p : Program Q A α) (w : World S Q A) :
    runFor E 0 p w = (p, w) := rfl

lemma runFor_succ (E : Environment S Q A) (n : ℕ) (p : Program Q A α) (w : World S Q A) :
    runFor E (n + 1) p w = advance E (runFor E n p w) :=
  Function.iterate_succ_apply' _ _ _

/-- Putting a question does not change how the program ends. -/
lemma run_advance (E : Environment S Q A) (x : Program Q A α × World S Q A) :
    (advance E x).1.run E (advance E x).2 = x.1.run E x.2 := by
  obtain ⟨p, w⟩ := x
  cases p with
  | done a => rfl
  | ask q next => rfl

/-- Neither do several. -/
lemma run_runFor (E : Environment S Q A) (n : ℕ) (p : Program Q A α) (w : World S Q A) :
    (runFor E n p w).1.run E (runFor E n p w).2 = p.run E w := by
  induction n with
  | zero => rfl
  | succ n ih => rw [runFor_succ, run_advance, ih]

/-- A program ends after some number of questions. -/
lemma exists_runFor (E : Environment S Q A) (p : Program Q A α) (w : World S Q A) :
    ∃ n, runFor E n p w = (.done (p.run E w).1, (p.run E w).2) := by
  induction p generalizing w with
  | done a => exact ⟨0, rfl⟩
  | ask q next ih =>
    obtain ⟨n, hn⟩ := ih (E.respond q w).1 (E.respond q w).2
    exact ⟨n + 1, hn⟩

/-- A program that has ended after `n` questions has been run. -/
lemma run_of_runFor {E : Environment S Q A} {n : ℕ} {p : Program Q A α} {w : World S Q A} {a : α}
    (h : (runFor E n p w).1 = .done a) : p.run E w = (a, (runFor E n p w).2) := by
  rw [← run_runFor E n p w, h]
  rfl

end Program

/-! ### Pools and schedules -/

/-- A program in the middle of its run, with the trace of its own questions. -/
structure Thread (Q : Type) (A : Q → Type) (α : Type) where
  /-- What is left of the program. -/
  left : Program Q A α
  /-- Its questions so far, each with its answer. -/
  trace : List (Σ q, A q)

/-- Programs that run side by side on one state. -/
structure Pool (ι S Q : Type) (A : Q → Type) (α : Type) where
  /-- The state they share. -/
  state : S
  /-- The programs. -/
  thread : ι → Thread Q A α

namespace Pool

/-- No program has put a question yet. -/
def start (s : S) (p : ι → Program Q A α) : Pool ι S Q A α := ⟨s, fun i => ⟨p i, []⟩⟩

/-- The world as a program of the pool sees it. -/
def view (pool : Pool ι S Q A α) (i : ι) : Program Q A α × World S Q A :=
  ((pool.thread i).left, ⟨pool.state, (pool.thread i).trace⟩)

variable [DecidableEq ι]

/-- One program puts its next question; each is answered by an environment of its own. -/
def step (E : ι → Environment S Q A) (pool : Pool ι S Q A α) (i : ι) : Pool ι S Q A α :=
  let next := Program.advance (E i) (pool.view i)
  ⟨next.2.state, Function.update pool.thread i ⟨next.1, next.2.trace⟩⟩

variable (E : ι → Environment S Q A) (pool : Pool ι S Q A α) (i k : ι)

@[simp] lemma step_state :
    (pool.step E i).state = (Program.advance (E i) (pool.view i)).2.state := rfl

lemma thread_step_self :
    (pool.step E i).thread i = ⟨(Program.advance (E i) (pool.view i)).1,
      (Program.advance (E i) (pool.view i)).2.trace⟩ := by
  simp [step]

/-- The other programs of the pool stay where they are. -/
lemma thread_step_of_ne (h : k ≠ i) : (pool.step E i).thread k = pool.thread k := by
  simp [step, h]

end Pool

/-! ### Disciplines -/

/-- Which questions may be put in which standing, and the standing an answer leads to. -/
structure Discipline (Q : Type) (A : Q → Type) (σ : Type) where
  /-- The question may be put. -/
  allows : σ → Q → Prop
  /-- The standing after the answer. -/
  move : σ → (q : Q) → A q → σ

/-- From the standing on the program keeps to the discipline whatever it is answered, and it ends
with a result and a standing as stated. -/
def Program.Follows (D : Discipline Q A σ) (Post : α → σ → Prop) : σ → Program Q A α → Prop
  | s, .done a => Post a s
  | s, .ask q next => D.allows s q ∧ ∀ a, (next a).Follows D Post (D.move s q a)

namespace Program

variable {D : Discipline Q A σ} {s : σ}

/-- A program that keeps to the discipline ends with anything that follows. -/
lemma Follows.mono {Post Post' : α → σ → Prop} (hpost : ∀ a s, Post a s → Post' a s)
    {p : Program Q A α} (h : p.Follows D Post s) : p.Follows D Post' s := by
  induction p generalizing s with
  | done a => exact hpost a s h
  | ask q next ih => exact ⟨h.1, fun a => ih a (h.2 a)⟩

/-- A composition keeps to the discipline if the second part does from where the first one ends. -/
lemma Follows.bind {Post : β → σ → Prop} {p : Program Q A α} {f : α → Program Q A β}
    (h : p.Follows D (fun a s' => (f a).Follows D Post s') s) : (p >>= f).Follows D Post s := by
  rw [bind_eq]
  induction p generalizing s with
  | done a => exact h
  | ask q next ih => exact ⟨h.1, fun a => ih a (h.2 a)⟩

/-- Questions that are allowed and lead nowhere else keep to the discipline. -/
lemma Follows.of_asks {P : Q → Prop} {p : Program Q A α} (hp : p.Asks P)
    (hallows : ∀ q, P q → D.allows s q) (hmove : ∀ q, P q → ∀ a, D.move s q a = s) :
    p.Follows D (fun _ s' => s' = s) s := by
  induction p with
  | done a => rfl
  | ask q next ih =>
    refine ⟨hallows q hp.1, fun a => ?_⟩
    rw [hmove q hp.1 a]
    exact ih a (hp.2 a)

/-- From a standing that no answer leaves, the program asks what the standing allows. -/
lemma Follows.asks {Post : α → σ → Prop} (hclosed : ∀ q, D.allows s q → ∀ a, D.move s q a = s)
    {p : Program Q A α} (h : p.Follows D Post s) : p.Asks (D.allows s) := by
  induction p with
  | done a => trivial
  | ask q next ih =>
    refine ⟨h.1, fun a => ih a ?_⟩
    have hnext := h.2 a
    rw [hclosed q h.1 a] at hnext
    exact hnext

end Program

namespace Procedure

variable {D : Discipline Q A σ} {s : σ}

/-- A procedure keeps to the discipline; it ends with a value or an error as stated. -/
def Follows (D : Discipline Q A σ) (Post : Except ε α → σ → Prop) (s : σ)
    (x : Procedure Q A ε α) : Prop :=
  Program.Follows D Post s (ExceptT.run x)

lemma Follows.mono {Post Post' : Except ε α → σ → Prop} (hpost : ∀ r s, Post r s → Post' r s)
    {x : Procedure Q A ε α} (h : Follows D Post s x) : Follows D Post' s x :=
  Program.Follows.mono hpost h

/-- The statements after one that returned go on from where it ends; an error goes past them. -/
lemma Follows.bind {Post : Except ε β → σ → Prop} {x : Procedure Q A ε α}
    {f : α → Procedure Q A ε β}
    (h : Follows D (fun r s' => (∀ a, r = .ok a → Follows D Post s' (f a)) ∧
      ∀ e, r = .error e → Post (.error e) s') s x) : Follows D Post s (x >>= f) := by
  refine Program.Follows.bind (Program.Follows.mono ?_ h)
  rintro (e | a) s' ⟨hok, herror⟩
  · exact herror e rfl
  · exact hok a rfl

/-- A handler goes on from where the guarded statements have failed. -/
lemma Follows.tryCatch {Post : Except ε α → σ → Prop} {x : Procedure Q A ε α}
    {handler : ε → Procedure Q A ε α}
    (h : Follows D (fun r s' => (∀ a, r = .ok a → Post (.ok a) s') ∧
      ∀ e, r = .error e → Follows D Post s' (handler e)) s x) :
    Follows D Post s (MonadExcept.tryCatch x handler : Procedure Q A ε α) := by
  refine Program.Follows.bind (Program.Follows.mono ?_ h)
  rintro (e | a) s' ⟨hok, herror⟩
  · exact herror e rfl
  · exact hok a rfl

lemma Follows.of_asks {P : Q → Prop} {x : Procedure Q A ε α} (hx : Asks P x)
    (hallows : ∀ q, P q → D.allows s q) (hmove : ∀ q, P q → ∀ a, D.move s q a = s) :
    Follows D (fun _ s' => s' = s) s x :=
  Program.Follows.of_asks hx hallows hmove

/-- Statements that lead nowhere else, and what comes after them. -/
lemma Follows.asks_bind {P : Q → Prop} {Post : Except ε β → σ → Prop} {x : Procedure Q A ε α}
    {f : α → Procedure Q A ε β} (hx : Asks P x) (hallows : ∀ q, P q → D.allows s q)
    (hmove : ∀ q, P q → ∀ a, D.move s q a = s) (hf : ∀ a, Follows D Post s (f a))
    (herror : ∀ e, Post (.error e) s) : Follows D Post s (x >>= f) := by
  refine Follows.bind ((Follows.of_asks hx hallows hmove).mono fun r s' hs => ?_)
  subst hs
  exact ⟨fun a _ => hf a, fun e _ => herror e⟩

end Procedure

/-! ### What a discipline preserves -/

section Preserved

variable {E : Environment S Q A} {D : Discipline Q A σ} {Post : α → σ → Prop}

/-- One step of a program that keeps to a discipline: it has ended, or puts an allowed question. -/
lemma Program.Follows.advance {s : σ} {x : Program Q A α × World S Q A}
    (h : x.1.Follows D Post s) :
    Program.advance E x = x ∨
      ∃ q, D.allows s q ∧
        (Program.advance E x).1.Follows D Post (D.move s q (E q x.2).1) ∧
        (Program.advance E x).2 = ⟨(E q x.2).2, x.2.trace ++ [⟨q, (E q x.2).1⟩]⟩ := by
  obtain ⟨p, w⟩ := x
  cases p with
  | done a => exact .inl rfl
  | ask q next => exact .inr ⟨q, h.1, h.2 _, rfl⟩

/-- What every allowed question preserves holds at every point of the run of a program that keeps
to the discipline. -/
theorem Program.Follows.runFor (Inv : World S Q A → σ → Prop)
    (hstep : ∀ w s q, Inv w s → D.allows s q → Inv (E.respond q w).2 (D.move s q (E q w).1))
    {p : Program Q A α} {w : World S Q A} {s : σ} (h : p.Follows D Post s) (hw : Inv w s) (n : ℕ) :
    ∃ s', (Program.runFor E n p w).1.Follows D Post s' ∧ Inv (Program.runFor E n p w).2 s' := by
  induction n with
  | zero => exact ⟨s, h, hw⟩
  | succ n ih =>
    obtain ⟨s', hfollows, hinv⟩ := ih
    rw [Program.runFor_succ]
    rcases hfollows.advance (E := E) with heq | ⟨q, hallows, hnext, hworld⟩
    · rw [heq]
      exact ⟨s', hfollows, hinv⟩
    · refine ⟨_, hnext, ?_⟩
      rw [hworld]
      exact hstep _ _ q hinv hallows

end Preserved

section Disciplined

variable [DecidableEq ι] {E : ι → Environment S Q A} {D : ι → Discipline Q A σ}
  {Post : ι → α → σ → Prop}

/-- Every program of the pool keeps to its discipline from its standing on, and the standings fit
the state. -/
structure Pool.Disciplined (D : ι → Discipline Q A σ) (Post : ι → α → σ → Prop)
    (Inv : S → (ι → σ) → Prop) (pool : Pool ι S Q A α) (standing : ι → σ) : Prop where
  follows : ∀ i, (pool.thread i).left.Follows (D i) (Post i) (standing i)
  inv : Inv pool.state standing

/-- One step of a disciplined pool: nothing happens, or the program puts an allowed question. -/
lemma Pool.Disciplined.step_cases {Inv : S → (ι → σ) → Prop} {pool : Pool ι S Q A α}
    {standing : ι → σ} (h : pool.Disciplined D Post Inv standing) (i : ι) :
    ((pool.step E i).state = pool.state ∧ pool.Disciplined D Post Inv standing ∧
        (pool.step E i).thread = pool.thread) ∨
      ∃ q, (D i).allows (standing i) q ∧
        (pool.step E i).state = (E i q (pool.view i).2).2 ∧
        ∀ k, ((pool.step E i).thread k).left.Follows (D k) (Post k)
          (Function.update standing i ((D i).move (standing i) q (E i q (pool.view i).2).1) k) := by
  have hi : (pool.view i).1.Follows (D i) (Post i) (standing i) := h.follows i
  rcases hi.advance (E := E i) with heq | ⟨q, hallows, hnext, hworld⟩
  · refine .inl ⟨?_, h, ?_⟩
    · rw [Pool.step_state, heq]
      rfl
    · rw [Pool.step, heq]
      exact Function.update_eq_self i pool.thread
  · refine .inr ⟨q, hallows, ?_, fun k => ?_⟩
    · rw [Pool.step_state, hworld]
    · by_cases hk : k = i
      · subst hk
        rw [Function.update_self, Pool.thread_step_self]
        exact hnext
      · rw [Function.update_of_ne hk, Pool.thread_step_of_ne E pool i k hk]
        exact h.follows k

/-- Every program of the pool keeps to its discipline from its standing on, and the standings fit
the state and the traces of the programs. -/
structure Pool.Traced (D : ι → Discipline Q A σ) (Post : ι → α → σ → Prop)
    (Inv : S → (ι → List (Σ q, A q)) → (ι → σ) → Prop) (pool : Pool ι S Q A α)
    (standing : ι → σ) : Prop where
  follows : ∀ i, (pool.thread i).left.Follows (D i) (Post i) (standing i)
  inv : Inv pool.state (fun i => (pool.thread i).trace) standing

/-- If every allowed question keeps the standings fitting the state and the traces, they fit after
every schedule: nothing is assumed about the order of the steps. -/
theorem Pool.Traced.after {Inv : S → (ι → List (Σ q, A q)) → (ι → σ) → Prop}
    (hstep : ∀ s traces standing i q, Inv s traces standing → (D i).allows (standing i) q →
      Inv (E i q ⟨s, traces i⟩).2
        (Function.update traces i (traces i ++ [⟨q, (E i q ⟨s, traces i⟩).1⟩]))
        (Function.update standing i ((D i).move (standing i) q (E i q ⟨s, traces i⟩).1)))
    {pool : Pool ι S Q A α} {standing : ι → σ} (h : pool.Traced D Post Inv standing)
    (schedule : List ι) :
    ∃ standing', (Interaction.after (Pool.step E) pool schedule).Traced D Post Inv standing' := by
  induction schedule generalizing pool standing with
  | nil => exact ⟨standing, h⟩
  | cons i schedule ih =>
    have hi : (pool.view i).1.Follows (D i) (Post i) (standing i) := h.follows i
    rcases hi.advance (E := E i) with heq | ⟨q, hallows, hnext, hworld⟩
    · -- the program has ended, and nothing happens
      have hsame : pool.step E i = pool := by
        rw [Pool.step, heq]
        exact congrArg (Pool.mk pool.state) (Function.update_eq_self i pool.thread)
      rw [after_cons, hsame]
      exact ih h
    · have htraces : (fun k => ((pool.step E i).thread k).trace) =
          Function.update (fun k => (pool.thread k).trace) i
            ((pool.thread i).trace ++ [⟨q, (E i q (pool.view i).2).1⟩]) := by
        funext k
        by_cases hk : k = i
        · subst hk
          rw [Function.update_self, Pool.thread_step_self, hworld]
          rfl
        · rw [Function.update_of_ne hk, Pool.thread_step_of_ne E pool i k hk]
      have hinv := hstep _ _ _ i q h.inv hallows
      have hafter : (pool.step E i).Traced D Post Inv (Function.update standing i
          ((D i).move (standing i) q (E i q (pool.view i).2).1)) := by
        refine ⟨fun k => ?_, ?_⟩
        · by_cases hk : k = i
          · subst hk
            rw [Function.update_self, Pool.thread_step_self]
            exact hnext
          · rw [Function.update_of_ne hk, Pool.thread_step_of_ne E pool i k hk]
            exact h.follows k
        · rw [htraces, Pool.step_state, hworld]
          exact hinv
      exact ih hafter

/-- The same for standings that fit the state. -/
theorem Pool.Disciplined.after {Inv : S → (ι → σ) → Prop}
    (hstep : ∀ s standing t i q, Inv s standing → (D i).allows (standing i) q →
      Inv (E i q ⟨s, t⟩).2
        (Function.update standing i ((D i).move (standing i) q (E i q ⟨s, t⟩).1)))
    {pool : Pool ι S Q A α} {standing : ι → σ} (h : pool.Disciplined D Post Inv standing)
    (schedule : List ι) :
    ∃ standing', (Interaction.after (Pool.step E) pool schedule).Disciplined D Post Inv
      standing' := by
  have htraced : pool.Traced D Post (fun s _ standing => Inv s standing) standing :=
    ⟨h.follows, h.inv⟩
  obtain ⟨standing', hafter⟩ := Pool.Traced.after (E := E)
    (fun s traces standing i q hinv hallows => hstep s standing (traces i) i q hinv hallows)
    htraced schedule
  exact ⟨standing', hafter.follows, hafter.inv⟩

end Disciplined

/-! ### Programs that keep apart -/

section Apart

variable {C : Type} {V : C → Type} (value : S → (c : C) → V c)

/-- The two states have the same values in the cells. -/
def AgreeOn (own : C → Prop) (s s' : S) : Prop := ∀ c, own c → value s c = value s' c

/-- Run programs one after the other, each from its beginning to its end. -/
def serially (E : ι → Environment S Q A) (p : ι → Program Q A α) (s : S) (order : List ι) : S :=
  after (fun s i => ((p i).run (E i) ⟨s, []⟩).2.state) s order

variable {value}

lemma AgreeOn.refl (own : C → Prop) (s : S) : AgreeOn value own s s := fun _ _ => rfl

lemma AgreeOn.trans {own : C → Prop} {s s' s'' : S} (h : AgreeOn value own s s')
    (h' : AgreeOn value own s' s'') : AgreeOn value own s s'' :=
  fun c hc => (h c hc).trans (h' c hc)

variable (value)

/-- The questions read and write the cells alone: where two states agree on them, the answers are
the same and the states agree on them afterwards, and no other cell is written. -/
structure Confined (own : C → Prop) (P : Q → Prop) (E : Environment S Q A) : Prop where
  answer : ∀ q s s' t, P q → AgreeOn value own s s' → (E q ⟨s, t⟩).1 = (E q ⟨s', t⟩).1
  keeps : ∀ q s s' t, P q → AgreeOn value own s s' →
    AgreeOn value own (E q ⟨s, t⟩).2 (E q ⟨s', t⟩).2
  frame : ∀ q s t c, P q → ¬ own c → value (E q ⟨s, t⟩).2 c = value s c

variable {value} {own : C → Prop} {P : Q → Prop} {E : Environment S Q A}

/-- What is left of a program asks no more than it did. -/
lemma Program.Asks.advance {x : Program Q A α × World S Q A} (h : x.1.Asks P) :
    (Program.advance E x).1.Asks P := by
  obtain ⟨p, w⟩ := x
  cases p with
  | done a => trivial
  | ask q next => exact h.2 _

namespace Confined

variable (hE : Confined value own P E)
include hE

/-- A confined program takes the same step wherever its cells have the same values. -/
lemma advance {p : Program Q A α} (hp : p.Asks P) {s s' : S} (t : List (Σ q, A q))
    (h : AgreeOn value own s s') :
    (Program.advance E (p, ⟨s, t⟩)).1 = (Program.advance E (p, ⟨s', t⟩)).1 ∧
      (Program.advance E (p, ⟨s, t⟩)).2.trace = (Program.advance E (p, ⟨s', t⟩)).2.trace ∧
      AgreeOn value own (Program.advance E (p, ⟨s, t⟩)).2.state
        (Program.advance E (p, ⟨s', t⟩)).2.state := by
  cases p with
  | done a => exact ⟨rfl, rfl, h⟩
  | ask q next =>
    have hanswer := hE.answer q s s' t hp.1 h
    refine ⟨?_, ?_, hE.keeps q s s' t hp.1 h⟩
    · simp only [Program.advance, Environment.respond, hanswer]
    · simp only [Program.advance, Environment.respond, hanswer]

/-- Its step writes no other cell. -/
lemma advance_frame {p : Program Q A α} (hp : p.Asks P) (w : World S Q A) {c : C} (hc : ¬ own c) :
    value (Program.advance E (p, w)).2.state c = value w.state c := by
  cases p with
  | done a => rfl
  | ask q next => exact hE.frame q w.state w.trace c hp.1 hc

/-- A confined program has the same run wherever its cells have the same values. -/
lemma run {p : Program Q A α} (hp : p.Asks P) {s s' : S} (t : List (Σ q, A q))
    (h : AgreeOn value own s s') :
    (p.run E ⟨s, t⟩).1 = (p.run E ⟨s', t⟩).1 ∧
      AgreeOn value own (p.run E ⟨s, t⟩).2.state (p.run E ⟨s', t⟩).2.state := by
  induction p generalizing s s' t with
  | done a => exact ⟨rfl, h⟩
  | ask q next ih =>
    have hanswer := hE.answer q s s' t hp.1 h
    simp only [Program.run, Environment.respond, hanswer]
    exact ih _ (hp.2 _) _ (hE.keeps q s s' t hp.1 h)

/-- Its run writes no other cell. -/
lemma run_frame {p : Program Q A α} (hp : p.Asks P) (w : World S Q A) {c : C} (hc : ¬ own c) :
    value (p.run E w).2.state c = value w.state c :=
  Program.run_invariant (R := fun s s' => value s' c = value s c) (fun _ => rfl)
    (fun h h' => h'.trans h) E (fun q w hq => hE.frame q w.state w.trace c hq hc) hp w

end Confined

variable [DecidableEq ι] {own : ι → C → Prop} {P : ι → Q → Prop} {E : ι → Environment S Q A}
  {p : ι → Program Q A α} (hE : ∀ i, Confined value (own i) (P i) (E i))
  (hp : ∀ i, (p i).Asks (P i)) (hapart : ∀ i k c, i ≠ k → own i c → ¬ own k c)

/-- What is left of the programs of a pool asks no more than they did. -/
lemma Pool.asks_after (hp : ∀ i, (p i).Asks (P i)) (s : S) (schedule : List ι) (i : ι) :
    ((Interaction.after (Pool.step E) (Pool.start s p) schedule).thread i).left.Asks (P i) := by
  induction schedule using List.reverseRecOn with
  | nil => exact hp i
  | append_singleton schedule k ih =>
    rw [after_append, after_cons, after_nil]
    by_cases hik : i = k
    · subst hik
      rw [Pool.thread_step_self]
      exact Program.Asks.advance ih
    · rw [Pool.thread_step_of_ne E _ k i hik]
      exact ih

include hE hp

/-- A step of another program leaves the cells of a program alone. -/
lemma Pool.agree_step (hapart : ∀ i k c, i ≠ k → own i c → ¬ own k c) (s : S) (schedule : List ι)
    {i k : ι} (hik : i ≠ k) :
    AgreeOn value (own i) (Interaction.after (Pool.step E) (Pool.start s p) (schedule ++ [k])).state
      (Interaction.after (Pool.step E) (Pool.start s p) schedule).state := by
  intro c hc
  rw [after_append, after_cons, after_nil, Pool.step_state]
  exact (hE k).advance_frame (Pool.asks_after hp s schedule k) _ (hapart i k c hik hc)

/-- In every interleaving a program of a pool whose programs keep apart is where it is after as
many questions of its own alone, and so are its cells. -/
theorem Pool.alone (hapart : ∀ i k c, i ≠ k → own i c → ¬ own k c) (s : S) (schedule : List ι)
    (i : ι) :
    (Interaction.after (Pool.step E) (Pool.start s p) schedule).thread i =
        ⟨((p i).runFor (E i) (schedule.count i) ⟨s, []⟩).1,
          ((p i).runFor (E i) (schedule.count i) ⟨s, []⟩).2.trace⟩ ∧
      AgreeOn value (own i) (Interaction.after (Pool.step E) (Pool.start s p) schedule).state
        ((p i).runFor (E i) (schedule.count i) ⟨s, []⟩).2.state := by
  induction schedule using List.reverseRecOn with
  | nil => exact ⟨rfl, AgreeOn.refl _ _⟩
  | append_singleton schedule k ih =>
    by_cases hik : i = k
    · subst hik
      have hcount : (schedule ++ [i]).count i = schedule.count i + 1 := by simp
      rw [hcount, Program.runFor_succ, after_append, after_cons, after_nil]
      have hasks := Pool.asks_after (E := E) hp s schedule i
      generalize Interaction.after (Pool.step E) (Pool.start s p) schedule = pool at ih hasks
      obtain ⟨hthread, hagree⟩ := ih
      generalize (p i).runFor (E i) (schedule.count i) ⟨s, []⟩ = x at hthread hagree
      obtain ⟨left, state, trace⟩ := x
      rw [hthread] at hasks
      obtain ⟨hleft, htrace, hstate⟩ := (hE i).advance hasks trace hagree
      rw [Pool.thread_step_self, Pool.step_state, Pool.view, hthread]
      refine ⟨?_, hstate⟩
      rw [hleft, htrace]
    · have hcount : (schedule ++ [k]).count i = schedule.count i := by
        simp [List.count_append, Ne.symm hik]
      rw [hcount]
      refine ⟨?_, (Pool.agree_step hE hp hapart s schedule hik).trans ih.2⟩
      rw [after_append, after_cons, after_nil, Pool.thread_step_of_ne E _ k i hik]
      exact ih.1

/-- A cell that no program owns is never written. -/
lemma Pool.value_of_unowned (s : S) (schedule : List ι) {c : C} (hc : ∀ i, ¬ own i c) :
    value (Interaction.after (Pool.step E) (Pool.start s p) schedule).state c = value s c := by
  induction schedule using List.reverseRecOn with
  | nil => rfl
  | append_singleton schedule k ih =>
    rw [after_append, after_cons, after_nil, Pool.step_state]
    exact ((hE k).advance_frame (Pool.asks_after hp s schedule k) _ (hc k)).trans ih

omit [DecidableEq ι] in
/-- Programs that run one after the other write no cell that none of them owns. -/
lemma serially_frame (s : S) (order : List ι) {c : C} (hc : ∀ i ∈ order, ¬ own i c) :
    value (serially E p s order) c = value s c := by
  induction order generalizing s with
  | nil => rfl
  | cons i order ih =>
    have hrest := ih ((p i).run (E i) ⟨s, []⟩).2.state
      fun k hk => hc k (List.mem_cons_of_mem i hk)
    exact hrest.trans ((hE i).run_frame (hp i) _ (hc i List.mem_cons_self))

omit [DecidableEq ι] in
/-- A program that runs after others that keep apart from it ends as it does alone, and so do its
cells when yet others run after it. -/
lemma serially_alone (hapart : ∀ i k c, i ≠ k → own i c → ¬ own k c) (s : S)
    {before rest : List ι} {i : ι} (hbefore : i ∉ before) (hrest : i ∉ rest) :
    ((p i).run (E i) ⟨serially E p s before, []⟩).1 = ((p i).run (E i) ⟨s, []⟩).1 ∧
      AgreeOn value (own i) (serially E p s (before ++ i :: rest))
        ((p i).run (E i) ⟨s, []⟩).2.state := by
  have hagree : AgreeOn value (own i) (serially E p s before) s := fun c hc =>
    serially_frame hE hp s before fun k hk =>
      hapart i k c (fun heq => hbefore (heq ▸ hk)) hc
  obtain ⟨hresult, hstate⟩ := (hE i).run (hp i) [] hagree
  refine ⟨hresult, fun c hc => ?_⟩
  have hlater : value (serially E p s (before ++ i :: rest)) c =
      value ((p i).run (E i) ⟨serially E p s before, []⟩).2.state c := by
    have hafter : serially E p s (before ++ i :: rest) =
        serially E p ((p i).run (E i) ⟨serially E p s before, []⟩).2.state rest :=
      after_append _ _ _ _
    rw [hafter]
    exact serially_frame hE hp _ rest fun k hk => hapart i k c (fun heq => hrest (heq ▸ hk)) hc
  exact hlater.trans (hstate c hc)

/-- When all programs of a pool that keep apart have ended, they have ended as they do one after
the other in any order, and every cell has the value it has then. -/
theorem Pool.as_serially (hapart : ∀ i k c, i ≠ k → own i c → ¬ own k c) (s : S)
    (schedule : List ι)
    (hended : ∀ i, ((Interaction.after (Pool.step E) (Pool.start s p) schedule).thread
      i).left.result.isSome = true)
    {order : List ι} (hnodup : order.Nodup) (hall : ∀ i, i ∈ order) :
    (∀ before i rest, order = before ++ i :: rest →
      ((Interaction.after (Pool.step E) (Pool.start s p) schedule).thread i).left.result =
        some ((p i).run (E i) ⟨serially E p s before, []⟩).1) ∧
    ∀ c, value (Interaction.after (Pool.step E) (Pool.start s p) schedule).state c =
      value (serially E p s order) c := by
  -- each program ends as it does alone
  have halone (i : ι) :
      ((Interaction.after (Pool.step E) (Pool.start s p) schedule).thread i).left.result =
          some ((p i).run (E i) ⟨s, []⟩).1 ∧
        AgreeOn value (own i) (Interaction.after (Pool.step E) (Pool.start s p) schedule).state
          ((p i).run (E i) ⟨s, []⟩).2.state := by
    obtain ⟨hthread, hagree⟩ := Pool.alone hE hp hapart s schedule i
    obtain ⟨a, ha⟩ := Option.isSome_iff_exists.mp (hended i)
    rw [hthread] at ha ⊢
    have hrun := Program.run_of_runFor (Program.result_eq_some.mp ha)
    rw [hrun]
    exact ⟨ha, hagree⟩
  have hsplit {before rest : List ι} {i : ι} (h : order = before ++ i :: rest) :
      i ∉ before ∧ i ∉ rest := by
    rw [h] at hnodup
    have hcons := List.nodup_middle.mp hnodup
    rw [List.nodup_cons, List.mem_append, not_or] at hcons
    exact hcons.1
  refine ⟨fun before i rest h => ?_, fun c => ?_⟩
  · rw [(halone i).1, (serially_alone hE hp hapart s (hsplit h).1 (hsplit h).2).1]
  · by_cases hc : ∃ i, own i c
    · obtain ⟨i, hi⟩ := hc
      obtain ⟨before, rest, h⟩ := List.append_of_mem (hall i)
      have hserial := (serially_alone hE hp hapart s (hsplit h).1 (hsplit h).2).2 c hi
      rw [h, hserial]
      exact (halone i).2 c hi
    · have hnone : ∀ i, ¬ own i c := fun i hi => hc ⟨i, hi⟩
      rw [Pool.value_of_unowned hE hp s schedule hnone,
        serially_frame hE hp s order fun i _ => hnone i]

end Apart

end Interaction
