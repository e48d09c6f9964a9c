import QfwSlurm.Interaction.Interleaving

/-!
# Programs that take turns

Programs of a pool are divided into groups.  Programs of different groups own disjoint sets of
cells, and the programs of one group take turns: in a given order, each has put all the questions it
ever puts before the next one starts, while programs of other groups go on in between.  Yet other
programs of the pool, outside the order, read what they like and write nothing.

`Pool.as_inTurn` says that then nothing can be told from running the programs of the order one after
the other, each for as many questions as it has put: every one of them is where it is then, and so
is every cell.  Programs may have stopped early.
-/

namespace Interaction

variable {ι κ S Q C : Type} {A : Q → Type} {α : Type} {V : C → Type}
  {value : S → (c : C) → V c}

/-! ### Programs with cells of their own -/

/-- The program and its environment read and write the cells alone. -/
def Program.KeepsTo (value : S → (c : C) → V c) (own : C → Prop) (E : Environment S Q A)
    (p : Program Q A α) : Prop :=
  ∃ P : Q → Prop, Confined value own P E ∧ p.Asks P

/-- Whatever the program asks, the state stays as it is. -/
def Program.Observes (E : Environment S Q A) (p : Program Q A α) : Prop :=
  p.Asks fun q => ∀ w, (E q w).2 = w.state

section RunFor

variable {own : C → Prop} {P : Q → Prop} {E : Environment S Q A} {p : Program Q A α}

/-- What is left after some questions asks no more. -/
lemma Program.Asks.runFor (hp : p.Asks P) (n : ℕ) (w : World S Q A) :
    (p.runFor E n w).1.Asks P := by
  induction n with
  | zero => exact hp
  | succ n ih =>
    rw [Program.runFor_succ]
    exact ih.advance

namespace Program.KeepsTo

variable (h : p.KeepsTo value own E)
include h

/-- What is left after some questions keeps to the same cells. -/
lemma left (n : ℕ) (w : World S Q A) : (p.runFor E n w).1.KeepsTo value own E := by
  obtain ⟨P, hE, hp⟩ := h
  exact ⟨P, hE, hp.runFor n w⟩

/-- The next question is answered alike wherever the cells have the same values. -/
lemma advance {s s' : S} (hs : AgreeOn value own s s') (t : List (Σ q, A q)) :
    (Program.advance E (p, ⟨s, t⟩)).1 = (Program.advance E (p, ⟨s', t⟩)).1 ∧
      (Program.advance E (p, ⟨s, t⟩)).2.trace = (Program.advance E (p, ⟨s', t⟩)).2.trace ∧
      AgreeOn value own (Program.advance E (p, ⟨s, t⟩)).2.state
        (Program.advance E (p, ⟨s', t⟩)).2.state := by
  obtain ⟨P, hE, hp⟩ := h
  exact hE.advance hp t hs

/-- It writes no other cell. -/
lemma advance_frame (w : World S Q A) {c : C} (hc : ¬ own c) :
    value (Program.advance E (p, w)).2.state c = value w.state c := by
  obtain ⟨P, hE, hp⟩ := h
  exact hE.advance_frame hp w hc

/-- The program is in the same place after some questions wherever its cells have the same
values. -/
lemma runFor {s s' : S} (hs : AgreeOn value own s s') (t : List (Σ q, A q)) (n : ℕ) :
    (p.runFor E n ⟨s, t⟩).1 = (p.runFor E n ⟨s', t⟩).1 ∧
      (p.runFor E n ⟨s, t⟩).2.trace = (p.runFor E n ⟨s', t⟩).2.trace ∧
      AgreeOn value own (p.runFor E n ⟨s, t⟩).2.state (p.runFor E n ⟨s', t⟩).2.state := by
  induction n with
  | zero => exact ⟨rfl, rfl, hs⟩
  | succ n ih =>
    have hleft := h.left n ⟨s, t⟩
    rw [Program.runFor_succ, Program.runFor_succ]
    generalize p.runFor E n ⟨s, t⟩ = x at ih hleft
    generalize p.runFor E n ⟨s', t⟩ = x' at ih
    obtain ⟨left, state, trace⟩ := x
    obtain ⟨left', state', trace'⟩ := x'
    obtain ⟨rfl, rfl, hagree⟩ := ih
    exact hleft.advance hagree trace

/-- After some questions it has written no other cell. -/
lemma runFor_frame (w : World S Q A) (n : ℕ) {c : C} (hc : ¬ own c) :
    value (p.runFor E n w).2.state c = value w.state c := by
  induction n with
  | zero => rfl
  | succ n ih =>
    rw [Program.runFor_succ]
    exact ((h.left n w).advance_frame _ hc).trans ih

end Program.KeepsTo

/-- A program that observes leaves the state alone, and what is left of it observes. -/
lemma Program.Observes.advance {x : Program Q A α × World S Q A} (h : x.1.Observes E) :
    (Program.advance E x).2.state = x.2.state ∧ (Program.advance E x).1.Observes E := by
  obtain ⟨p, w⟩ := x
  cases p with
  | done a => exact ⟨rfl, h⟩
  | ask q next => exact ⟨h.1 w, h.2 _⟩

end RunFor

/-! ### One after the other -/

/-- Run programs one after the other, each for a number of its questions. -/
def inTurn (E : ι → Environment S Q A) (p : ι → Program Q A α) (count : ι → ℕ) (s : S)
    (order : List ι) : S :=
  after (fun s i => ((p i).runFor (E i) (count i) ⟨s, []⟩).2.state) s order

/-- Of two programs of one group, the one that is first in the order puts no question after the
other one has put one. -/
def TakeTurns (group : ι → κ) (order schedule : List ι) : Prop :=
  ∀ i k, group i = group k → [i, k].Sublist order → ¬ [k, i].Sublist schedule

/-- The beginning of a schedule in which programs take turns is such a schedule. -/
lemma TakeTurns.of_append {group : ι → κ} {order schedule more : List ι}
    (h : TakeTurns group order (schedule ++ more)) : TakeTurns group order schedule :=
  fun i k hgroup horder hschedule =>
    h i k hgroup horder (hschedule.trans (List.sublist_append_left _ _))

/-- A program that is scheduled finds no later one of its group started. -/
lemma TakeTurns.last {group : ι → κ} {before rest schedule : List ι} {i k : ι}
    (h : TakeTurns group (before ++ i :: rest) (schedule ++ [i])) (hk : k ∈ rest)
    (hgroup : group i = group k) : k ∉ schedule := by
  intro hmem
  refine h i k hgroup ?_ ?_
  · have hrest : [i, k].Sublist (i :: rest) := (List.singleton_sublist.mpr hk).cons_cons i
    exact hrest.trans (List.sublist_append_right _ _)
  · exact (List.singleton_sublist.mpr hmem).append (List.Sublist.refl [i])

section InTurn

variable {own : κ → C → Prop} {E : ι → Environment S Q A} {p : ι → Program Q A α} {group : ι → κ}
  {count count' : ι → ℕ}

lemma inTurn_congr {order : List ι} (h : ∀ i ∈ order, count i = count' i) (s : S) :
    inTurn E p count s order = inTurn E p count' s order := by
  induction order generalizing s with
  | nil => rfl
  | cons i order ih =>
    obtain ⟨hi, horder⟩ := List.forall_mem_cons.mp h
    rw [inTurn, inTurn, after_cons, after_cons, hi]
    exact ih horder _

lemma inTurn_append_cons (s : S) (before rest : List ι) (i : ι) :
    inTurn E p count s (before ++ i :: rest) =
      inTurn E p count
        ((p i).runFor (E i) (count i) ⟨inTurn E p count s before, []⟩).2.state rest :=
  after_append _ _ _ _

variable {order : List ι}
  (hkeeps : ∀ i ∈ order, (p i).KeepsTo value (own (group i)) (E i))
include hkeeps

/-- Programs of other groups leave the cells of a group alone. -/
lemma inTurn_frame {c : C} (h : ∀ i ∈ order, ¬ own (group i) c ∨ count i = 0) (s : S) :
    value (inTurn E p count s order) c = value s c := by
  induction order generalizing s with
  | nil => rfl
  | cons i order ih =>
    obtain ⟨hi, horder⟩ := List.forall_mem_cons.mp h
    obtain ⟨hkeep, hkeeps⟩ := List.forall_mem_cons.mp hkeeps
    rw [inTurn, after_cons]
    refine (ih hkeeps horder _).trans ?_
    rcases hi with hown | hzero
    · exact hkeep.runFor_frame _ _ hown
    · rw [hzero]
      rfl

/-- Programs of other groups do not notice the cells of a group. -/
lemma inTurn_agree (hapart : ∀ g g' c, g ≠ g' → own g c → ¬ own g' c) {g : κ}
    (h : ∀ i ∈ order, group i ≠ g ∨ count i = 0) {s s' : S}
    (hs : AgreeOn value (fun c => ¬ own g c) s s') :
    AgreeOn value (fun c => ¬ own g c) (inTurn E p count s order) (inTurn E p count s' order) := by
  induction order generalizing s s' with
  | nil => exact hs
  | cons i order ih =>
    obtain ⟨hi, horder⟩ := List.forall_mem_cons.mp h
    obtain ⟨hkeep, hkeeps⟩ := List.forall_mem_cons.mp hkeeps
    rw [inTurn, inTurn, after_cons, after_cons]
    refine ih hkeeps horder fun c hc => ?_
    by_cases hown : own (group i) c
    · rcases hi with hgroup | hzero
      · have hcells : AgreeOn value (own (group i)) s s' :=
          fun c hc => hs c (hapart _ _ c hgroup hc)
        exact (hkeep.runFor hcells [] (count i)).2.2 c hown
      · rw [hzero]
        exact hs c hc
    · rw [hkeep.runFor_frame _ _ hown, hkeep.runFor_frame _ _ hown]
      exact hs c hc

end InTurn

/-! ### Taking turns -/

/-- A program after a number of its questions, when the programs before it have run. -/
def placeInTurn (E : ι → Environment S Q A) (p : ι → Program Q A α) (count : ι → ℕ) (s : S)
    (before : List ι) (i : ι) : Program Q A α × World S Q A :=
  (p i).runFor (E i) (count i) ⟨inTurn E p count s before, []⟩

/-- The programs of the pool, and the cells, are where they are when the programs run one after the
other, each for a number of its questions. -/
structure Pool.InTurn (value : S → (c : C) → V c) (E : ι → Environment S Q A)
    (p : ι → Program Q A α) (count : ι → ℕ) (s : S) (order : List ι) (pool : Pool ι S Q A α) :
    Prop where
  thread : ∀ before i rest, order = before ++ i :: rest → pool.thread i =
    ⟨(placeInTurn E p count s before i).1, (placeInTurn E p count s before i).2.trace⟩
  cells : ∀ c, value pool.state c = value (inTurn E p count s order) c

section Turns

variable {own : κ → C → Prop} {E : ι → Environment S Q A} {p : ι → Program Q A α} {group : ι → κ}
  {count count' : ι → ℕ} {s : S} {before rest : List ι} {i : ι} {pool : Pool ι S Q A α}
  (hkeeps : ∀ k ∈ before ++ i :: rest, (p k).KeepsTo value (own (group k)) (E k))
  (hapart : ∀ g g' c, g ≠ g' → own g c → ¬ own g' c)
  (hquiet : ∀ k ∈ rest, group k ≠ group i ∨ count k = 0)

include hkeeps hapart hquiet in
/-- The cells of a program are as it has left them, if those after it in the order are of other
groups or have not started. -/
lemma Pool.InTurn.ownCells (h : pool.InTurn value E p count s (before ++ i :: rest)) :
    AgreeOn value (own (group i)) pool.state (placeInTurn E p count s before i).2.state := by
  intro c hc
  rw [h.cells, inTurn_append_cons]
  refine inTurn_frame (fun k hk => hkeeps k (by simp [hk])) (fun k hk => ?_) _
  exact (hquiet k hk).imp (fun hgroup => hapart _ _ c (Ne.symm hgroup) hc) id

variable (hbefore : i ∉ before) (hrest : i ∉ rest) (hcount : count' i = count i + 1)
  (hother : ∀ k, k ≠ i → count' k = count k)

include hbefore hcount hother in
/-- One more question of a program. -/
lemma placeInTurn_succ : placeInTurn E p count' s before i =
    Program.advance (E i) (placeInTurn E p count s before i) := by
  have hstart : inTurn E p count' s before = inTurn E p count s before :=
    inTurn_congr (fun k hk => hother k fun heq => hbefore (heq ▸ hk)) s
  rw [placeInTurn, hstart, hcount, Program.runFor_succ]
  rfl

include hkeeps hapart hquiet hbefore hrest hcount hother in
/-- Programs of other groups do not notice one more question of a program. -/
lemma inTurn_succ : AgreeOn value (fun c => ¬ own (group i) c)
    (inTurn E p count' s (before ++ i :: rest)) (inTurn E p count s (before ++ i :: rest)) := by
  have hplace : (placeInTurn E p count s before i).1.KeepsTo value (own (group i)) (E i) :=
    (hkeeps i (by simp)).left _ _
  rw [inTurn_append_cons, inTurn_append_cons,
    inTurn_congr (fun k hk => hother k fun heq => hrest (heq ▸ hk))]
  change AgreeOn value _ (inTurn E p count (placeInTurn E p count' s before i).2.state rest)
    (inTurn E p count (placeInTurn E p count s before i).2.state rest)
  rw [placeInTurn_succ hbefore hcount hother]
  exact inTurn_agree (fun k hk => hkeeps k (by simp [hk])) hapart hquiet
    fun c hc => hplace.advance_frame _ hc

include hkeeps hapart hquiet hbefore hrest hcount hother in
/-- Where another program is does not change. -/
lemma placeInTurn_other {before' rest' : List ι} {k : ι} (hk : k ≠ i)
    (horder : before ++ i :: rest = before' ++ k :: rest') :
    (placeInTurn E p count' s before' k).1 = (placeInTurn E p count s before' k).1 ∧
      (placeInTurn E p count' s before' k).2.trace =
        (placeInTurn E p count s before' k).2.trace := by
  have hcounts := hother k hk
  have hkeep : (p k).KeepsTo value (own (group k)) (E k) := hkeeps k (by simp [horder])
  rcases List.append_eq_append_iff.mp horder with ⟨mid, rfl, hmid⟩ | ⟨mid, rfl, hmid⟩
  · -- it comes after the program that has put the question
    rcases List.cons_eq_append_iff.mp hmid with ⟨-, heq⟩ | ⟨mid', rfl, rfl⟩
    · exact absurd (List.cons.inj heq).1 hk
    obtain ⟨hmid', -⟩ := not_or.mp (mt List.mem_append.mpr hrest)
    rcases hquiet k (List.mem_append_right mid' List.mem_cons_self) with hgroup | hzero
    · have hsub : ∀ l ∈ before ++ i :: mid', l ∈ before ++ i :: (mid' ++ k :: rest') := by
        intro l hl
        rw [← List.cons_append, ← List.append_assoc]
        exact List.mem_append_left _ hl
      have hagree := inTurn_succ (s := s) (fun l hl => hkeeps l (hsub l hl)) hapart
        (fun l hl => hquiet l (List.mem_append_left _ hl)) hbefore hmid' hcount hother
      have hcells : AgreeOn value (own (group k)) (inTurn E p count' s (before ++ i :: mid'))
          (inTurn E p count s (before ++ i :: mid')) :=
        fun c hc => hagree c (hapart _ _ c hgroup hc)
      rw [placeInTurn, hcounts]
      obtain ⟨hleft, htrace, -⟩ := hkeep.runFor hcells [] (count k)
      exact ⟨hleft, htrace⟩
    · rw [placeInTurn, placeInTurn, hcounts, hzero]
      exact ⟨rfl, rfl⟩
  · -- it comes before
    have hmem : i ∉ before' := fun hi => hbefore (List.mem_append_left _ hi)
    have hstart : inTurn E p count' s before' = inTurn E p count s before' :=
      inTurn_congr (fun k hk => hother k fun heq => hmem (heq ▸ hk)) s
    rw [placeInTurn, hstart, hcounts]
    exact ⟨rfl, rfl⟩

variable [DecidableEq ι]

include hkeeps hapart hquiet hbefore hrest hcount hother in
/-- A program of the order puts its next question. -/
lemma Pool.InTurn.step (h : pool.InTurn value E p count s (before ++ i :: rest)) :
    (pool.step E i).InTurn value E p count' s (before ++ i :: rest) := by
  have hplace : (placeInTurn E p count s before i).1.KeepsTo value (own (group i)) (E i) :=
    (hkeeps i (by simp)).left _ _
  have hview : pool.view i = ((placeInTurn E p count s before i).1,
      ⟨pool.state, (placeInTurn E p count s before i).2.trace⟩) := by
    rw [Pool.view, h.thread before i rest rfl]
  obtain ⟨hleft, htrace, hstate⟩ := hplace.advance (h.ownCells hkeeps hapart hquiet)
    (placeInTurn E p count s before i).2.trace
  have hsucc := placeInTurn_succ (E := E) (p := p) (s := s) hbefore hcount hother
  refine ⟨fun before' k rest' horder => ?_, fun c => ?_⟩
  · by_cases hk : k = i
    · subst hk
      obtain ⟨rfl, -, -⟩ := (List.append_cons_inj_of_notMem hbefore hrest).mp horder
      rw [Pool.thread_step_self, hview, hleft, htrace, hsucc]
    · obtain ⟨hleft', htrace'⟩ := placeInTurn_other (s := s) hkeeps hapart hquiet hbefore hrest
        hcount hother hk horder
      rw [Pool.thread_step_of_ne E pool i k hk, h.thread before' k rest' horder, hleft', htrace']
  · rw [Pool.step_state, hview]
    by_cases hc : own (group i) c
    · rw [hstate c hc, inTurn_append_cons,
        inTurn_congr (fun k hk => hother k fun heq => hrest (heq ▸ hk))]
      refine Eq.trans ?_ (inTurn_frame (fun k hk => hkeeps k (by simp [hk]))
        (fun k hk => ?_) _).symm
      · exact congrArg (fun x => value x.2.state c) hsucc.symm
      · exact (hquiet k hk).imp (fun hgroup => hapart _ _ c (Ne.symm hgroup) hc) id
    · rw [hplace.advance_frame _ hc, h.cells]
      exact (inTurn_succ hkeeps hapart hquiet hbefore hrest hcount hother c hc).symm

/-- A program outside the order, which writes nothing, puts its next question. -/
lemma Pool.InTurn.observe {order : List ι} (h : pool.InTurn value E p count s order)
    (hi : i ∉ order) (hobserves : (pool.thread i).left.Observes (E i))
    (hother : ∀ k, k ≠ i → count' k = count k) :
    (pool.step E i).InTurn value E p count' s order := by
  have hcounts (k : ι) (hk : k ∈ order) : count' k = count k := hother k fun heq => hi (heq ▸ hk)
  refine ⟨fun before k rest horder => ?_, fun c => ?_⟩
  · have hk : k ∈ order := by simp [horder]
    have hbefore (l : ι) (hl : l ∈ before) : count' l = count l := hcounts l (by simp [horder, hl])
    rw [Pool.thread_step_of_ne E pool i k fun heq => hi (heq ▸ hk), h.thread before k rest horder,
      placeInTurn, placeInTurn, inTurn_congr hbefore, hcounts k hk]
  · have hstate : (pool.step E i).state = pool.state :=
      (Program.Observes.advance (x := pool.view i) hobserves).1
    rw [hstate, h.cells, inTurn_congr hcounts]

/-- What is left of a program that observes, observes. -/
lemma Pool.observes_after {i : ι} (hp : (p i).Observes (E i)) (s : S) (schedule : List ι) :
    ((after (Pool.step E) (Pool.start s p) schedule).thread i).left.Observes (E i) := by
  induction schedule using List.reverseRecOn with
  | nil => exact hp
  | append_singleton schedule k ih =>
    rw [after_append, after_cons, after_nil]
    by_cases hik : i = k
    · subst hik
      rw [Pool.thread_step_self]
      exact (Program.Observes.advance (x := Pool.view _ i) ih).2
    · rw [Pool.thread_step_of_ne E _ k i hik]
      exact ih

variable (own group) in
/-- Programs that take turns, beside others that write nothing, are where they are when they run one
after the other, each for as many questions as it has put, and so are the cells. -/
theorem Pool.as_inTurn (hapart : ∀ g g' c, g ≠ g' → own g c → ¬ own g' c) (s : S)
    {order schedule : List ι} (hkeeps : ∀ i ∈ order, (p i).KeepsTo value (own (group i)) (E i))
    (hnodup : order.Nodup) (hall : ∀ i ∈ schedule, i ∈ order ∨ (p i).Observes (E i))
    (hturns : TakeTurns group order schedule) :
    (after (Pool.step E) (Pool.start s p) schedule).InTurn value E p (schedule.count ·) s
      order := by
  induction schedule using List.reverseRecOn with
  | nil =>
    refine ⟨fun before i rest _ => rfl, fun c => ?_⟩
    exact (inTurn_frame hkeeps (fun i _ => .inr rfl) s).symm
  | append_singleton schedule i ih =>
    have hbegun := ih (fun k hk => hall k (List.mem_append_left _ hk)) hturns.of_append
    have hother (k : ι) (hk : k ≠ i) : (schedule ++ [i]).count k = schedule.count k := by
      simp [List.count_append, Ne.symm hk]
    rw [after_append, after_cons, after_nil]
    by_cases hi : i ∈ order
    · obtain ⟨before, rest, rfl⟩ := List.append_of_mem hi
      have hcons := List.nodup_middle.mp hnodup
      rw [List.nodup_cons, List.mem_append, not_or] at hcons
      refine hbegun.step hkeeps hapart (fun k hk => ?_) hcons.1.1 hcons.1.2 (by simp) hother
      by_cases hgroup : group i = group k
      · exact .inr (List.count_eq_zero.mpr (hturns.last hk hgroup))
      · exact .inl (Ne.symm hgroup)
    · have hobserves := (hall i (by simp)).resolve_left hi
      exact hbegun.observe hi (Pool.observes_after hobserves s schedule) hother

omit [DecidableEq ι] in
/-- Programs that have ended have run. -/
lemma inTurn_eq_serially {order : List ι}
    (hended : ∀ before i rest, order = before ++ i :: rest →
      (placeInTurn E p count s before i).1.result.isSome = true) :
    inTurn E p count s order = serially E p s order := by
  induction order generalizing s with
  | nil => rfl
  | cons i order ih =>
    obtain ⟨a, ha⟩ := Option.isSome_iff_exists.mp (hended [] i order rfl)
    have hrun := Program.run_of_runFor (Program.result_eq_some.mp ha)
    have hstate : ((p i).runFor (E i) (count i) ⟨s, []⟩).2.state =
        ((p i).run (E i) ⟨s, []⟩).2.state := (congrArg (fun x => x.2.state) hrun).symm
    rw [inTurn, serially, after_cons, after_cons, ← hstate]
    refine ih fun before k rest horder => ?_
    exact hended (i :: before) k rest (by rw [horder, List.cons_append])

omit [DecidableEq ι] in
/-- When the programs of the order have ended, they have ended as they do one after the other. -/
theorem Pool.InTurn.serially {order : List ι} (h : pool.InTurn value E p count s order)
    (hended : ∀ i ∈ order, (pool.thread i).left.result.isSome = true) :
    (∀ before i rest, order = before ++ i :: rest →
      (pool.thread i).left.result =
          some ((p i).run (E i) ⟨Interaction.serially E p s before, []⟩).1 ∧
        (pool.thread i).trace =
          ((p i).run (E i) ⟨Interaction.serially E p s before, []⟩).2.trace) ∧
    ∀ c, value pool.state c = value (Interaction.serially E p s order) c := by
  have hplaces (before : List ι) (i : ι) (rest : List ι) (horder : order = before ++ i :: rest) :
      (placeInTurn E p count s before i).1.result.isSome = true := by
    have hthread := h.thread before i rest horder
    have hi := hended i (by simp [horder])
    rwa [hthread] at hi
  refine ⟨fun before i rest horder => ?_, fun c => ?_⟩
  · have hbefore : inTurn E p count s before = Interaction.serially E p s before := by
      refine inTurn_eq_serially fun before' k rest' hbefore => ?_
      exact hplaces before' k (rest' ++ i :: rest) (by rw [horder, hbefore]; simp)
    obtain ⟨a, ha⟩ := Option.isSome_iff_exists.mp (hplaces before i rest horder)
    have hrun := Program.run_of_runFor (Program.result_eq_some.mp ha)
    rw [hbefore] at hrun
    rw [h.thread before i rest horder, hrun, placeInTurn, hbefore]
    rw [placeInTurn, hbefore] at ha
    exact ⟨ha, rfl⟩
  · rw [h.cells, inTurn_eq_serially hplaces]

end Turns

end Interaction
