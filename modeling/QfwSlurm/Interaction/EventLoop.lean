import QfwSlurm.Interaction.Turns
import QfwSlurm.Interaction.WeakLocks

/-!
# Programs inside locks

An event loop runs programs that each go inside the lock of a key, a pool of `Interleaving` beside
the locks of `WeakLocks`: a program puts questions while its call is inside, and its call completes
when it has ended.  A call that is cancelled leaves its program where it is.

`EventLoop.run_orderly` says that the programs of one key take turns in the order in which their
calls enter, so that `Pool.as_inTurn` applies: nothing can be told from running the programs one
after the other in that order.
-/

namespace Interaction

variable {τ κ S Q : Type} {A : Q → Type} {α : Type}

/-! ### The loop -/

/-- The locks and the programs; the program of a call has its number. -/
structure EventLoop (τ κ S Q : Type) (A : Q → Type) (α : Type) where
  table : WeakLocks.Loop τ κ
  pool : Pool ℕ S Q A α

/-- What can happen. -/
inductive Happening (κ : Type) where
  /-- The next task arrives. -/
  | arrive
  /-- A waiting call gets its lock. -/
  | enter (call : ℕ)
  /-- The program of a call that is inside puts its next question. -/
  | proceed (call : ℕ)
  /-- A call whose program has ended leaves its lock. -/
  | complete (call : ℕ)
  /-- A call is cancelled, while it waits or inside. -/
  | cancel (call : ℕ)
  /-- A lock is collected. -/
  | collect (lock : ℕ)
  /-- The dictionary removes the entry of a collected lock. -/
  | discard (key : κ)
  deriving DecidableEq

namespace EventLoop

variable [DecidableEq κ] (key : τ → κ) (tasks : ℕ → τ) (E : ℕ → Environment S Q A)

/-- Nothing has arrived yet. -/
def start (s : S) (p : ℕ → Program Q A α) : EventLoop τ κ S Q A α := ⟨{}, Pool.start s p⟩

/-- Something happens to the locks. -/
def turn (m : EventLoop τ κ S Q A α) (action : WeakLocks.Action τ κ) :
    Option (EventLoop τ κ S Q A α) :=
  (WeakLocks.step key m.table action).map fun table => { m with table := table }

/-- What the loop is after something has happened, if it is possible. -/
def step (m : EventLoop τ κ S Q A α) : Happening κ → Option (EventLoop τ κ S Q A α)
  | .arrive => m.turn key (.arrive (tasks m.table.calls.length))
  | .enter i => m.turn key (.enter i)
  | .proceed i => do
    let c ← m.table.calls[i]?
    if c.stage = .inside then some { m with pool := m.pool.step E i } else none
  | .complete i =>
    if (m.pool.thread i).left.result.isSome then m.turn key (.complete i) else none
  | .cancel i => m.turn key (.cancel i)
  | .collect lock => m.turn key (.collect lock)
  | .discard k => m.turn key (.discard k)

/-- What happens one after the other. -/
def run : List (Happening κ) → EventLoop τ κ S Q A α → Option (EventLoop τ κ S Q A α)
  | [], m => some m
  | happening :: more, m => (m.step key tasks E happening).bind (run more)

omit [DecidableEq κ]

/-- The call that enters. -/
def entering : Happening κ → Option ℕ
  | .enter i => some i
  | _ => none

/-- The call whose program puts a question. -/
def proceeding : Happening κ → Option ℕ
  | .proceed i => some i
  | _ => none

/-- The calls in the order in which they have entered. -/
def entered (happenings : List (Happening κ)) : List ℕ := happenings.filterMap entering

/-- The calls whose programs have put questions, once for each. -/
def proceeded (happenings : List (Happening κ)) : List ℕ := happenings.filterMap proceeding

end EventLoop

end Interaction

namespace WeakLocks

variable {α κ : Type} [DecidableEq κ] {key : α → κ} {s s' : Loop α κ}

/-- A call that neither waits nor is inside is over. -/
lemma Stage.eq_over {stage : Stage} (hwaiting : stage ≠ .waiting) (hinside : stage ≠ .inside) :
    stage = .over := by
  cases stage <;> simp at hwaiting hinside ⊢

/-- What an action does to the calls: one is added, or moves forward, or nothing. -/
lemma step_calls {action : Action α κ} (h : step key s action = some s') :
    (∃ task lock, action = .arrive task ∧ s'.calls = s.calls ++ [⟨task, lock, .waiting⟩]) ∨
      (∃ (i : ℕ) (c : Call α), action = .enter i ∧ s.calls[i]? = some c ∧ c.stage = .waiting ∧
        s'.calls = s.calls.set i { c with stage := .inside }) ∨
      (∃ (i : ℕ) (c : Call α), (action = .complete i ∨ action = .cancel i) ∧
        s.calls[i]? = some c ∧ c.stage ≠ .over ∧
        s'.calls = s.calls.set i { c with stage := .over }) ∨
      (∀ i, action ≠ .enter i) ∧ s'.calls = s.calls := by
  cases action with
  | arrive task =>
    rcases hobtain : s.obtain (key task) with ⟨lock, t⟩
    rw [step, hobtain] at h
    obtain rfl := Option.some.inj h
    have hcalls : t.calls = s.calls := by
      unfold Loop.obtain at hobtain
      split at hobtain <;> obtain ⟨-, rfl⟩ := Prod.mk.inj hobtain <;> rfl
    exact .inl ⟨task, lock, rfl, congrArg (· ++ [_]) hcalls⟩
  | enter i =>
    obtain ⟨c, hc, h⟩ := Option.bind_eq_some_iff.mp h
    obtain ⟨l, hl, h⟩ := Option.bind_eq_some_iff.mp h
    split_ifs at h with hfree
    obtain rfl := Option.some.inj h
    exact .inr (.inl ⟨i, c, rfl, hc, hfree.1, rfl⟩)
  | complete i =>
    obtain ⟨c, hc, h⟩ := Option.bind_eq_some_iff.mp h
    obtain ⟨l, hl, h⟩ := Option.bind_eq_some_iff.mp h
    split_ifs at h with hinside
    obtain rfl := Option.some.inj h
    exact .inr (.inr (.inl ⟨i, c, .inl rfl, hc, by rw [hinside]; decide, rfl⟩))
  | cancel i =>
    obtain ⟨c, hc, h⟩ := Option.bind_eq_some_iff.mp h
    obtain ⟨l, hl, h⟩ := Option.bind_eq_some_iff.mp h
    refine .inr (.inr (.inl ⟨i, c, .inr rfl, hc, ?_⟩))
    split at h
    next hwaiting =>
      obtain rfl := Option.some.inj h
      exact ⟨by rw [hwaiting]; decide, rfl⟩
    next hinside =>
      obtain rfl := Option.some.inj h
      exact ⟨by rw [hinside]; decide, rfl⟩
    next => cases h
  | collect lock =>
    obtain ⟨l, hl, h⟩ := Option.bind_eq_some_iff.mp h
    split_ifs at h
    obtain rfl := Option.some.inj h
    exact .inr (.inr (.inr ⟨fun i => by simp, rfl⟩))
  | discard k =>
    rw [step] at h
    split_ifs at h
    obtain rfl := Option.some.inj h
    exact .inr (.inr (.inr ⟨fun i => by simp, rfl⟩))

end WeakLocks

namespace Interaction

variable {τ κ S Q : Type} {A : Q → Type} {α : Type}

/-! ### Taking turns -/

/-- The calls of the loop, with the order in which they have entered and the schedule of their
programs: a call that entered before another one of its key is over. -/
structure EventLoop.Orderly (key : τ → κ) (tasks : ℕ → τ) (order schedule : List ℕ)
    (table : WeakLocks.Loop τ κ) : Prop where
  held : table.Held key
  task : ∀ (i : ℕ) (c : WeakLocks.Call τ), table.calls[i]? = some c → c.task = tasks i
  started : ∀ i ∈ order, ∃ c : WeakLocks.Call τ, table.calls[i]? = some c ∧ c.stage ≠ .waiting
  inside : ∀ (i : ℕ) (c : WeakLocks.Call τ), table.calls[i]? = some c → c.stage = .inside →
    i ∈ order
  gone : ∀ i k, key (tasks i) = key (tasks k) → [i, k].Sublist order →
    ∃ c : WeakLocks.Call τ, table.calls[i]? = some c ∧ c.stage = .over
  scheduled : ∀ i ∈ schedule, i ∈ order
  nodup : order.Nodup
  turns : TakeTurns (fun i => key (tasks i)) order schedule

namespace EventLoop

variable {key : τ → κ} {tasks : ℕ → τ} {order schedule : List ℕ} {table table' : WeakLocks.Loop τ κ}

lemma orderly_empty : Orderly key tasks [] [] {} where
  held := WeakLocks.held_empty
  task := by simp
  started := by simp
  inside := by simp
  gone := by simp
  scheduled := by simp
  nodup := List.nodup_nil
  turns := by
    intro i k _ h
    simp at h

/-- What a pair of calls in an order is after another call has been put behind it. -/
lemma pair_sublist_concat {l : List ℕ} {i k n : ℕ} (h : [i, k].Sublist (l ++ [n])) :
    [i, k].Sublist l ∨ i ∈ l ∧ k = n := by
  obtain ⟨first, last, hsplit, hfirst, hlast⟩ := List.sublist_append_iff.mp h
  rcases List.sublist_singleton.mp hlast with rfl | rfl
  · rw [List.append_nil] at hsplit
    exact .inl (hsplit ▸ hfirst)
  · have hsplit' : [i] ++ [k] = first ++ [n] := hsplit
    obtain ⟨rfl, heq⟩ := List.append_inj' hsplit' rfl
    exact .inr ⟨List.singleton_sublist.mp hfirst, (List.cons.inj heq).1⟩

namespace Orderly

variable (h : Orderly key tasks order schedule table)
include h

/-- Nothing happens to the calls. -/
lemma same (hheld : table'.Held key) (hcalls : table'.calls = table.calls) :
    Orderly key tasks order schedule table' where
  held := hheld
  task := hcalls ▸ h.task
  started := hcalls ▸ h.started
  inside := hcalls ▸ h.inside
  gone := hcalls ▸ h.gone
  scheduled := h.scheduled
  nodup := h.nodup
  turns := h.turns

/-- The next task arrives. -/
lemma arrive (hheld : table'.Held key) {lock : ℕ} (hcalls : table'.calls =
    table.calls ++ [⟨tasks table.calls.length, lock, .waiting⟩]) :
    Orderly key tasks order schedule table' := by
  have hkeeps {i : ℕ} {c : WeakLocks.Call τ} (hc : table.calls[i]? = some c) :
      table'.calls[i]? = some c := by
    rw [hcalls, List.getElem?_append_left (List.getElem?_eq_some_iff.mp hc).1]
    exact hc
  refine ⟨hheld, fun i c hc => ?_, fun i hi => ?_, fun i c hc hinside => ?_, fun i k hkey hik => ?_,
    h.scheduled, h.nodup, h.turns⟩
  · rw [hcalls] at hc
    rcases WeakLocks.getElem?_concat_cases hc with ⟨rfl, rfl⟩ | hc
    · rfl
    · exact h.task i c hc
  · obtain ⟨c, hc, hstage⟩ := h.started i hi
    exact ⟨c, hkeeps hc, hstage⟩
  · rw [hcalls] at hc
    rcases WeakLocks.getElem?_concat_cases hc with ⟨-, rfl⟩ | hc
    · exact absurd hinside (by simp)
    · exact h.inside i c hc hinside
  · obtain ⟨c, hc, hover⟩ := h.gone i k hkey hik
    exact ⟨c, hkeeps hc, hover⟩

/-- A call is over now. -/
lemma leave (hheld : table'.Held key) {i : ℕ} {c : WeakLocks.Call τ}
    (hc : table.calls[i]? = some c) (hcalls : table'.calls =
      table.calls.set i { c with stage := .over }) : Orderly key tasks order schedule table' := by
  have hself : table'.calls[i]? = some { c with stage := .over } := by
    rw [hcalls]
    exact WeakLocks.getElem?_set_of_some hc
  have hother {j : ℕ} (hj : j ≠ i) : table'.calls[j]? = table.calls[j]? := by
    rw [hcalls, List.getElem?_set_ne hj.symm]
  refine ⟨hheld, fun j d hd => ?_, fun j hj => ?_, fun j d hd hinside => ?_, fun j k hkey hjk => ?_,
    h.scheduled, h.nodup, h.turns⟩
  · by_cases hj : j = i
    · subst hj
      obtain rfl := Option.some.inj (hself.symm.trans hd)
      exact h.task j c hc
    · exact h.task j d ((hother hj).symm.trans hd)
  · by_cases hji : j = i
    · subst hji
      exact ⟨_, hself, by simp⟩
    · obtain ⟨d, hd, hstage⟩ := h.started j hj
      exact ⟨d, (hother hji).trans hd, hstage⟩
  · by_cases hj : j = i
    · subst hj
      obtain rfl := Option.some.inj (hself.symm.trans hd)
      exact absurd hinside (by simp)
    · exact h.inside j d ((hother hj).symm.trans hd) hinside
  · by_cases hj : j = i
    · subst hj
      exact ⟨_, hself, rfl⟩
    · obtain ⟨d, hd, hover⟩ := h.gone j k hkey hjk
      exact ⟨d, (hother hj).trans hd, hover⟩

/-- A call that waits has not entered. -/
lemma not_mem_of_waiting {i : ℕ} {c : WeakLocks.Call τ} (hc : table.calls[i]? = some c)
    (hwaiting : c.stage = .waiting) : i ∉ order := by
  intro hi
  obtain ⟨d, hd, hstage⟩ := h.started i hi
  obtain rfl := Option.some.inj (hc.symm.trans hd)
  exact hstage hwaiting

/-- A call enters. -/
lemma enter (hheld : table'.Held key) {i : ℕ} {c : WeakLocks.Call τ}
    (hc : table.calls[i]? = some c) (hwaiting : c.stage = .waiting) (hcalls : table'.calls =
      table.calls.set i { c with stage := .inside }) :
    Orderly key tasks (order ++ [i]) schedule table' := by
  have hself : table'.calls[i]? = some { c with stage := .inside } := by
    rw [hcalls]
    exact WeakLocks.getElem?_set_of_some hc
  have hother {j : ℕ} (hj : j ≠ i) : table'.calls[j]? = table.calls[j]? := by
    rw [hcalls, List.getElem?_set_ne hj.symm]
  have hnew := h.not_mem_of_waiting hc hwaiting
  have hne {j : ℕ} (hj : j ∈ order) : j ≠ i := fun heq => hnew (heq ▸ hj)
  refine ⟨hheld, fun j d hd => ?_, fun j hj => ?_, fun j d hd hinside => ?_, fun j k hkey hjk => ?_,
    fun j hj => List.mem_append_left _ (h.scheduled j hj), ?_, fun j k hkey hjk hkj => ?_⟩
  · by_cases hj : j = i
    · subst hj
      obtain rfl := Option.some.inj (hself.symm.trans hd)
      exact h.task j c hc
    · exact h.task j d ((hother hj).symm.trans hd)
  · rcases List.mem_append.mp hj with hj | hj
    · obtain ⟨d, hd, hstage⟩ := h.started j hj
      exact ⟨d, (hother (hne hj)).trans hd, hstage⟩
    · obtain rfl := List.mem_singleton.mp hj
      exact ⟨_, hself, by simp⟩
  · by_cases hj : j = i
    · simp [hj]
    · exact List.mem_append_left _ (h.inside j d ((hother hj).symm.trans hd) hinside)
  · rcases pair_sublist_concat hjk with hjk | ⟨hj, rfl⟩
    · obtain ⟨d, hd, hover⟩ := h.gone j k hkey hjk
      have hj : j ∈ order := hjk.subset (by simp)
      exact ⟨d, (hother (hne hj)).trans hd, hover⟩
    · -- the call that enters is alone inside
      obtain ⟨d, hd, hstage⟩ := h.started j hj
      have hd' : table'.calls[j]? = some d := (hother (hne hj)).trans hd
      refine ⟨d, hd', ?_⟩
      have hnot : d.stage ≠ .inside := by
        intro hinside
        refine hne hj (hheld.exclusive hd' hself hinside rfl ?_)
        rw [h.task j d hd, h.task k c hc]
        exact hkey
      exact WeakLocks.Stage.eq_over hstage hnot
  · refine List.nodup_append.mpr ⟨h.nodup, List.nodup_singleton i, fun j hj k hk => ?_⟩
    rw [List.mem_singleton.mp hk]
    exact hne hj
  · rcases pair_sublist_concat hjk with hjk | ⟨hj, rfl⟩
    · exact h.turns j k hkey hjk hkj
    · exact hnew (h.scheduled k (hkj.subset (by simp)))

/-- The program of a call that is inside puts its next question. -/
lemma proceed {i : ℕ} {c : WeakLocks.Call τ} (hc : table.calls[i]? = some c)
    (hinside : c.stage = .inside) : Orderly key tasks order (schedule ++ [i]) table := by
  refine ⟨h.held, h.task, h.started, h.inside, h.gone, fun j hj => ?_, h.nodup,
    fun j k hkey hjk hkj => ?_⟩
  · rcases List.mem_append.mp hj with hj | hj
    · exact h.scheduled j hj
    · obtain rfl := List.mem_singleton.mp hj
      exact h.inside j c hc hinside
  · rcases pair_sublist_concat hkj with hkj | ⟨hk, rfl⟩
    · exact h.turns j k hkey hjk hkj
    · obtain ⟨d, hd, hover⟩ := h.gone j k hkey hjk
      obtain rfl := Option.some.inj (hc.symm.trans hd)
      exact absurd (hinside.symm.trans hover) (by decide)

end Orderly

section Runs

variable [DecidableEq κ] {E : ℕ → Environment S Q A} {s : S} {p : ℕ → Program Q A α}
  {m m' : EventLoop τ κ S Q A α}

/-- What happens to the locks. -/
lemma turn_eq_some {action : WeakLocks.Action τ κ} (h : m.turn key action = some m') :
    WeakLocks.step key m.table action = some m'.table ∧ m'.pool = m.pool := by
  obtain ⟨table, htable, rfl⟩ := Option.map_eq_some_iff.mp h
  exact ⟨htable, rfl⟩

/-- Whatever happens to the locks, the calls stay orderly. -/
lemma turn_orderly (h : Orderly key tasks order schedule m.table)
    {action : WeakLocks.Action τ κ}
    (harrive : ∀ task, action = .arrive task → task = tasks m.table.calls.length)
    (hturn : m.turn key action = some m') :
    ((∀ i, action ≠ .enter i) → Orderly key tasks order schedule m'.table) ∧
      ∀ i, action = .enter i → Orderly key tasks (order ++ [i]) schedule m'.table := by
  obtain ⟨htable, -⟩ := turn_eq_some hturn
  have hheld := WeakLocks.step_held h.held htable
  rcases WeakLocks.step_calls htable with
    ⟨task, lock, rfl, hcalls⟩ | ⟨i, c, rfl, hc, hstage, hcalls⟩ |
    ⟨i, c, haction, hc, -, hcalls⟩ | ⟨hnot, hcalls⟩
  · rw [harrive task rfl] at hcalls
    exact ⟨fun _ => h.arrive hheld hcalls, by simp⟩
  · refine ⟨fun hnot => absurd rfl (hnot i), fun k heq => ?_⟩
    obtain rfl := WeakLocks.Action.enter.inj heq
    exact h.enter hheld hc hstage hcalls
  · refine ⟨fun _ => h.leave hheld hc hcalls, fun k heq => ?_⟩
    rcases haction with rfl | rfl <;> simp at heq
  · exact ⟨fun _ => h.same hheld hcalls, fun i heq => absurd heq (hnot i)⟩

/-- Whatever happens, the calls stay orderly and the pool is the one of the schedule. -/
lemma step_orderly {happening : Happening κ} (h : Orderly key tasks order schedule m.table)
    (hpool : m.pool = after (Pool.step E) (Pool.start s p) schedule)
    (hstep : m.step key tasks E happening = some m') :
    Orderly key tasks (order ++ entered [happening]) (schedule ++ proceeded [happening])
        m'.table ∧
      m'.pool =
        after (Pool.step E) (Pool.start s p) (schedule ++ proceeded [happening]) := by
  -- everything but entering and proceeding leaves the order and the schedule as they are
  have hlocks {action : WeakLocks.Action τ κ} (hturn : m.turn key action = some m')
      (hnot : ∀ i, action ≠ .enter i)
      (harrive : ∀ task, action = .arrive task → task = tasks m.table.calls.length) :
      Orderly key tasks (order ++ []) (schedule ++ []) m'.table ∧
        m'.pool = after (Pool.step E) (Pool.start s p) (schedule ++ []) := by
    rw [List.append_nil, List.append_nil]
    exact ⟨(turn_orderly h harrive hturn).1 hnot, (turn_eq_some hturn).2.trans hpool⟩
  cases happening with
  | arrive =>
    exact hlocks hstep (by simp) fun task heq => (WeakLocks.Action.arrive.inj heq).symm
  | enter i =>
    change Orderly key tasks (order ++ [i]) (schedule ++ []) m'.table ∧
      m'.pool = after (Pool.step E) (Pool.start s p) (schedule ++ [])
    rw [List.append_nil]
    exact ⟨(turn_orderly h (by simp) hstep).2 i rfl, (turn_eq_some hstep).2.trans hpool⟩
  | proceed i =>
    obtain ⟨c, hc, hstep⟩ := Option.bind_eq_some_iff.mp hstep
    split_ifs at hstep with hinside
    obtain rfl := Option.some.inj hstep
    change Orderly key tasks (order ++ []) (schedule ++ [i]) m.table ∧
      m.pool.step E i = after (Pool.step E) (Pool.start s p) (schedule ++ [i])
    rw [List.append_nil, after_append, after_cons, after_nil, hpool]
    exact ⟨h.proceed hc hinside, rfl⟩
  | complete i =>
    rw [step] at hstep
    split_ifs at hstep with hended
    exact hlocks hstep (by simp) (by simp)
  | cancel i => exact hlocks hstep (by simp) (by simp)
  | collect lock => exact hlocks hstep (by simp) (by simp)
  | discard k => exact hlocks hstep (by simp) (by simp)

omit [DecidableEq κ] in
lemma entered_cons (happening : Happening κ) (more : List (Happening κ)) :
    entered (happening :: more) = entered [happening] ++ entered more := by
  rw [entered, entered, entered, ← List.filterMap_append, List.singleton_append]

omit [DecidableEq κ] in
lemma proceeded_cons (happening : Happening κ) (more : List (Happening κ)) :
    proceeded (happening :: more) = proceeded [happening] ++ proceeded more := by
  rw [proceeded, proceeded, proceeded, ← List.filterMap_append, List.singleton_append]

/-- In every run the calls are orderly and the pool is the one of the schedule. -/
theorem run_orderly {happenings : List (Happening κ)}
    (h : Orderly key tasks order schedule m.table)
    (hpool : m.pool = after (Pool.step E) (Pool.start s p) schedule)
    (hrun : run key tasks E happenings m = some m') :
    Orderly key tasks (order ++ entered happenings) (schedule ++ proceeded happenings) m'.table ∧
      m'.pool = after (Pool.step E) (Pool.start s p) (schedule ++ proceeded happenings) := by
  induction happenings generalizing m order schedule with
  | nil =>
    obtain rfl := Option.some.inj hrun
    simpa [entered, proceeded] using ⟨h, hpool⟩
  | cons happening more ih =>
    obtain ⟨n, hstep, hrun⟩ := Option.bind_eq_some_iff.mp hrun
    obtain ⟨hn, hpooln⟩ := step_orderly h hpool hstep
    rw [entered_cons, proceeded_cons, ← List.append_assoc, ← List.append_assoc]
    exact ih hn hpooln hrun

/-! ### Programs that have ended -/

omit [DecidableEq κ] in
/-- A program that has ended stays where it is. -/
lemma ended_step {pool : Pool ℕ S Q A α} {i : ℕ} (h : (pool.thread i).left.result.isSome = true)
    (k : ℕ) : ((pool.step E k).thread i).left.result.isSome = true := by
  by_cases hik : i = k
  · subst hik
    obtain ⟨a, ha⟩ := Option.isSome_iff_exists.mp h
    have hleft : (pool.view i).1 = .done a := Program.result_eq_some.mp ha
    have hview : pool.view i = (.done a, (pool.view i).2) := Prod.ext hleft rfl
    rw [Pool.thread_step_self, hview]
    rfl
  · rw [Pool.thread_step_of_ne E pool k i hik]
    exact h

/-- If the call is over, its program has ended. -/
def Ended (i : ℕ) (m : EventLoop τ κ S Q A α) : Prop :=
  ∀ c : WeakLocks.Call τ, m.table.calls[i]? = some c → c.stage = .over →
    (m.pool.thread i).left.result.isSome = true

/-- A change of the locks by which the call is not over, unless it was or its program has ended. -/
lemma Ended.turn {i : ℕ} (h : m.Ended i) {action : WeakLocks.Action τ κ}
    (hcancel : action ≠ .cancel i)
    (hcomplete : action = .complete i → (m.pool.thread i).left.result.isSome = true)
    (hturn : m.turn key action = some m') : m'.Ended i := by
  obtain ⟨htable, hpool⟩ := turn_eq_some hturn
  intro d hd hover
  rw [hpool]
  rcases WeakLocks.step_calls htable with ⟨task, lock, rfl, hcalls⟩ |
    ⟨k, c, rfl, hc, hstage, hcalls⟩ | ⟨k, c, haction, hc, -, hcalls⟩ | ⟨-, hcalls⟩
  all_goals rw [hcalls] at hd
  · rcases WeakLocks.getElem?_concat_cases hd with ⟨-, rfl⟩ | hd
    · exact absurd hover (by simp)
    · exact h d hd hover
  · rcases WeakLocks.getElem?_set_cases hd with ⟨-, rfl⟩ | ⟨-, hd⟩
    · exact absurd hover (by simp)
    · exact h d hd hover
  · rcases WeakLocks.getElem?_set_cases hd with ⟨rfl, -⟩ | ⟨-, hd⟩
    · exact hcomplete (haction.resolve_right hcancel)
    · exact h d hd hover
  · exact h d hd hover

/-- A call that is over and was not cancelled has ended. -/
theorem run_ended {i : ℕ} {happenings : List (Happening κ)} (h : m.Ended i)
    (hcancel : .cancel i ∉ happenings) (hrun : run key tasks E happenings m = some m') :
    m'.Ended i := by
  induction happenings generalizing m with
  | nil =>
    obtain rfl := Option.some.inj hrun
    exact h
  | cons happening more ih =>
    obtain ⟨n, hstep, hrun⟩ := Option.bind_eq_some_iff.mp hrun
    obtain ⟨hfirst, hmore⟩ := not_or.mp (mt List.mem_cons.mpr hcancel)
    refine ih ?_ hmore hrun
    cases happening with
    | arrive => exact h.turn (by simp) (by simp) hstep
    | enter k => exact h.turn (by simp) (by simp) hstep
    | proceed k =>
      obtain ⟨c, -, hstep⟩ := Option.bind_eq_some_iff.mp hstep
      split_ifs at hstep
      obtain rfl := Option.some.inj hstep
      exact fun d hd hover => ended_step (h d hd hover) k
    | complete k =>
      rw [step] at hstep
      split_ifs at hstep with hended
      refine h.turn (by simp) (fun heq => ?_) hstep
      exact WeakLocks.Action.complete.inj heq ▸ hended
    | cancel k =>
      exact h.turn (fun heq => hfirst (by rw [WeakLocks.Action.cancel.inj heq])) (by simp) hstep
    | collect lock => exact h.turn (by simp) (by simp) hstep
    | discard k => exact h.turn (by simp) (by simp) hstep

end Runs

end EventLoop

end Interaction
