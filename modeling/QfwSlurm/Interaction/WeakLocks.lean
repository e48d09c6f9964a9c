import Mathlib.Tactic

/-!
# Locks in a weak dictionary

Calls that each run inside the lock of a key.  A lock is made when a call arrives and the dictionary
has none for its key; the dictionary does not keep it alive, so that it can be collected as soon as
no call refers to it.  A lock itself is a mutex: a call enters when it is free, and frees it when it
leaves, by itself or because it is cancelled.

`Loop.Held` is the invariant: the dictionary has the lock of every call that waits or is inside, and
a lock is held exactly when one call is inside.  `run_held` says that every run keeps it, and
`Loop.Held.enter_iff` that a call waits for nothing but the calls of its own key.
-/

namespace WeakLocks

/-! ### The loop -/

/-- A lock object. -/
structure Lock where
  locked : Bool := false
  collected : Bool := false
  deriving DecidableEq

/-- Where a call is. -/
inductive Stage where
  | waiting
  | inside
  | over
  deriving DecidableEq

/-- A call that has arrived, with the lock that it refers to until it is over. -/
structure Call (α : Type) where
  task : α
  lock : ℕ
  stage : Stage

/-- The dictionary, the lock objects that have been made and the calls that have arrived. -/
structure Loop (α κ : Type) where
  entries : κ → Option ℕ := fun _ => none
  locks : List Lock := []
  calls : List (Call α) := []

variable {α κ : Type}

/-- What the dictionary returns: an entry counts as long as its lock is not collected. -/
def Loop.get (s : Loop α κ) (key : κ) : Option ℕ :=
  (s.entries key).filter fun lock => s.locks[lock]?.any fun l => !l.collected

/-- What can happen. -/
inductive Action (α κ : Type) where
  /-- A call arrives and looks for the lock of its key. -/
  | arrive (task : α)
  /-- A waiting call gets its lock. -/
  | enter (call : ℕ)
  /-- A call returns or raises. -/
  | complete (call : ℕ)
  /-- A call is cancelled, while it waits or inside. -/
  | cancel (call : ℕ)
  /-- A lock is collected. -/
  | collect (lock : ℕ)
  /-- The dictionary removes the entry of a collected lock. -/
  | discard (key : κ)

section Steps

variable [DecidableEq κ]

/-- The lock of a key, which is made if there is none. -/
def Loop.obtain (s : Loop α κ) (key : κ) : ℕ × Loop α κ :=
  match s.get key with
  | some lock => (lock, s)
  | none => (s.locks.length, { s with
      locks := s.locks ++ [{}]
      entries := Function.update s.entries key (some s.locks.length) })

/-- A call and its lock change. -/
def Loop.move (s : Loop α κ) (i : ℕ) (c : Call α) (l : Lock) (stage : Stage) (locked : Bool) :
    Loop α κ :=
  { s with
    locks := s.locks.set c.lock { l with locked := locked }
    calls := s.calls.set i { c with stage := stage } }

/-- No call refers to the lock. -/
def Loop.Unreferenced (s : Loop α κ) (lock : ℕ) : Prop :=
  ∀ c ∈ s.calls, c.stage ≠ .over → c.lock ≠ lock

instance (s : Loop α κ) (lock : ℕ) : Decidable (s.Unreferenced lock) :=
  inferInstanceAs (Decidable (∀ c ∈ s.calls, c.stage ≠ .over → c.lock ≠ lock))

/-- What the loop is after an action, if it is possible. -/
def step (key : α → κ) (s : Loop α κ) : Action α κ → Option (Loop α κ)
  | .arrive task =>
    let (lock, s) := s.obtain (key task)
    some { s with calls := s.calls ++ [⟨task, lock, .waiting⟩] }
  | .enter i => do
    let c ← s.calls[i]?
    let l ← s.locks[c.lock]?
    if c.stage = .waiting ∧ l.locked = false then some (s.move i c l .inside true) else none
  | .complete i => do
    let c ← s.calls[i]?
    let l ← s.locks[c.lock]?
    if c.stage = .inside then some (s.move i c l .over false) else none
  | .cancel i => do
    let c ← s.calls[i]?
    let l ← s.locks[c.lock]?
    match c.stage with
    | .waiting => some (s.move i c l .over l.locked)
    | .inside => some (s.move i c l .over false)
    | .over => none
  | .collect lock => do
    let l ← s.locks[lock]?
    if s.Unreferenced lock then
      some { s with locks := s.locks.set lock { l with collected := true } }
    else none
  | .discard k =>
    if s.get k = none then some { s with entries := Function.update s.entries k none } else none

/-- Actions one after the other. -/
def run (key : α → κ) : List (Action α κ) → Loop α κ → Option (Loop α κ)
  | [], s => some s
  | action :: actions, s => (step key s action).bind (run key actions)

/-! ### The invariant -/

/-- The dictionary has the lock of every call that waits or is inside, and no two keys share one; a
lock is held exactly when a call is inside, and then by no other. -/
structure Loop.Held (key : α → κ) (s : Loop α κ) : Prop where
  fresh : ∀ k lock, s.entries k = some lock → lock < s.locks.length
  apart : ∀ k k' lock, s.entries k = some lock → s.entries k' = some lock → k = k'
  entry : ∀ (i : ℕ) (c : Call α), s.calls[i]? = some c → c.stage ≠ .over →
    s.get (key c.task) = some c.lock
  locked : ∀ (i : ℕ) (c : Call α), s.calls[i]? = some c → c.stage = .inside →
    ∃ l : Lock, s.locks[c.lock]? = some l ∧ l.locked = true
  holder : ∀ (lock : ℕ) (l : Lock), s.locks[lock]? = some l → l.locked = true →
    ∃ (i : ℕ) (c : Call α), s.calls[i]? = some c ∧ c.stage = .inside ∧ c.lock = lock
  alone : ∀ (i j : ℕ) (c d : Call α), s.calls[i]? = some c → s.calls[j]? = some d →
    c.stage = .inside → d.stage = .inside → c.lock = d.lock → i = j

section Lists

variable {β : Type} {xs : List β} {i j : ℕ} {x y : β}

/-- An element of a list in which one has been replaced. -/
lemma getElem?_set_cases (h : (xs.set i x)[j]? = some y) :
    (j = i ∧ y = x) ∨ (j ≠ i ∧ xs[j]? = some y) := by
  rw [List.getElem?_set] at h
  split_ifs at h with hij hlt
  · exact .inl ⟨hij.symm, (Option.some.inj h).symm⟩
  · exact .inr ⟨Ne.symm hij, h⟩

/-- An element of a list behind which one has been put. -/
lemma getElem?_concat_cases (h : (xs ++ [x])[j]? = some y) :
    (j = xs.length ∧ y = x) ∨ xs[j]? = some y := by
  rcases lt_or_ge j xs.length with hlt | hge
  · exact .inr (by rwa [List.getElem?_append_left hlt] at h)
  · rw [List.getElem?_append_right hge] at h
    obtain ⟨hzero, rfl⟩ : j - xs.length = 0 ∧ x = y := by
      simpa [List.getElem?_singleton] using h
    exact .inl ⟨by omega, rfl⟩

lemma getElem?_set_of_some (h : xs[i]? = some y) : (xs.set i x)[i]? = some x :=
  List.getElem?_set_self (List.getElem?_eq_some_iff.mp h).1

end Lists

section Preserved

variable {key : α → κ} {s : Loop α κ}

omit [DecidableEq κ] in
lemma Loop.get_eq_some_iff {k : κ} {lock : ℕ} : s.get k = some lock ↔
    s.entries k = some lock ∧ ∃ l : Lock, s.locks[lock]? = some l ∧ l.collected = false := by
  rw [Loop.get, Option.filter_eq_some_iff, Option.any_eq_true]
  simp

omit [DecidableEq κ] in
lemma held_empty : ({} : Loop α κ).Held key :=
  ⟨nofun, nofun, by simp, by simp, by simp, by simp⟩

/-! ### What every action keeps -/

omit [DecidableEq κ] in
/-- A change of a lock that neither collects it nor brings it back does not matter to the
dictionary. -/
lemma Loop.get_set {entries : κ → Option ℕ} {locks : List Lock} {calls calls' : List (Call α)}
    {n : ℕ} {l : Lock} (hl : locks[n]? = some l) (l' : Lock) (hsame : l'.collected = l.collected)
    (k : κ) :
    (⟨entries, locks.set n l', calls'⟩ : Loop α κ).get k =
      (⟨entries, locks, calls⟩ : Loop α κ).get k := by
  refine congrArg (Option.filter · (entries k)) (funext fun lock => ?_)
  rw [List.getElem?_set]
  split_ifs with hlock hlt
  · subst hlock
    simp [hl, hsame]
  · subst hlock
    rw [List.getElem?_eq_none (not_lt.mp hlt)] at hl
    cases hl
  · rfl

omit [DecidableEq κ] in
/-- A call and its lock change together: the lock is held if the call is inside now, and if another
one is, which the call is not then. -/
lemma Loop.Held.move (h : s.Held key) {i : ℕ} {c : Call α} {l : Lock} {stage : Stage}
    {locked : Bool} (hc : s.calls[i]? = some c) (hl : s.locks[c.lock]? = some l)
    (hactive : stage ≠ .over → c.stage ≠ .over) (hlocked : stage = .inside → locked = true)
    (hholder : locked = true → stage = .inside ∨ ∃ (j : ℕ) (d : Call α), j ≠ i ∧
      s.calls[j]? = some d ∧ d.stage = .inside ∧ d.lock = c.lock)
    (hothers : ∀ (j : ℕ) (d : Call α), j ≠ i → s.calls[j]? = some d → d.stage = .inside →
      d.lock = c.lock → stage ≠ .inside ∧ locked = true) :
    (s.move i c l stage locked).Held key := by
  have hget (k : κ) : (s.move i c l stage locked).get k = s.get k :=
    Loop.get_set hl { l with locked := locked } rfl k
  have hself : (s.move i c l stage locked).calls[i]? = some { c with stage := stage } :=
    getElem?_set_of_some hc
  have hother {j : ℕ} (hj : j ≠ i) : (s.move i c l stage locked).calls[j]? = s.calls[j]? :=
    List.getElem?_set_ne hj.symm
  constructor
  · intro k lock hentry
    exact (h.fresh k lock hentry).trans_eq List.length_set.symm
  · exact h.apart
  · intro j d hd hstage
    rw [hget]
    rcases getElem?_set_cases hd with ⟨rfl, rfl⟩ | ⟨-, hd⟩
    · exact h.entry j c hc (hactive hstage)
    · exact h.entry j d hd hstage
  · intro j d hd hinside
    rcases getElem?_set_cases hd with ⟨rfl, rfl⟩ | ⟨hj, hd⟩
    · exact ⟨_, getElem?_set_of_some hl, hlocked hinside⟩
    by_cases hlock : d.lock = c.lock
    · rw [hlock]
      exact ⟨_, getElem?_set_of_some hl, (hothers j d hj hd hinside hlock).2⟩
    · obtain ⟨l', hl', htrue⟩ := h.locked j d hd hinside
      exact ⟨l', (List.getElem?_set_ne (Ne.symm hlock)).trans hl', htrue⟩
  · intro lock l' hl' htrue
    rcases getElem?_set_cases hl' with ⟨rfl, rfl⟩ | ⟨hne, hl'⟩
    · rcases hholder htrue with hinside | ⟨j, d, hj, hd, hinside, hlock⟩
      · exact ⟨i, _, hself, hinside, rfl⟩
      · exact ⟨j, d, (hother hj).trans hd, hinside, hlock⟩
    · obtain ⟨j, d, hd, hinside, hlock⟩ := h.holder lock l' hl' htrue
      have hj : j ≠ i := by
        rintro rfl
        obtain rfl : d = c := Option.some.inj (hd.symm.trans hc)
        exact hne hlock.symm
      exact ⟨j, d, (hother hj).trans hd, hinside, hlock⟩
  · intro j k d e hd he hdin hein hlock
    rcases getElem?_set_cases hd with ⟨rfl, rfl⟩ | ⟨hj, hdold⟩ <;>
      rcases getElem?_set_cases he with ⟨rfl, rfl⟩ | ⟨hk, heold⟩
    · rfl
    · exact absurd hdin (hothers k e hk heold hein hlock.symm).1
    · exact absurd hein (hothers j d hj hdold hdin hlock).1
    · exact h.alone j k d e hdold heold hdin hein hlock

omit [DecidableEq κ] in
/-- A lock that is held is not free for another call. -/
lemma Loop.Held.free_of_unlocked (h : s.Held key) {lock : ℕ} {l : Lock}
    (hl : s.locks[lock]? = some l) (hfree : l.locked = false) {i : ℕ} {c : Call α}
    (hc : s.calls[i]? = some c) (hlock : c.lock = lock) : c.stage ≠ .inside := by
  intro hinside
  obtain ⟨l', hl', htrue⟩ := h.locked i c hc hinside
  rw [hlock, hl] at hl'
  obtain rfl := Option.some.inj hl'
  exact Bool.false_ne_true (hfree.symm.trans htrue)

omit [DecidableEq κ] in
/-- A call leaves its lock free. -/
lemma Loop.Held.leave (h : s.Held key) {i : ℕ} {c : Call α} {l : Lock}
    (hc : s.calls[i]? = some c) (hl : s.locks[c.lock]? = some l) (hinside : c.stage = .inside) :
    (s.move i c l .over false).Held key := by
  refine h.move hc hl (fun hover => absurd rfl hover) nofun nofun ?_
  intro j d hj hd hdin hlock
  exact absurd (h.alone j i d c hd hc hdin hinside hlock) hj

/-- What an entry is after another one has been made. -/
lemma update_cases {entries : κ → Option ℕ} {k k' : κ} {new lock : ℕ}
    (h : Function.update entries k (some new) k' = some lock) :
    (k' = k ∧ lock = new) ∨ (k' ≠ k ∧ entries k' = some lock) := by
  by_cases hk : k' = k
  · rw [hk, Function.update_self] at h
    exact .inl ⟨hk, (Option.some.inj h).symm⟩
  · rw [Function.update_of_ne hk] at h
    exact .inr ⟨hk, h⟩

/-- The lock of a key, old or new: the dictionary has it afterwards, and what the calls refer to is
as before. -/
lemma Loop.Held.obtain (h : s.Held key) (k : κ) {lock : ℕ} {s' : Loop α κ}
    (hs : s.obtain k = (lock, s')) : s'.Held key ∧ s'.get k = some lock ∧ s'.calls = s.calls := by
  unfold Loop.obtain at hs
  split at hs
  next hget =>
    obtain ⟨rfl, rfl⟩ := Prod.mk.inj hs
    exact ⟨h, hget, rfl⟩
  next hget =>
    obtain ⟨rfl, rfl⟩ := Prod.mk.inj hs
    have hkeeps {n : ℕ} {l : Lock} (hl : s.locks[n]? = some l) :
        (s.locks ++ [({} : Lock)])[n]? = some l := by
      rw [List.getElem?_append_left (List.getElem?_eq_some_iff.mp hl).1]
      exact hl
    have hnew : (s.locks ++ [({} : Lock)])[s.locks.length]? = some {} := by simp
    refine ⟨?_, ?_, rfl⟩
    · constructor
      · intro k' n hentry
        rw [List.length_append, List.length_singleton]
        rcases update_cases hentry with ⟨-, rfl⟩ | ⟨-, hentry⟩
        · exact Nat.lt_succ_self _
        · exact (h.fresh k' n hentry).trans (Nat.lt_succ_self _)
      · intro k₁ k₂ n hfirst hsecond
        rcases update_cases hfirst with ⟨hk₁, hn₁⟩ | ⟨-, hold₁⟩ <;>
          rcases update_cases hsecond with ⟨hk₂, hn₂⟩ | ⟨-, hold₂⟩
        · exact hk₁.trans hk₂.symm
        · exact absurd (hn₁ ▸ h.fresh k₂ n hold₂) (lt_irrefl _)
        · exact absurd (hn₂ ▸ h.fresh k₁ n hold₁) (lt_irrefl _)
        · exact h.apart k₁ k₂ n hold₁ hold₂
      · intro i c hc hactive
        have hold := h.entry i c hc hactive
        have hne : key c.task ≠ k := by
          rintro rfl
          rw [hget] at hold
          cases hold
        obtain ⟨hentry, l, hl, hlive⟩ := Loop.get_eq_some_iff.mp hold
        exact Loop.get_eq_some_iff.mpr
          ⟨(Function.update_of_ne hne _ _).trans hentry, l, hkeeps hl, hlive⟩
      · intro i c hc hinside
        obtain ⟨l, hl, htrue⟩ := h.locked i c hc hinside
        exact ⟨l, hkeeps hl, htrue⟩
      · intro n l hl htrue
        rcases getElem?_concat_cases hl with ⟨-, rfl⟩ | hl
        · cases htrue
        · exact h.holder n l hl htrue
      · exact h.alone
    · exact Loop.get_eq_some_iff.mpr ⟨Function.update_self k _ _, {}, hnew, rfl⟩

omit [DecidableEq κ] in
/-- A call arrives with the lock that the dictionary has for its key. -/
lemma Loop.Held.arrive (h : s.Held key) {task : α} {lock : ℕ}
    (hget : s.get (key task) = some lock) :
    Loop.Held key { s with calls := s.calls ++ [⟨task, lock, .waiting⟩] } := by
  have hcases {i : ℕ} {c : Call α} (hc : (s.calls ++ [⟨task, lock, .waiting⟩])[i]? = some c)
      (hinside : c.stage = .inside) : s.calls[i]? = some c := by
    rcases getElem?_concat_cases hc with ⟨-, rfl⟩ | hc
    · cases hinside
    · exact hc
  constructor
  · exact h.fresh
  · exact h.apart
  · intro i c hc hactive
    rcases getElem?_concat_cases hc with ⟨-, rfl⟩ | hc
    · exact hget
    · exact h.entry i c hc hactive
  · intro i c hc hinside
    exact h.locked i c (hcases hc hinside) hinside
  · intro n l hl htrue
    obtain ⟨i, c, hc, hinside, hlock⟩ := h.holder n l hl htrue
    refine ⟨i, c, ?_, hinside, hlock⟩
    exact (List.getElem?_append_left (List.getElem?_eq_some_iff.mp hc).1).trans hc
  · intro i j c d hc hd hcin hdin hlock
    exact h.alone i j c d (hcases hc hcin) (hcases hd hdin) hcin hdin hlock

omit [DecidableEq κ] in
/-- A lock is collected that no call refers to. -/
lemma Loop.Held.collect (h : s.Held key) {lock : ℕ} {l : Lock} (hl : s.locks[lock]? = some l)
    (hunreferenced : s.Unreferenced lock) :
    Loop.Held key { s with locks := s.locks.set lock { l with collected := true } } := by
  have hne {i : ℕ} {c : Call α} (hc : s.calls[i]? = some c) (hactive : c.stage ≠ .over) :
      lock ≠ c.lock := (hunreferenced c (List.mem_of_getElem? hc) hactive).symm
  constructor
  · intro k n hentry
    exact (h.fresh k n hentry).trans_eq List.length_set.symm
  · exact h.apart
  · intro i c hc hactive
    obtain ⟨hentry, l', hl', hlive⟩ := Loop.get_eq_some_iff.mp (h.entry i c hc hactive)
    exact Loop.get_eq_some_iff.mpr
      ⟨hentry, l', (List.getElem?_set_ne (hne hc hactive)).trans hl', hlive⟩
  · intro i c hc hinside
    obtain ⟨l', hl', htrue⟩ := h.locked i c hc hinside
    have hactive : c.stage ≠ .over := by rw [hinside]; decide
    exact ⟨l', (List.getElem?_set_ne (hne hc hactive)).trans hl', htrue⟩
  · intro n l' hl' htrue
    rcases getElem?_set_cases hl' with ⟨rfl, rfl⟩ | ⟨-, hl'⟩
    · exact h.holder n l hl htrue
    · exact h.holder n l' hl' htrue
  · exact h.alone

/-- The dictionary loses an entry of no use. -/
lemma Loop.Held.discard (h : s.Held key) {k : κ} (hget : s.get k = none) :
    Loop.Held key { s with entries := Function.update s.entries k none } := by
  have hold {k' : κ} {lock : ℕ} (hentry : Function.update s.entries k none k' = some lock) :
      s.entries k' = some lock := by
    by_cases hk : k' = k
    · subst hk
      rw [Function.update_self] at hentry
      cases hentry
    · rwa [Function.update_of_ne hk] at hentry
  refine ⟨fun k' lock hentry => h.fresh k' lock (hold hentry),
    fun k₁ k₂ lock hfirst hsecond => h.apart k₁ k₂ lock (hold hfirst) (hold hsecond), ?_,
    h.locked, h.holder, h.alone⟩
  intro i c hc hactive
  have hentry := h.entry i c hc hactive
  have hne : key c.task ≠ k := by
    rintro rfl
    rw [hget] at hentry
    cases hentry
  obtain ⟨hfound, hlive⟩ := Loop.get_eq_some_iff.mp hentry
  exact Loop.get_eq_some_iff.mpr ⟨(Function.update_of_ne hne _ _).trans hfound, hlive⟩

/-- Every action keeps the invariant. -/
theorem step_held (h : s.Held key) {action : Action α κ} {s' : Loop α κ}
    (hstep : step key s action = some s') : s'.Held key := by
  cases action with
  | arrive task =>
    rcases hobtain : s.obtain (key task) with ⟨lock, t⟩
    obtain ⟨ht, hget, -⟩ := h.obtain (key task) hobtain
    rw [step, hobtain] at hstep
    obtain rfl := Option.some.inj hstep
    exact ht.arrive hget
  | enter i =>
    obtain ⟨c, hc, hstep⟩ := Option.bind_eq_some_iff.mp hstep
    obtain ⟨l, hl, hstep⟩ := Option.bind_eq_some_iff.mp hstep
    split_ifs at hstep with hfree
    obtain rfl := Option.some.inj hstep
    obtain ⟨hwaiting, hunlocked⟩ := hfree
    refine h.move hc hl (fun _ => by rw [hwaiting]; decide) (fun _ => rfl) (fun _ => .inl rfl) ?_
    intro j d _ hd hinside hlock
    exact absurd hinside (h.free_of_unlocked hl hunlocked hd hlock)
  | complete i =>
    obtain ⟨c, hc, hstep⟩ := Option.bind_eq_some_iff.mp hstep
    obtain ⟨l, hl, hstep⟩ := Option.bind_eq_some_iff.mp hstep
    split_ifs at hstep with hinside
    obtain rfl := Option.some.inj hstep
    exact h.leave hc hl hinside
  | cancel i =>
    obtain ⟨c, hc, hstep⟩ := Option.bind_eq_some_iff.mp hstep
    obtain ⟨l, hl, hstep⟩ := Option.bind_eq_some_iff.mp hstep
    split at hstep
    next hwaiting =>
      obtain rfl := Option.some.inj hstep
      refine h.move hc hl (fun hover => absurd rfl hover) nofun (fun htrue => .inr ?_) ?_
      · obtain ⟨j, d, hd, hinside, hlock⟩ := h.holder c.lock l hl htrue
        refine ⟨j, d, ?_, hd, hinside, hlock⟩
        rintro rfl
        obtain rfl : d = c := Option.some.inj (hd.symm.trans hc)
        rw [hwaiting] at hinside
        cases hinside
      · intro j d _ hd hinside hlock
        obtain ⟨l', hl', htrue⟩ := h.locked j d hd hinside
        rw [hlock, hl] at hl'
        exact ⟨nofun, Option.some.inj hl' ▸ htrue⟩
    next hinside =>
      obtain rfl := Option.some.inj hstep
      exact h.leave hc hl hinside
    next => cases hstep
  | collect lock =>
    obtain ⟨l, hl, hstep⟩ := Option.bind_eq_some_iff.mp hstep
    split_ifs at hstep with hunreferenced
    obtain rfl := Option.some.inj hstep
    exact h.collect hl hunreferenced
  | discard k =>
    rw [step] at hstep
    split_ifs at hstep with hget
    obtain rfl := Option.some.inj hstep
    exact h.discard hget

/-- Every run keeps the invariant. -/
theorem run_held (h : s.Held key) {actions : List (Action α κ)} {s' : Loop α κ}
    (hrun : run key actions s = some s') : s'.Held key := by
  induction actions generalizing s with
  | nil =>
    obtain rfl := Option.some.inj hrun
    exact h
  | cons action actions ih =>
    obtain ⟨t, hstep, hrun⟩ := Option.bind_eq_some_iff.mp hrun
    exact ih (step_held h hstep) hrun

/-! ### What the invariant says -/

omit [DecidableEq κ] in
/-- Of the calls of one key, at most one is inside. -/
theorem Loop.Held.exclusive (h : s.Held key) {i j : ℕ} {c d : Call α} (hc : s.calls[i]? = some c)
    (hd : s.calls[j]? = some d) (hcin : c.stage = .inside) (hdin : d.stage = .inside)
    (hkey : key c.task = key d.task) : i = j := by
  have hfirst := h.entry i c hc (by rw [hcin]; decide)
  have hsecond := h.entry j d hd (by rw [hdin]; decide)
  rw [hkey, hsecond] at hfirst
  exact h.alone i j c d hc hd hcin hdin (Option.some.inj hfirst).symm

/-- While a call waits or is inside, what arrives for its key gets its lock. -/
theorem Loop.Held.shared (h : s.Held key) {i : ℕ} {c : Call α} (hc : s.calls[i]? = some c)
    (hactive : c.stage ≠ .over) : s.obtain (key c.task) = (c.lock, s) := by
  rw [Loop.obtain, h.entry i c hc hactive]

/-- A waiting call can enter exactly when no call of its key is inside. -/
theorem Loop.Held.enter_iff (h : s.Held key) {i : ℕ} {c : Call α} (hc : s.calls[i]? = some c)
    (hwaiting : c.stage = .waiting) : (step key s (.enter i)).isSome = true ↔
      ∀ d ∈ s.calls, key d.task = key c.task → d.stage ≠ .inside := by
  have hentry := h.entry i c hc (by rw [hwaiting]; decide)
  obtain ⟨hfound, l, hl, -⟩ := Loop.get_eq_some_iff.mp hentry
  have hstep : (step key s (.enter i)).isSome = true ↔ l.locked = false := by
    rw [step, hc, Option.bind_eq_bind, Option.bind_some, hl, Option.bind_eq_bind, Option.bind_some]
    by_cases hfree : l.locked = false
    · rw [if_pos ⟨hwaiting, hfree⟩]
      exact iff_of_true rfl hfree
    · rw [if_neg fun hboth => hfree hboth.2]
      exact iff_of_false nofun hfree
  rw [hstep]
  constructor
  · intro hfree d hd hkey hinside
    obtain ⟨j, hj⟩ := List.mem_iff_getElem?.mp hd
    have hlock : d.lock = c.lock := by
      have hentry' := h.entry j d hj (by rw [hinside]; decide)
      rw [hkey, hentry] at hentry'
      exact (Option.some.inj hentry').symm
    exact h.free_of_unlocked hl hfree hj hlock hinside
  · intro hnone
    by_contra hheld
    obtain ⟨j, d, hd, hinside, hlock⟩ := h.holder c.lock l hl (by simpa using hheld)
    have hentry' := h.entry j d hd (by rw [hinside]; decide)
    rw [hlock] at hentry'
    have hkey := h.apart _ _ _ (Loop.get_eq_some_iff.mp hentry').1 hfound
    exact hnone d (List.mem_of_getElem? hd) hkey hinside

end Preserved

end Steps

end WeakLocks
