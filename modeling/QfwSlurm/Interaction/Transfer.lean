import Mathlib.Tactic

/-!
# Moving elements through a descriptor that does not block

A call that is to move a number of elements waits until its descriptor is ready, asks the system to
move what is left, gets some of it moved, and does this again until all has been moved or a deadline
has passed.  What the system answers is a list of rounds, arbitrary but for its length: every round
looks at the clock, and the deadline passes when the list is at its end.

`pump` is such a call.  Whatever the answers are, it moves a first part of what it is given, in
order and once (`pump_prefix`), and returns successfully exactly when this part has the length that
was wanted (`pump_ok_iff`).  When no answer breaks it off and enough of them move something, it does
(`pump_of_willing`).
-/

namespace Transfer

/-- What waiting for a descriptor answers: the events, or that time is over, or an error. -/
inductive Readiness where
  | ready (broken wanted : Bool)
  | expired
  | interrupted
  | failed
  deriving DecidableEq

/-- What a call that moves elements answers: how many at most, or that it is to be repeated, or an
error. -/
inductive Move where
  | moved (count : ℕ)
  | again
  | failed
  deriving DecidableEq

/-- One round: the answers while it waits, up to the deadline, and the answer to the call. -/
structure Round where
  waits : List Readiness
  move : Move
  deriving DecidableEq

/-- Why a call has stopped. -/
inductive Failure where
  | timeout
  | io
  deriving DecidableEq

/-- Wait for the descriptor. -/
def wait : List Readiness → Except Failure Unit
  | [] => .error .timeout
  | .ready broken wanted :: waits =>
    if broken then .error .io else if wanted then .ok () else wait waits
  | .expired :: _ => .error .timeout
  | .interrupted :: waits => wait waits
  | .failed :: _ => .error .io

variable {α : Type}

/-- What has been moved, and the rounds that are left. -/
structure Pumped (α : Type) where
  result : Except Failure Unit
  moved : List α := []
  left : List Round := []

/-- Move a number of elements. -/
def pump : List Round → ℕ → List α → Pumped α
  | rounds, 0, _ => { result := .ok (), left := rounds }
  | [], _ + 1, _ => { result := wait [] }
  | round :: rounds, size + 1, source =>
    match wait round.waits with
    | .error failure => { result := .error failure, left := rounds }
    | .ok () =>
      match round.move with
      | .moved count =>
        let more := min count (min (size + 1) source.length)
        if more = 0 then { result := .error .io, left := rounds }
        else
          let rest := pump rounds (size + 1 - more) (source.drop more)
          { rest with moved := source.take more ++ rest.moved }
      | .again => pump rounds (size + 1) source
      | .failed => { result := .error .io, left := rounds }

/-! ### What has been moved -/

@[simp] lemma pump_zero (rounds : List Round) (source : List α) :
    pump rounds 0 source = { result := .ok (), left := rounds } := by
  cases rounds <;> rfl

/-- The ways a round that is needed goes on. -/
lemma pump_cases (round : Round) (rounds : List Round) (size : ℕ) (source : List α) :
    (∃ failure, pump (round :: rounds) (size + 1) source =
        { result := .error failure, left := rounds }) ∨
      (wait round.waits = .ok () ∧ round.move = .again ∧
        pump (round :: rounds) (size + 1) source = pump rounds (size + 1) source) ∨
      ∃ more, 0 < more ∧ more ≤ size + 1 ∧ more ≤ source.length ∧
        pump (round :: rounds) (size + 1) source =
          { pump rounds (size + 1 - more) (source.drop more) with
            moved := source.take more ++ (pump rounds (size + 1 - more) (source.drop more)).moved }
    := by
  rw [pump]
  cases hwait : wait round.waits with
  | error failure => exact .inl ⟨failure, rfl⟩
  | ok u =>
    cases hmove : round.move with
    | again => exact .inr (.inl ⟨rfl, rfl, rfl⟩)
    | failed => exact .inl ⟨.io, rfl⟩
    | moved count =>
      dsimp only
      split_ifs with hnone
      · exact .inl ⟨.io, rfl⟩
      · exact .inr (.inr ⟨min count (min (size + 1) source.length), by omega, by omega, by omega,
          rfl⟩)

/-- A call moves a first part of its source, at most as much as is wanted, and returns successfully
exactly when this is all. -/
lemma pump_spec (rounds : List Round) (size : ℕ) (source : List α) :
    (pump rounds size source).moved <+: source ∧
      (pump rounds size source).moved.length ≤ size ∧
      ((pump rounds size source).result = .ok () ↔
        (pump rounds size source).moved.length = size) := by
  induction rounds generalizing size source with
  | nil =>
    cases size with
    | zero => simp
    | succ size => simp [pump, wait]
  | cons round rounds ih =>
    cases size with
    | zero => simp
    | succ size =>
      rcases pump_cases round rounds size source with ⟨failure, heq⟩ | ⟨-, -, heq⟩ |
        ⟨more, hpos, hsize, hlength, heq⟩
      · rw [heq]
        simp
      · rw [heq]
        exact ih (size + 1) source
      · obtain ⟨⟨rest, hrest⟩, hbound, hiff⟩ := ih (size + 1 - more) (source.drop more)
        have htake : (source.take more).length = more := by simp [hlength]
        rw [heq]
        dsimp only
        rw [List.length_append, htake]
        refine ⟨⟨rest, ?_⟩, by omega, hiff.trans (by omega)⟩
        rw [List.append_assoc, hrest, List.take_append_drop]

/-- What has been moved is a first part of the source. -/
lemma pump_prefix (rounds : List Round) (size : ℕ) (source : List α) :
    (pump rounds size source).moved <+: source := (pump_spec rounds size source).1

/-- A call is successful exactly when it has moved as much as is wanted. -/
lemma pump_ok_iff (rounds : List Round) (size : ℕ) (source : List α) :
    (pump rounds size source).result = .ok () ↔
      (pump rounds size source).moved = source.take size ∧ size ≤ source.length := by
  obtain ⟨hstart, hbound, hiff⟩ := pump_spec rounds size source
  have htake := List.prefix_iff_eq_take.mp hstart
  rw [hiff]
  constructor
  · intro hlength
    rw [hlength] at htake
    exact ⟨htake, hlength ▸ hstart.length_le⟩
  · rintro ⟨heq, hlength⟩
    rw [heq, List.length_take, min_eq_left hlength]

/-! ### Calls that are not broken off -/

/-- The round moves something if there is anything to move. -/
def Round.Moves (round : Round) : Prop :=
  wait round.waits = .ok () ∧ ∃ count, round.move = .moved (count + 1)

/-- The round does not break a call off. -/
def Round.Willing (round : Round) : Prop :=
  wait round.waits = .ok () ∧ (round.move = .again ∨ ∃ count, round.move = .moved (count + 1))

instance Round.decidableMoves (round : Round) : Decidable round.Moves :=
  match h : round.move with
  | .moved (count + 1) =>
    decidable_of_iff (wait round.waits = .ok ()) ⟨fun hwait => ⟨hwait, count, h⟩, And.left⟩
  | .moved 0 | .again | .failed => .isFalse (by simp [Moves, h])

instance Round.decidableWilling (round : Round) : Decidable round.Willing :=
  decidable_of_iff (round.Moves ∨ wait round.waits = .ok () ∧ round.move = .again) <| by
    constructor
    · rintro (⟨hwait, hmoved⟩ | ⟨hwait, hagain⟩)
      · exact ⟨hwait, .inr hmoved⟩
      · exact ⟨hwait, .inl hagain⟩
    · rintro ⟨hwait, hagain | hmoved⟩
      · exact .inr ⟨hwait, hagain⟩
      · exact .inl ⟨hwait, hmoved⟩

/-- If no round breaks it off and as many rounds as elements are wanted move something, a call is
successful; of the rounds that move something it uses at most one for each element. -/
theorem pump_of_willing {rounds : List Round} {size : ℕ} {source : List α}
    (hwilling : ∀ round ∈ rounds, round.Willing)
    (hmoves : size ≤ rounds.countP (·.Moves)) (hsource : size ≤ source.length) :
    (pump rounds size source).result = .ok () ∧
      (∀ round ∈ (pump rounds size source).left, round.Willing) ∧
      rounds.countP (·.Moves) ≤ (pump rounds size source).left.countP (·.Moves) + size := by
  induction rounds generalizing size source with
  | nil =>
    obtain rfl : size = 0 := by simpa using hmoves
    simp
  | cons round rounds ih =>
    obtain ⟨⟨hwait, hmove⟩, hrounds⟩ := List.forall_mem_cons.mp hwilling
    obtain _ | size := size
    · simpa using hwilling
    rcases hmove with hagain | ⟨count, hcount⟩
    · have hnot : ¬ round.Moves := by simp [Round.Moves, hagain]
      have heq : pump (round :: rounds) (size + 1) source = pump rounds (size + 1) source := by
        simp [pump, hwait, hagain]
      rw [List.countP_cons_of_neg (by simpa using hnot)] at hmoves ⊢
      rw [heq]
      exact ih hrounds hmoves hsource
    · have hthis : round.Moves := ⟨hwait, count, hcount⟩
      rw [List.countP_cons_of_pos (by simpa using hthis)] at hmoves ⊢
      generalize hmore : min (count + 1) (min (size + 1) source.length) = more
      have heq : pump (round :: rounds) (size + 1) source =
          { pump rounds (size + 1 - more) (source.drop more) with
            moved :=
              source.take more ++ (pump rounds (size + 1 - more) (source.drop more)).moved } := by
        have hpos : more ≠ 0 := by omega
        simp only [pump, hwait, hcount, hmore, hpos, if_false]
      have hrest : size + 1 - more ≤ (source.drop more).length := by rw [List.length_drop]; omega
      obtain ⟨hok, hleft, hbound⟩ := ih hrounds (by omega) hrest
      rw [heq]
      exact ⟨hok, hleft, by dsimp only; omega⟩

end Transfer
