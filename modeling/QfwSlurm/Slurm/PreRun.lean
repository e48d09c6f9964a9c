import QfwSlurm.Interaction.Loop
import QfwSlurm.Lua.Arithmetic

/-!
# The pre-run hook of the burst-buffer script

`slurm_bb_pre_run` runs the helper's final reservation again while the failure is expected to clear:
a transient one a limited number of times with a delay that doubles, a delayed one at a fixed
interval, each within a budget of time.  The settings and the clock are numbers of Lua; the helper is
a stream of outcomes, and the clock is any that counts the time slept.

The two kinds of retry share one loop.  `Paced` is its invariant, and `slurmBbPreRun_ends` says how
many times the helper runs, how long the hook pauses and what it leaves behind, as long as the
arithmetic of Lua does not get in the way (`LoopState.Exact`): a sum may wrap around or be rounded
down to the budget, and a number of retries beyond the integers cannot be printed.
-/

namespace QfwSlurm

open Interaction

/-! ### The script -/

/-- What the hook does to its surroundings. -/
inductive HookEvent where
  /-- `run_helper` returned this status. -/
  | helper (status : ℤ)
  | log (text : String)
  /-- `sleep` was executed. -/
  | sleep (seconds : Lua.Number)
  /-- This command of `scontrol` was executed. -/
  | scontrol (command : String)
  /-- This command of `scancel` was executed. -/
  | scancel (command : String)
  deriving DecidableEq

/-- The settings that the hook reads. -/
structure HookSettings where
  reservationRetries : Lua.Number
  reservationRetryDelay : Lua.Number
  reservationRetryBudget : Lua.Number
  reservationWaitInterval : Lua.Number
  reservationWaitBudget : Lua.Number
  scancel : String
  scontrol : String
  /-- `slurm.log_info ~= nil` -/
  logsInfo : Bool
  /-- `tostring` of a number. -/
  numberText : Lua.Number → String

/-- What a call of `run_helper` meets. -/
inductive HelperOutcome where
  | invalidMetadata
  | unavailable
  /-- The first line of the status file, read as a number. -/
  | exited (status : Option ℤ)
  deriving DecidableEq

/-- `run_helper` -/
def HelperOutcome.result : HelperOutcome → ℤ × String
  | invalidMetadata => (30, "invalid authoritative Slurm job metadata")
  | unavailable => (30, "qfw-slurm helper status is unavailable")
  | exited none => (30, "qfw-slurm helper status is invalid")
  | exited (some status) =>
    if status = 0 then (0, "")
    else (status, s!"qfw-slurm helper exited with status {status}")

/-- `quote` -/
def quote (value : String) : String :=
  "'" ++ String.join (value.toList.map fun c => if c = '\'' then "'\\''" else c.toString) ++ "'"

/-- `string.match(tostring(job_id), "^[0-9]+$")` -/
def numericJobId (jobId : String) : Bool :=
  !jobId.toList.isEmpty && jobId.toList.all fun c => 48 ≤ c.toNat ∧ c.toNat ≤ 57

section Hook

variable (settings : HookSettings)

/-- `log_info` -/
def logInfo (message : String) : List HookEvent :=
  if settings.logsInfo then [.log message] else []

/-- `pause` -/
def pause (seconds : Lua.Number) : List HookEvent :=
  if (Lua.Number.integer 0).lt seconds then [.sleep seconds] else []

/-- `cancel_job` -/
def cancelJob (jobId : String) : List HookEvent :=
  if numericJobId jobId then [.scancel (quote settings.scancel ++ " --quiet " ++ jobId)] else []

/-- `comment_job` -/
def commentJob (jobId message : String) : List HookEvent :=
  if numericJobId jobId then
    [.scontrol (quote settings.scontrol ++ " update JobId=" ++ jobId ++ " " ++
      quote ("AdminComment=slurm_bb_pre_run: " ++ message))]
  else []

/-- The local variables of `reserve`, and what has been done so far.  The two counters do not wrap
around. -/
structure LoopState where
  attempt : ℕ
  retried : ℕ
  retryDelay : Lua.Number
  status : ℤ
  message : String
  trace : List HookEvent

/-- `math.max(0, math.floor(reservation_retries))` -/
def HookSettings.retries : Lua.Number :=
  (Lua.Number.integer 0).max settings.reservationRetries.floor

/-- An error that Lua raised, and what had been done by then. -/
structure LuaError where
  message : String
  trace : List HookEvent
  deriving DecidableEq

-- `time` is what `os.time` returns after these events, and `helper` what the helper's runs meet.
variable (time : List HookEvent → Lua.Number) (helper : ℕ → HelperOutcome) (jobId : String)

/-- `os.time() - started` -/
def elapsed (trace : List HookEvent) : Lua.Number := (time trace).sub (time [])

/-- The end of a round of the loop: the message, the pause and the next run of the helper. -/
def LoopState.rerun (s : LoopState) (pauseSeconds : Lua.Number) (text : String) : LoopState :=
  let (status, message) := (helper s.attempt).result
  { s with
    attempt := s.attempt + 1
    status := status
    message := message
    trace := s.trace ++ (logInfo settings text ++ pause pauseSeconds ++ [.helper status]) }

/-- No further wait: the interval is not positive, or its end is beyond the budget. -/
def LoopState.WaitsNoMore (s : LoopState) : Prop :=
  settings.reservationWaitInterval.le (.integer 0) ∨
    settings.reservationWaitBudget.lt
      ((elapsed time s.trace).add settings.reservationWaitInterval)

/-- No further retry: there were all, or the end of the delay is beyond the budget. -/
def LoopState.RetriesNoMore (s : LoopState) : Prop :=
  settings.retries.le (.integer (.ofNat s.retried)) ∨
    settings.reservationRetryBudget.lt ((elapsed time s.trace).add s.retryDelay)

instance (s : LoopState) : Decidable (s.WaitsNoMore settings time) :=
  inferInstanceAs (Decidable (_ ∨ _))

instance (s : LoopState) : Decidable (s.RetriesNoMore settings time) :=
  inferInstanceAs (Decidable (_ ∨ _))

/-- What `string.format` raises for `%d` and a number that is not an integer. -/
def noRepresentation : String :=
  "bad argument #6 to 'format' (number has no integer representation)"

/-- One round of the loop in `reserve`; `none` where the loop is left. -/
def LoopState.advance (s : LoopState) : Option (Except LuaError LoopState) :=
  if s.status = 0 ∨ s.status = 20 then none
  else if s.status = 10 then
    if s.WaitsNoMore settings time then none
    else
      let interval := settings.reservationWaitInterval
      some <| .ok <| s.rerun settings helper interval <|
        s!"slurm_bb_pre_run: job {jobId}: QPM reservation attempt {s.attempt} delayed " ++
        s!"({s.message}), waiting {settings.numberText interval} s"
  else if s.RetriesNoMore settings time then none
  else
    let next := { s with retried := s.retried + 1, retryDelay := s.retryDelay.mul (.integer 2) }
    -- the message is formatted with `%d` for the retries, also where it is not logged
    match settings.retries.toInteger with
    | none => some (.error ⟨noRepresentation, s.trace⟩)
    | some retries =>
      some <| .ok <| next.rerun settings helper s.retryDelay <|
        s!"slurm_bb_pre_run: job {jobId}: QPM reservation attempt {s.attempt} failed " ++
        s!"({s.message}), retry {next.retried} of {retries} in " ++
        s!"{settings.numberText s.retryDelay} s"

/-- The loop goes on until it is left or an error is raised. -/
def hookRound : Except LuaError LoopState → Option (Except LuaError LoopState)
  | .ok s => s.advance settings time helper jobId
  | .error _ => none

/-- The state in which `reserve` enters the loop. -/
def LoopState.initial : LoopState :=
  let (status, message) := (helper 0).result
  { attempt := 1
    retried := 0
    retryDelay := (Lua.Number.integer 0).max settings.reservationRetryDelay
    status := status
    message := message
    trace := [.helper status] }

/-- `reserve`, within so many rounds of its loop. -/
def luaReserve (fuel : ℕ) : Option (Except LuaError LoopState) :=
  loop (hookRound settings time helper jobId) fuel (.ok (LoopState.initial settings helper))

/-- What the hook returns to Slurm, and what it has done. -/
structure HookResult where
  success : Bool
  message : String
  trace : List HookEvent
  deriving DecidableEq

/-- `fail_job` -/
def failJob (message : String) (trace : List HookEvent) : HookResult where
  success := false
  message := message
  trace := trace ++ (logInfo settings s!"slurm_bb_pre_run: job {jobId}: cancelling: {message}" ++
    commentJob settings jobId message ++ cancelJob settings jobId)

/-- How `slurm_bb_pre_run` words a failed reservation. -/
def failureMessage (s : LoopState) : String :=
  let count := if s.attempt = 1 then "1 attempt" else s!"{s.attempt} attempts"
  if s.status = 20 ∧ s.attempt = 1 then s!"QPM reservation rejected: {s.message}"
  else if s.status = 20 then s!"QPM reservation rejected after {count}: {s.message}"
  else if s.status = 10 then s!"QPM reservation still delayed after {count}: {s.message}"
  else s!"QPM reservation failed after {count}: {s.message}"

/-- The end of `slurm_bb_pre_run`. -/
def conclude (s : LoopState) : HookResult :=
  if s.status = 0 then ⟨true, "", s.trace⟩
  else failJob settings jobId (failureMessage s) s.trace

/-- `slurm_bb_pre_run`, within so many rounds of the loop. -/
def slurmBbPreRun (fuel : ℕ) : Option (Except LuaError HookResult) :=
  (luaReserve settings time helper jobId fuel).map (Except.map (conclude settings jobId))

/-- The loop comes by this state. -/
def Reaches (s : LoopState) : Prop :=
  Leads (hookRound settings time helper jobId) (.ok (LoopState.initial settings helper)) (.ok s)

end Hook

/-! ### What is read off a trace -/

/-- The statuses of the helper runs. -/
def statuses (trace : List HookEvent) : List ℤ :=
  trace.filterMap fun | .helper status => some status | _ => none

/-- The pauses. -/
def pauses (trace : List HookEvent) : List Lua.Number :=
  trace.filterMap fun | .sleep seconds => some seconds | _ => none

/-- The time slept, as far as the pauses were finite. -/
def slept (trace : List HookEvent) : ℚ := ((pauses trace).map Lua.Number.amount).sum

/-- The commands of Slurm. -/
def slurmCommands (trace : List HookEvent) : List HookEvent :=
  trace.filter fun | .scontrol _ | .scancel _ => true | _ => false

@[simp] lemma statuses_append (t u : List HookEvent) :
    statuses (t ++ u) = statuses t ++ statuses u := List.filterMap_append

@[simp] lemma pauses_append (t u : List HookEvent) :
    pauses (t ++ u) = pauses t ++ pauses u := List.filterMap_append

@[simp] lemma slurmCommands_append (t u : List HookEvent) :
    slurmCommands (t ++ u) = slurmCommands t ++ slurmCommands u := List.filter_append ..

@[simp] lemma statuses_helper (status : ℤ) : statuses [.helper status] = [status] := rfl

@[simp] lemma pauses_helper (status : ℤ) : pauses [.helper status] = [] := rfl

@[simp] lemma slurmCommands_helper (status : ℤ) : slurmCommands [.helper status] = [] := rfl

section Traces

variable (settings : HookSettings)

@[simp] lemma statuses_logInfo (text : String) : statuses (logInfo settings text) = [] := by
  unfold logInfo
  split <;> rfl

@[simp] lemma pauses_logInfo (text : String) : pauses (logInfo settings text) = [] := by
  unfold logInfo
  split <;> rfl

@[simp] lemma slurmCommands_logInfo (text : String) :
    slurmCommands (logInfo settings text) = [] := by
  unfold logInfo
  split <;> rfl

@[simp] lemma statuses_pause (seconds : Lua.Number) : statuses (pause seconds) = [] := by
  unfold pause
  split <;> rfl

@[simp] lemma slurmCommands_pause (seconds : Lua.Number) : slurmCommands (pause seconds) = [] := by
  unfold pause
  split <;> rfl

/-- A pause takes the given time; none is made for a time that is not positive. -/
lemma slept_pause {seconds : Lua.Number} {q : ℚ} (h : seconds.quantity = .finite q) :
    slept (pause seconds) = max 0 q := by
  have hlt := Lua.Number.lt_iff (a := .integer 0) rfl h
  rw [Lua.Number.toInt_zero, Int.cast_zero] at hlt
  unfold pause
  by_cases hpositive : (Lua.Number.integer 0).lt seconds = true
  · rw [if_pos hpositive, max_eq_right (hlt.mp hpositive).le]
    simp [slept, pauses, Lua.Number.amount_of_finite h]
  · rw [if_neg hpositive, max_eq_left (not_lt.mp (mt hlt.mpr hpositive))]
    rfl

lemma mem_pauses_pause {seconds pause' : Lua.Number} (h : pause' ∈ pauses (pause seconds)) :
    pause' = seconds := by
  unfold pause at h
  split at h
  · exact List.mem_singleton.mp h
  · cases h

end Traces

/-! ### What the loop relies on -/

section Loop

variable {settings : HookSettings} {time : List HookEvent → Lua.Number}
  {helper : ℕ → HelperOutcome} {jobId : String} {s s' : LoopState}

/-- On the clock every pause takes its time, in the states that the loop comes by. -/
def CountsPauses (settings : HookSettings) (time : List HookEvent → Lua.Number)
    (helper : ℕ → HelperOutcome) (jobId : String) : Prop :=
  ∀ s, Reaches settings time helper jobId s →
    ∃ e, (elapsed time s.trace).quantity = .finite e ∧ slept s.trace ≤ e

/-- A pause that begins at a reading of the clock ends within the budget, without wrap-around and
rounding. -/
def WithinBudget (reading pauseSeconds budget : Lua.Number) : Prop :=
  ∃ e p b, reading.quantity = .finite e ∧ pauseSeconds.quantity = .finite p ∧
    budget.quantity = .finite b ∧ e + p ≤ b

variable (settings time) in
/-- Where the loop goes on, the pause ends within its budget, and the message can be formatted. -/
structure LoopState.Exact (s : LoopState) : Prop where
  wait : s.status = 10 → ¬ s.WaitsNoMore settings time →
    WithinBudget (elapsed time s.trace) settings.reservationWaitInterval
      settings.reservationWaitBudget
  retry : s.status ≠ 0 → s.status ≠ 20 → s.status ≠ 10 → ¬ s.RetriesNoMore settings time →
    WithinBudget (elapsed time s.trace) s.retryDelay settings.reservationRetryBudget ∧
      settings.retries.toInteger ≠ none

/-- What a round of the loop can be: a wait after a delayed attempt, or a retry after a transient
failure, for which the message may not be formatted. -/
lemma advance_cases {outcome : Except LuaError LoopState}
    (h : s.advance settings time helper jobId = some outcome) :
    (s.status ≠ 0 ∧ s.status ≠ 20) ∧
      ((s.status = 10 ∧ ¬ s.WaitsNoMore settings time ∧ ∃ text,
          outcome = .ok (s.rerun settings helper settings.reservationWaitInterval text)) ∨
        (s.status ≠ 10 ∧ ¬ s.RetriesNoMore settings time ∧
          match settings.retries.toInteger with
          | none => outcome = .error ⟨noRepresentation, s.trace⟩
          | some _ => ∃ text, outcome =
            .ok ({ s with
              retried := s.retried + 1
              retryDelay := s.retryDelay.mul (.integer 2) }.rerun settings helper s.retryDelay
                text))) := by
  unfold LoopState.advance at h
  by_cases hdecided : s.status = 0 ∨ s.status = 20
  · rw [if_pos hdecided] at h
    cases h
  rw [if_neg hdecided] at h
  refine ⟨not_or.mp hdecided, ?_⟩
  by_cases hdelayed : s.status = 10
  · rw [if_pos hdelayed] at h
    by_cases hover : s.WaitsNoMore settings time
    · rw [if_pos hover] at h
      cases h
    · rw [if_neg hover] at h
      exact .inl ⟨hdelayed, hover, _, (Option.some.inj h).symm⟩
  · rw [if_neg hdelayed] at h
    by_cases hover : s.RetriesNoMore settings time
    · rw [if_pos hover] at h
      cases h
    · rw [if_neg hover] at h
      refine .inr ⟨hdelayed, hover, ?_⟩
      cases hretries : settings.retries.toInteger with
      | none =>
        rw [hretries] at h
        exact (Option.some.inj h).symm
      | some retries =>
        rw [hretries] at h
        exact ⟨_, (Option.some.inj h).symm⟩

/-- A retry whose message cannot be formatted ends the hook. -/
lemma advance_of_unformatted (hundecided : s.status ≠ 0 ∧ s.status ≠ 20) (htransient : s.status ≠ 10)
    (hretry : ¬ s.RetriesNoMore settings time) (hretries : settings.retries.toInteger = none) :
    s.advance settings time helper jobId = some (.error ⟨noRepresentation, s.trace⟩) := by
  unfold LoopState.advance
  rw [if_neg (not_or.mpr hundecided), if_neg htransient, if_neg hretry, hretries]

/-! ### The invariant of the loop -/

/-- `w`: how often the wait interval fits into its budget. -/
def HookSettings.waits (settings : HookSettings) : ℕ :=
  match settings.reservationWaitInterval.quantity, settings.reservationWaitBudget.quantity with
  | .finite interval, .finite budget => if 0 < interval then ⌊budget / interval⌋.toNat else 0
  | _, _ => 0

/-- At most the larger one of the two budgets. -/
def HookSettings.Allows (settings : HookSettings) (seconds : ℚ) : Prop :=
  ∃ budget, (settings.reservationRetryBudget.quantity = .finite budget ∨
    settings.reservationWaitBudget.quantity = .finite budget) ∧ seconds ≤ budget

/-- The helper has run so often, with the statuses of its first runs, and none but the last was a
decision. -/
structure RunsOf (helper : ℕ → HelperOutcome) (trace : List HookEvent) (n : ℕ) : Prop where
  statuses_eq : statuses trace = (List.range (n + 1)).map fun k => (helper k).result.1
  undecided : ∀ k < n, (helper k).result.1 ≠ 0 ∧ (helper k).result.1 ≠ 20

variable (settings helper) in
/-- What holds whenever the condition of the loop is evaluated. -/
structure Paced (s : LoopState) : Prop where
  /-- All runs but the first are retries or follow a wait, and the waits have been slept. -/
  attempts : ∃ waited, s.attempt = 1 + s.retried + waited ∧ waited ≤ settings.waits ∧
    waited * settings.reservationWaitInterval.amount ≤ slept s.trace
  retried_le : s.retried ≤ settings.reservationRetries.steps
  retried_lt : s.retried < 2 ^ 63
  slept_nonneg : 0 ≤ slept s.trace
  finite : ∀ seconds ∈ pauses s.trace, ∃ q, seconds.quantity = .finite q
  allowed : pauses s.trace ≠ [] → settings.Allows (slept s.trace)
  quiet : slurmCommands s.trace = []
  runs : ∃ n, s.attempt = n + 1 ∧ s.status = (helper n).result.1 ∧ RunsOf helper s.trace n

/-- Every round runs the helper once, and keeps its status. -/
lemma statuses_rerun (pauseSeconds : Lua.Number) (text : String) :
    statuses (s.rerun settings helper pauseSeconds text).trace =
      statuses s.trace ++ [(helper s.attempt).result.1] := by
  simp [LoopState.rerun]

lemma slurmCommands_rerun (pauseSeconds : Lua.Number) (text : String) :
    slurmCommands (s.rerun settings helper pauseSeconds text).trace = slurmCommands s.trace := by
  simp [LoopState.rerun]

lemma pauses_rerun (pauseSeconds : Lua.Number) (text : String) :
    pauses (s.rerun settings helper pauseSeconds text).trace =
      pauses s.trace ++ pauses (pause pauseSeconds) := by
  simp [LoopState.rerun]

/-- The time slept grows by the pause. -/
lemma slept_rerun (settings : HookSettings) (helper : ℕ → HelperOutcome) (s : LoopState)
    {pauseSeconds : Lua.Number} {p : ℚ} (h : pauseSeconds.quantity = .finite p) (text : String) :
    slept (s.rerun settings helper pauseSeconds text).trace = slept s.trace + max 0 p := by
  rw [← slept_pause h, slept, pauses_rerun, List.map_append, List.sum_append]
  rfl

/-- The loop runs no command of Slurm. -/
lemma quiet_of_reaches (h : Reaches settings time helper jobId s) : slurmCommands s.trace = [] := by
  unfold Reaches at h
  generalize houtcome : (Except.ok s : Except LuaError LoopState) = outcome at h
  induction h generalizing s with
  | refl =>
    cases houtcome
    rfl
  | @tail before after hbefore hround ih =>
    subst houtcome
    cases before with
    | error error => cases hround
    | ok s₀ =>
      have hquiet : slurmCommands s₀.trace = [] := ih rfl
      obtain ⟨-, ⟨-, -, text, hafter⟩ | ⟨-, -, hretry⟩⟩ := advance_cases hround
      · cases hafter
        rw [slurmCommands_rerun]
        exact hquiet
      · cases hretries : settings.retries.toInteger with
        | none =>
          rw [hretries] at hretry
          cases hretry
        | some retries =>
          rw [hretries] at hretry
          obtain ⟨text, hafter⟩ := hretry
          cases hafter
          rw [slurmCommands_rerun]
          exact hquiet

/-- The first run of the helper. -/
lemma Paced.initial (settings : HookSettings) (helper : ℕ → HelperOutcome) :
    Paced settings helper (LoopState.initial settings helper) where
  attempts := ⟨0, rfl, Nat.zero_le _, by simp [LoopState.initial, slept]⟩
  retried_le := Nat.zero_le _
  retried_lt := by simp [LoopState.initial]
  slept_nonneg := le_refl _
  finite seconds h := by cases h
  allowed h := absurd rfl h
  quiet := rfl
  runs := ⟨0, rfl, rfl, rfl, fun k hk => absurd hk (Nat.not_lt_zero k)⟩

/-- What every round keeps of the invariant: the pauses, and the runs of the helper. -/
lemma Paced.rerun (hs : Paced settings helper s) (begun : LoopState)
    (htrace : begun.trace = s.trace) (hattempt : begun.attempt = s.attempt)
    (hundecided : s.status ≠ 0 ∧ s.status ≠ 20) {reading pauseSeconds budget : Lua.Number}
    (hwithin : WithinBudget reading pauseSeconds budget)
    (hbudget : budget = settings.reservationRetryBudget ∨ budget = settings.reservationWaitBudget)
    (hreading : ∀ e, reading.quantity = .finite e → slept s.trace ≤ e) (text : String) :
    let next := begun.rerun settings helper pauseSeconds text
    (∀ seconds ∈ pauses next.trace, ∃ q, seconds.quantity = .finite q) ∧
      (pauses next.trace ≠ [] → settings.Allows (slept next.trace)) ∧
      slurmCommands next.trace = [] ∧
      ∃ n, next.attempt = n + 1 ∧ next.status = (helper n).result.1 ∧
        RunsOf helper next.trace n := by
  obtain ⟨e, p, b, helapsed, hpause, hlimit, hle⟩ := hwithin
  obtain ⟨n, hn, hstatus, hruns⟩ := hs.runs
  have hgrown := slept_rerun settings helper begun hpause text
  intro next
  refine ⟨fun seconds hseconds => ?_, fun hpauses => ?_, ?_, n + 1, ?_, ?_, ?_, fun k hk => ?_⟩
  · rw [pauses_rerun, htrace] at hseconds
    rcases List.mem_append.mp hseconds with hbefore | hnow
    · exact hs.finite seconds hbefore
    · exact ⟨p, by rw [mem_pauses_pause hnow, hpause]⟩
  · rw [hgrown, htrace]
    by_cases hnegative : p ≤ 0
    · -- there was no pause
      rw [max_eq_left hnegative, add_zero]
      refine hs.allowed fun hnone => hpauses ?_
      have hzero : (Lua.Number.integer 0).quantity = .finite 0 := by simp
      rw [pauses_rerun, htrace, hnone, pause,
        if_neg fun hpositive => hnegative.not_gt ((Lua.Number.lt_iff hzero hpause).mp hpositive)]
      rfl
    · rw [max_eq_right (not_le.mp hnegative).le]
      refine ⟨b, ?_, by linarith [hreading e helapsed]⟩
      rcases hbudget with rfl | rfl
      · exact .inl hlimit
      · exact .inr hlimit
  · rw [slurmCommands_rerun, htrace]
    exact hs.quiet
  · show begun.attempt + 1 = _
    rw [hattempt, hn]
  · show (helper begun.attempt).result.1 = _
    rw [hattempt, hn]
  · rw [statuses_rerun, htrace, hattempt, hn, hruns.statuses_eq, List.range_succ (n := n + 1),
      List.map_append]
    rfl
  · rcases Nat.lt_succ_iff_lt_or_eq.mp hk with hlt | rfl
    · exact hruns.undecided k hlt
    · exact hstatus ▸ hundecided

/-- A wait that ends within its budget fits into it once more. -/
lemma wait_le_waits {e interval budget : ℚ} {waited : ℕ}
    (hinterval : settings.reservationWaitInterval.quantity = .finite interval)
    (hbudget : settings.reservationWaitBudget.quantity = .finite budget) (hpositive : 0 < interval)
    (hslept : waited * interval ≤ e) (hle : e + interval ≤ budget) :
    waited + 1 ≤ settings.waits := by
  have hfits : ((waited + 1 : ℕ) : ℤ) ≤ ⌊budget / interval⌋ := by
    rw [Int.le_floor, le_div_iff₀ hpositive]
    push_cast
    linarith
  simp only [HookSettings.waits, hinterval, hbudget, if_pos hpositive]
  omega

/-- A retry is made while there is one left. -/
lemma retried_lt_steps {retries : Int64} (hretries : settings.retries.toInteger = some retries)
    (hsmall : s.retried < 2 ^ 63) (hmore : ¬ s.RetriesNoMore settings time) :
    s.retried + 1 ≤ settings.reservationRetries.steps ∧ s.retried + 1 < 2 ^ 63 := by
  have hcounted : (Int64.ofNat s.retried).toInt = s.retried := Int64.toInt_ofNat_of_lt hsmall
  have hless := mt .inl hmore
  rw [Lua.Number.le_iff (Lua.Number.quantity_of_toInteger hretries) (Lua.Number.quantity_integer _),
    hcounted, Int.cast_le, not_le] at hless
  have hsteps := Lua.Number.toNat_of_max_floor hretries
  have hrange := retries.toInt_lt
  omega

/-- One round keeps the invariant, and there is one run of the helper more. -/
theorem Paced.advance (hs : Paced settings helper s) (hexact : s.Exact settings time)
    (hclock : ∃ e, (elapsed time s.trace).quantity = .finite e ∧ slept s.trace ≤ e)
    {outcome : Except LuaError LoopState}
    (h : s.advance settings time helper jobId = some outcome) :
    ∃ s', outcome = .ok s' ∧ Paced settings helper s' ∧ s'.attempt = s.attempt + 1 := by
  obtain ⟨hundecided, hcases⟩ := advance_cases h
  obtain ⟨waited, hattempt, hwaited, hslept⟩ := hs.attempts
  have hreading : ∀ e, (elapsed time s.trace).quantity = .finite e → slept s.trace ≤ e := by
    intro e he
    obtain ⟨e', he', hle⟩ := hclock
    cases he'.symm.trans he
    exact hle
  rcases hcases with ⟨hdelayed, hmore, text, rfl⟩ | ⟨htransient, hmore, hretry⟩
  · have hwithin := hexact.wait hdelayed hmore
    obtain ⟨hfinite, hallowed, hquiet, hruns⟩ :=
      hs.rerun s rfl rfl hundecided hwithin (.inr rfl) hreading text
    obtain ⟨e, p, b, helapsed, hinterval, hbudget, hle⟩ := hwithin
    have hzero : (Lua.Number.integer 0).quantity = .finite 0 := by simp
    have hpositive : 0 < p := by
      have hnot := mt .inl hmore
      rwa [Lua.Number.le_iff hinterval hzero, not_le] at hnot
    rw [Lua.Number.amount_of_finite hinterval] at hslept
    have hgrown := slept_rerun settings helper s hinterval text
    rw [max_eq_right hpositive.le] at hgrown
    refine ⟨_, rfl, ⟨⟨waited + 1, ?_, ?_, ?_⟩, hs.retried_le, hs.retried_lt, ?_, hfinite, hallowed,
      hquiet, hruns⟩, rfl⟩
    · show s.attempt + 1 = 1 + s.retried + (waited + 1)
      omega
    · exact wait_le_waits hinterval hbudget hpositive (hslept.trans (hreading e helapsed)) hle
    · rw [hgrown, Lua.Number.amount_of_finite hinterval]
      push_cast
      linarith
    · rw [hgrown]
      linarith [hs.slept_nonneg]
  · obtain ⟨hwithin, hformatted⟩ := hexact.retry hundecided.1 hundecided.2 htransient hmore
    obtain ⟨retries, hretries⟩ := Option.ne_none_iff_exists'.mp hformatted
    rw [hretries] at hretry
    obtain ⟨text, rfl⟩ := hretry
    let begun : LoopState :=
      { s with
        retried := s.retried + 1
        retryDelay := s.retryDelay.mul (.integer 2) }
    obtain ⟨hfinite, hallowed, hquiet, hruns⟩ :=
      hs.rerun begun rfl rfl hundecided hwithin (.inl rfl) hreading text
    obtain ⟨e, p, b, helapsed, hdelay, hbudget, hle⟩ := hwithin
    obtain ⟨hretried, hsmall⟩ := retried_lt_steps hretries hs.retried_lt hmore
    have hgrown := slept_rerun settings helper begun hdelay text
    have hnonneg : 0 ≤ max 0 p := le_max_left 0 p
    refine ⟨_, rfl, ⟨⟨waited, ?_, hwaited, ?_⟩, hretried, hsmall, ?_, hfinite, hallowed, hquiet,
      hruns⟩, rfl⟩
    · show s.attempt + 1 = 1 + (s.retried + 1) + waited
      omega
    · rw [hgrown]
      linarith
    · rw [hgrown]
      linarith [hs.slept_nonneg]

/-- The loop is never entered more often than the two limits allow. -/
lemma Paced.attempt_le (hs : Paced settings helper s) :
    s.attempt ≤ 1 + settings.reservationRetries.steps + settings.waits := by
  obtain ⟨waited, hattempt, hwaited, -⟩ := hs.attempts
  have hretried := hs.retried_le
  omega

/-- `reserve` ends, in a state that meets the invariant. -/
theorem luaReserve_ends (settings : HookSettings) (time : List HookEvent → Lua.Number)
    (helper : ℕ → HelperOutcome) (jobId : String)
    (htime : CountsPauses settings time helper jobId)
    (hexact : ∀ s, Reaches settings time helper jobId s → s.Exact settings time) :
    ∃ last, Paced settings helper last ∧
      ∀ fuel, 1 + settings.reservationRetries.steps + settings.waits ≤ fuel →
        luaReserve settings time helper jobId fuel = some (.ok last) := by
  have hbound (s : LoopState) (hs : Paced settings helper s) :
      s.attempt ≤ 1 + settings.reservationRetries.steps + settings.waits := hs.attempt_le
  generalize 1 + settings.reservationRetries.steps + settings.waits = bound at hbound
  -- the states that are reached, with the invariant
  let Inv (outcome : Except LuaError LoopState) : Prop :=
    ∃ s, outcome = .ok s ∧ Reaches settings time helper jobId s ∧ Paced settings helper s
  let measure (outcome : Except LuaError LoopState) : ℕ :=
    match outcome with
    | .ok s => bound - s.attempt
    | .error _ => 0
  have hstep (outcome outcome' : Except LuaError LoopState) (hinv : Inv outcome)
      (h : hookRound settings time helper jobId outcome = some outcome') :
      Inv outcome' ∧ measure outcome' < measure outcome := by
    obtain ⟨s, rfl, hreached, hs⟩ := hinv
    obtain ⟨s', rfl, hs', hattempt⟩ := hs.advance (hexact s hreached) (htime s hreached) h
    have hle := hbound s' hs'
    refine ⟨⟨s', rfl, hreached.tail h, hs'⟩, ?_⟩
    show bound - s'.attempt < bound - s.attempt
    omega
  obtain ⟨_, ⟨last, rfl, -, hlast⟩, -, hloop⟩ := loop_of_measure Inv measure hstep
    ⟨LoopState.initial settings helper, rfl, .refl, Paced.initial settings helper⟩
  refine ⟨last, hlast, fun fuel hfuel => hloop fuel ?_⟩
  have hfirst := hbound _ (Paced.initial settings helper)
  show bound - 1 < fuel
  have hone : (LoopState.initial settings helper).attempt = 1 := rfl
  omega

/-! ### Settings far from the bounds -/

/-- A setting, or a reading of the clock, that is an integer far from the bounds. -/
def Moderate (a : Lua.Number) : Prop :=
  ∃ n : Int64, a = .integer n ∧ -2 ^ 60 ≤ n.toInt ∧ n.toInt ≤ 2 ^ 60

/-- All settings of the hook are such. -/
structure HookSettings.AllModerate (settings : HookSettings) : Prop where
  retries : Moderate settings.reservationRetries
  retryDelay : Moderate settings.reservationRetryDelay
  retryBudget : Moderate settings.reservationRetryBudget
  waitInterval : Moderate settings.reservationWaitInterval
  waitBudget : Moderate settings.reservationWaitBudget

/-- The clock reads such numbers. -/
def ModerateClock (settings : HookSettings) (time : List HookEvent → Lua.Number)
    (helper : ℕ → HelperOutcome) (jobId : String) : Prop :=
  Moderate (time []) ∧ ∀ s, Reaches settings time helper jobId s → Moderate (time s.trace)

lemma quantity_elapsed {trace : List HookEvent} (hstart : Moderate (time []))
    (hnow : Moderate (time trace)) :
    ∃ n : Int64, elapsed time trace = .integer n ∧ -2 ^ 61 ≤ n.toInt ∧ n.toInt ≤ 2 ^ 61 := by
  obtain ⟨start, hstart, hstartLow, hstartHigh⟩ := hstart
  obtain ⟨now, hnow, hnowLow, hnowHigh⟩ := hnow
  refine ⟨now - start, by rw [elapsed, hstart, hnow, Lua.Number.sub], ?_⟩
  rw [Lua.Number.toInt_sub ⟨by omega, by omega⟩]
  omega

/-- A guard over such integers is exact. -/
lemma withinBudget_of_integers {e p b : Int64} (he : -2 ^ 61 ≤ e.toInt ∧ e.toInt ≤ 2 ^ 61)
    (hp : -2 ^ 61 ≤ p.toInt ∧ p.toInt ≤ 2 ^ 61)
    (h : ¬ (Lua.Number.integer b).lt ((Lua.Number.integer e).add (.integer p)) = true) :
    WithinBudget (.integer e) (.integer p) (.integer b) := by
  have hsum := Lua.Number.quantity_add (a := e) (b := p) ⟨by omega, by omega⟩
  rw [Lua.Number.lt_iff (Lua.Number.quantity_integer b) hsum, not_lt] at h
  exact ⟨_, _, _, rfl, rfl, rfl, h⟩

/-- With such settings, such a clock and such a delay, a state is exact. -/
lemma exact_of_delay (hsettings : settings.AllModerate) (hstart : Moderate (time []))
    (hnow : Moderate (time s.trace)) {delay : Int64} (hdelay : s.retryDelay = .integer delay)
    (hlow : 0 ≤ delay.toInt) (hhigh : delay.toInt ≤ 2 ^ 61) : s.Exact settings time := by
  obtain ⟨e, helapsed, he⟩ := quantity_elapsed hstart hnow
  refine ⟨fun _ hmore => ?_, fun _ _ _ hmore => ⟨?_, ?_⟩⟩
  · obtain ⟨interval, hinterval, hintervalLow, hintervalHigh⟩ := hsettings.waitInterval
    obtain ⟨budget, hbudget, -⟩ := hsettings.waitBudget
    have hwithin := mt .inr hmore
    rw [helapsed, hinterval, hbudget] at hwithin ⊢
    exact withinBudget_of_integers he ⟨by omega, by omega⟩ hwithin
  · obtain ⟨budget, hbudget, -⟩ := hsettings.retryBudget
    have hwithin := mt .inr hmore
    rw [helapsed, hdelay, hbudget] at hwithin ⊢
    exact withinBudget_of_integers he ⟨by omega, by omega⟩ hwithin
  · obtain ⟨retries, hretries, -⟩ := hsettings.retries
    rw [HookSettings.retries, hretries, Lua.Number.floor, Lua.Number.max]
    split <;> exact Option.some_ne_none _

/-- With such settings and such a clock, all states are exact. -/
theorem exact_of_moderate (hsettings : settings.AllModerate)
    (hclock : ModerateClock settings time helper jobId)
    (htime : CountsPauses settings time helper jobId) (h : Reaches settings time helper jobId s) :
    s.Exact settings time := by
  -- the delay is at most twice the budget, since it was within the budget before it was doubled
  suffices hrun : Paced settings helper s ∧
      ∃ delay : Int64, s.retryDelay = .integer delay ∧ 0 ≤ delay.toInt ∧ delay.toInt ≤ 2 ^ 61 by
    obtain ⟨-, delay, hdelay, hlow, hhigh⟩ := hrun
    exact exact_of_delay hsettings hclock.1 (hclock.2 s h) hdelay hlow hhigh
  unfold Reaches at h
  generalize houtcome : (Except.ok s : Except LuaError LoopState) = outcome at h
  induction h generalizing s with
  | refl =>
    cases houtcome
    refine ⟨Paced.initial settings helper, ?_⟩
    obtain ⟨delay, hdelay, hlow, hhigh⟩ := hsettings.retryDelay
    have hstart : (LoopState.initial settings helper).retryDelay =
        (Lua.Number.integer 0).max (.integer delay) := by
      rw [← hdelay]
      rfl
    have hzero : (Lua.Number.integer 0).quantity = .finite ((0 : ℤ) : ℚ) := rfl
    have hlt := Lua.Number.lt_iff hzero (Lua.Number.quantity_integer delay)
    rw [Int.cast_lt] at hlt
    rw [hstart, Lua.Number.max]
    by_cases hpositive : (Lua.Number.integer 0).lt (.integer delay) = true
    · rw [if_pos hpositive]
      exact ⟨delay, rfl, (hlt.mp hpositive).le, by omega⟩
    · rw [if_neg hpositive]
      exact ⟨0, rfl, le_rfl, by decide⟩
  | @tail before after hbefore hround ih =>
    subst houtcome
    cases before with
    | error error => cases hround
    | ok s₀ =>
      obtain ⟨hs, delay, hdelay, hlow, hhigh⟩ := ih rfl
      have hreached : Reaches settings time helper jobId s₀ := hbefore
      have hexact := exact_of_delay hsettings hclock.1 (hclock.2 s₀ hreached) hdelay hlow hhigh
      obtain ⟨s', hs', hpaced, -⟩ := hs.advance hexact (htime s₀ hreached) hround
      cases hs'
      refine ⟨hpaced, ?_⟩
      obtain ⟨hundecided, ⟨-, -, text, hafter⟩ | ⟨htransient, hmore, hretry⟩⟩ :=
        advance_cases hround
      · cases hafter
        exact ⟨delay, hdelay, hlow, hhigh⟩
      · obtain ⟨⟨e, p, b, helapsed, hp, hb, hle⟩, hformatted⟩ :=
          hexact.retry hundecided.1 hundecided.2 htransient hmore
        obtain ⟨retries, hretries⟩ := Option.ne_none_iff_exists'.mp hformatted
        rw [hretries] at hretry
        obtain ⟨text, hafter⟩ := hretry
        cases hafter
        obtain ⟨budget, hbudget, -, hbudgetHigh⟩ := hsettings.retryBudget
        obtain ⟨e', he', hslept⟩ := htime s₀ hreached
        cases he'.symm.trans helapsed
        have hnonneg := hs.slept_nonneg
        rw [hdelay, Lua.Number.quantity_integer] at hp
        rw [hbudget, Lua.Number.quantity_integer] at hb
        cases hp
        cases hb
        have hless : delay.toInt ≤ budget.toInt := by
          have hcast : (delay.toInt : ℚ) ≤ budget.toInt := by linarith
          exact_mod_cast hcast
        have htwo : (2 : Int64).toInt = 2 := rfl
        have hdouble : (delay * 2).toInt = delay.toInt * 2 := by
          rw [Lua.Number.toInt_mul (by rw [htwo]; exact ⟨by omega, by omega⟩), htwo]
        refine ⟨delay * 2, ?_, by omega, by omega⟩
        show s₀.retryDelay.mul (.integer 2) = _
        rw [hdelay, Lua.Number.mul]

/-! ### The hook -/

/-- How the hook ends: the helper has run until it decided or no further run was allowed, a success
is its success, and a failure leaves one comment and one cancellation behind. -/
structure HookEnds (settings : HookSettings) (helper : ℕ → HelperOutcome) (jobId : String)
    (result : HookResult) : Prop where
  runs : ∃ n, n ≤ settings.reservationRetries.steps + settings.waits ∧
    RunsOf helper result.trace n ∧ (result.success = true ↔ (helper n).result.1 = 0)
  finite : ∀ seconds ∈ pauses result.trace, ∃ q, seconds.quantity = .finite q
  allowed : pauses result.trace ≠ [] → settings.Allows (slept result.trace)
  succeeded : result.success = true → slurmCommands result.trace = []
  failed : result.success = false → slurmCommands result.trace =
    [.scontrol (quote settings.scontrol ++ " update JobId=" ++ jobId ++ " " ++
        quote ("AdminComment=slurm_bb_pre_run: " ++ result.message)),
      .scancel (quote settings.scancel ++ " --quiet " ++ jobId)]

/-- The hook ends as it should, within so many rounds as it may need. -/
def HookDecides (settings : HookSettings) (time : List HookEvent → Lua.Number)
    (helper : ℕ → HelperOutcome) (jobId : String) : Prop :=
  ∃ result, HookEnds settings helper jobId result ∧
    ∀ fuel, 1 + settings.reservationRetries.steps + settings.waits ≤ fuel →
      slurmBbPreRun settings time helper jobId fuel = some (.ok result)

/-- The failed hook comments and cancels the job. -/
lemma slurmCommands_failJob (hjob : numericJobId jobId = true) (message : String)
    {trace : List HookEvent} (h : slurmCommands trace = []) :
    slurmCommands (failJob settings jobId message trace).trace =
      commentJob settings jobId message ++ cancelJob settings jobId := by
  simp only [failJob, slurmCommands_append, h, slurmCommands_logInfo, List.nil_append]
  rw [commentJob, cancelJob, if_pos hjob, if_pos hjob]
  rfl

lemma statuses_failJob (message : String) (trace : List HookEvent) :
    statuses (failJob settings jobId message trace).trace = statuses trace := by
  simp only [failJob, statuses_append, statuses_logInfo, List.nil_append]
  unfold commentJob cancelJob
  split <;> simp [statuses]

lemma pauses_failJob (message : String) (trace : List HookEvent) :
    pauses (failJob settings jobId message trace).trace = pauses trace := by
  simp only [failJob, pauses_append, pauses_logInfo, List.nil_append]
  unfold commentJob cancelJob
  split <;> simp [pauses]

/-- The hook ends as it should in every state that meets the invariant. -/
lemma Paced.conclude (hjob : numericJobId jobId = true) (hs : Paced settings helper s) :
    HookEnds settings helper jobId (conclude settings jobId s) := by
  obtain ⟨n, hn, hstatus, hruns⟩ := hs.runs
  have hattempt := hs.attempt_le
  unfold QfwSlurm.conclude
  by_cases haccepted : s.status = 0
  · rw [if_pos haccepted]
    refine ⟨⟨n, by omega, hruns, ?_⟩, hs.finite, hs.allowed, fun _ => hs.quiet, fun h => ?_⟩
    · exact iff_of_true rfl (hstatus ▸ haccepted)
    · cases h
  · rw [if_neg haccepted]
    refine ⟨⟨n, by omega, ⟨?_, hruns.undecided⟩, ?_⟩, ?_, ?_, fun h => ?_, fun _ => ?_⟩
    · rw [statuses_failJob, hruns.statuses_eq]
    · exact iff_of_false Bool.false_ne_true (hstatus ▸ haccepted)
    · rw [pauses_failJob]
      exact hs.finite
    · rw [slept, pauses_failJob]
      exact hs.allowed
    · cases h
    · rw [slurmCommands_failJob hjob _ hs.quiet, commentJob, cancelJob, if_pos hjob, if_pos hjob]
      rfl

/-- `slurm_bb_pre_run` ends as it should where the loop comes by exact states only. -/
lemma hookDecides_of_exact (htime : CountsPauses settings time helper jobId)
    (hjob : numericJobId jobId = true)
    (hexact : ∀ s, Reaches settings time helper jobId s → s.Exact settings time) :
    HookDecides settings time helper jobId := by
  obtain ⟨last, hlast, hreserve⟩ := luaReserve_ends settings time helper jobId htime hexact
  refine ⟨_, hlast.conclude hjob, fun fuel hfuel => ?_⟩
  rw [slurmBbPreRun, hreserve fuel hfuel]
  rfl

/-- With moderate integers as settings and on the clock, `slurm_bb_pre_run` ends as it should. -/
theorem hookDecides_of_moderate (hsettings : settings.AllModerate)
    (hclock : ModerateClock settings time helper jobId)
    (htime : CountsPauses settings time helper jobId) (hjob : numericJobId jobId = true) :
    HookDecides settings time helper jobId :=
  hookDecides_of_exact htime hjob fun _ hs => exact_of_moderate hsettings hclock htime hs

/-- `slurm_bb_pre_run` raises an error where the loop comes by a retry that cannot be formatted. -/
lemma raises_of_unformatted (hreached : Reaches settings time helper jobId s)
    (hundecided : s.status ≠ 0 ∧ s.status ≠ 20) (htransient : s.status ≠ 10)
    (hmore : ¬ s.RetriesNoMore settings time) (hretries : settings.retries.toInteger = none) :
    (∃ rounds, ∀ fuel, rounds ≤ fuel → slurmBbPreRun settings time helper jobId fuel =
      some (.error ⟨noRepresentation, s.trace⟩)) ∧ ¬ HookDecides settings time helper jobId := by
  have hadvance : hookRound settings time helper jobId (.ok s) =
      some (.error ⟨noRepresentation, s.trace⟩) :=
    advance_of_unformatted hundecided htransient hmore hretries
  obtain ⟨n, hloop⟩ := loop_of_leads hreached
  have hraised (fuel : ℕ) (hfuel : n + 2 ≤ fuel) :
      slurmBbPreRun settings time helper jobId fuel =
        some (.error ⟨noRepresentation, s.trace⟩) := by
    obtain ⟨more, rfl⟩ : ∃ more, fuel = more + 1 + 1 + n := ⟨fuel - (n + 2), by omega⟩
    rw [slurmBbPreRun, luaReserve, hloop, loop_of_some hadvance, loop_of_none rfl]
    rfl
  refine ⟨⟨n + 2, hraised⟩, ?_⟩
  rintro ⟨result, -, hdecided⟩
  have hboth := hdecided (n + 2 + (1 + settings.reservationRetries.steps + settings.waits))
    (by omega)
  rw [hraised _ (by omega)] at hboth
  cases hboth

end Loop

/-! ### Two runs -/

/-- The default settings, with this number of retries. -/
def sampleHookSettings (retries : Lua.Number) : HookSettings where
  reservationRetries := retries
  reservationRetryDelay := .integer 2
  reservationRetryBudget := .integer 60
  reservationWaitInterval := .integer 15
  reservationWaitBudget := .integer 90
  scancel := "/usr/bin/scancel"
  scontrol := "/usr/bin/scontrol"
  logsInfo := true
  numberText
    | .integer n => toString n
    | .float x => toString x

/-- A clock on which a run of the helper takes ten seconds. -/
def sampleClock (trace : List HookEvent) : Lua.Number :=
  .integer (.ofNat (10 * (statuses trace).length))

/-- Such a run of the hook is left, after pauses that the clock has counted. -/
def SampleRun (settings : HookSettings) (helper : ℕ → HelperOutcome) : Prop :=
  (loop (hookRound settings sampleClock helper "44") 5
      (.ok (LoopState.initial settings helper))).isSome ∧
    ∀ s ∈ (visited (hookRound settings sampleClock helper "44") 5
        (.ok (LoopState.initial settings helper))).filterMap Except.toOption,
      (statuses s.trace).length ≤ 5 ∧ slept s.trace ≤ (10 * (statuses s.trace).length : ℕ)

instance (settings : HookSettings) (helper : ℕ → HelperOutcome) :
    Decidable (SampleRun settings helper) :=
  inferInstanceAs (Decidable (_ ∧ _))

section Samples

variable {settings : HookSettings} {helper : ℕ → HelperOutcome}

lemma SampleRun.state (h : SampleRun settings helper) {s : LoopState}
    (hs : Reaches settings sampleClock helper "44" s) :
    (statuses s.trace).length ≤ 5 ∧ slept s.trace ≤ (10 * (statuses s.trace).length : ℕ) :=
  h.2 s (List.mem_filterMap.mpr ⟨.ok s, mem_visited_of_leads h.1 hs, rfl⟩)

lemma toInt_sampleClock {n : ℕ} (h : n ≤ 5) : (Int64.ofNat (10 * n)).toInt = (10 * n : ℕ) :=
  Int64.toInt_ofNat_of_lt (by omega)

lemma SampleRun.countsPauses (h : SampleRun settings helper) :
    CountsPauses settings sampleClock helper "44" := by
  intro s hs
  obtain ⟨hlength, hslept⟩ := h.state hs
  have hclock : elapsed sampleClock s.trace =
      .integer (.ofNat (10 * (statuses s.trace).length) - 0) := rfl
  rw [Int64.sub_zero] at hclock
  refine ⟨_, by rw [hclock, Lua.Number.quantity_integer], ?_⟩
  rw [toInt_sampleClock hlength]
  exact_mod_cast hslept

lemma SampleRun.moderateClock (h : SampleRun settings helper) :
    ModerateClock settings sampleClock helper "44" := by
  refine ⟨⟨0, rfl, by decide, by decide⟩, fun s hs => ⟨_, rfl, ?_⟩⟩
  have hlength := (h.state hs).1
  rw [toInt_sampleClock hlength]
  omega

end Samples

lemma moderate_sampleHookSettings : (sampleHookSettings (.integer 3)).AllModerate where
  retries := ⟨3, rfl, by decide, by decide⟩
  retryDelay := ⟨2, rfl, by decide, by decide⟩
  retryBudget := ⟨60, rfl, by decide, by decide⟩
  waitInterval := ⟨15, rfl, by decide, by decide⟩
  waitBudget := ⟨90, rfl, by decide, by decide⟩

end QfwSlurm
