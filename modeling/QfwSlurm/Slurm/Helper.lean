import QfwSlurm.Slurm.DriverOutput

/-!
# The burst-buffer helper

`qfw-slurm-bb` is run by the burst-buffer script for one operation at a time: it evaluates, reserves
or releases through one run of the driver, and keeps what it knows of an allocation in a state file.
A run is a step on the state files and on the calls of the driver; what the driver answers is part
of its input.  After the definitions stand the lemmas that say what each operation
can do.
-/

namespace QfwSlurm.Helper

/-! ### State files -/

/-- The parts of the name of a state file.  Job ids are not negative, so the last hyphen of the name
separates them. -/
structure FileName where
  cluster : String
  jobId : ℤ
  deriving DecidableEq

/-- `f"{cluster}-{job_id}.json"` -/
def FileName.text (name : FileName) : String := s!"{name.cluster}-{name.jobId}.json"

/-- `result["state"]`: a text, or another value with the text that it is shown as. -/
inductive ResultState where
  | text (value : String)
  | other (shown : String)
  deriving DecidableEq

/-- How the state is shown in another text. -/
def ResultState.shown : ResultState → String
  | text value => value
  | other shown => shown

/-- The fields of the driver's result that the helper reads. -/
structure DriverResult where
  state : ResultState
  requestId : String
  diagnostic : String
  /-- `none` where the value is not a list. -/
  reservations : Option (List Python.Json)

/-- The content of a state file. -/
structure StateRecord where
  state : String
  cluster : String
  canonicalJobId : ℤ
  jobUid : ℤ
  jobGid : ℤ
  restartCount : ℤ
  allocationEpoch : ℤ
  requestId : String
  diagnostic : String
  reservationAttempts : Option ℤ := none
  reservations : Option (List Python.Json) := none
  /-- The result of the driver, or the diagnostic of its failure. -/
  release : Option (Except String DriverResult) := none

/-- The state directory. -/
@[reducible] def StateFiles : Type := List (FileName × StateRecord)

/-- The attempts that a record counts. -/
def StateRecord.attempts (record : StateRecord) : ℤ := record.reservationAttempts.getD 0

/-- `read_state`, `none` for a missing file. -/
def StateFiles.read (files : StateFiles) (name : FileName) : Option StateRecord := files.lookup name

/-- `write_state` -/
def StateFiles.write (files : StateFiles) (name : FileName) (record : StateRecord) : StateFiles :=
  (name, record) :: files.filter (·.1 ≠ name)

@[simp] lemma StateFiles.read_write (files : StateFiles) (name other : FileName)
    (record : StateRecord) : (files.write name record).read other =
      if other = name then some record else files.read other := by
  unfold StateFiles.read StateFiles.write
  rw [List.lookup_cons]
  by_cases hname : other = name
  · simp [hname]
  · have hkeep : (files.filter (·.1 ≠ name)).lookup other = files.lookup other := by
      induction files with
      | nil => rfl
      | cons file files ih =>
        by_cases hfile : file.1 = name
        · have hother : (other == file.1) = false := by simp [hfile, hname]
          rw [List.filter_cons_of_neg (by simp [hfile]), ih, List.lookup_cons, hother]
        · rw [List.filter_cons_of_pos (by simp [hfile]), List.lookup_cons, List.lookup_cons, ih]
    have hother : (other == name) = false := by simpa using hname
    rw [hother, if_neg hname]
    exact hkeep

lemma StateFiles.mem_write {files : StateFiles} {name : FileName} {record : StateRecord}
    {file : FileName × StateRecord} (h : file ∈ files.write name record) :
    file = (name, record) ∨ file ∈ files := by
  rcases List.mem_cons.mp h with rfl | hmem
  · exact .inl rfl
  · exact .inr (List.mem_of_mem_filter hmem)

lemma StateFiles.mem_of_read {files : StateFiles} {name : FileName} {record : StateRecord}
    (h : files.read name = some record) : (name, record) ∈ files := by
  unfold StateFiles.read at h
  obtain ⟨before, after, rfl, -⟩ := List.lookup_eq_some_iff.mp h
  exact List.mem_append_right _ List.mem_cons_self

/-- The attempts that the file of an allocation counts. -/
def StateFiles.attempts (files : StateFiles) (name : FileName) : ℤ :=
  match files.read name with
  | none => 0
  | some record => record.attempts

/-! ### Runs of the helper -/

/-- The fields of a directive. -/
@[reducible] def Directive : Type := List (String × String)

/-- The arguments of the helper. -/
structure Args where
  driver : String := "/usr/bin/qfw-slurm-driver"
  pluginConfig : String := "/etc/openqse/qfw-slurm/plugin.conf"
  cluster : String := "auto"
  jobId : ℤ
  canonicalJobId : ℤ
  uid : ℤ
  gid : ℤ
  submitTime : ℤ
  restartCount : ℤ := 0
  walltimeSeconds : ℤ := 60
  hetJobId : ℤ := 0
  hetComponent : ℤ := 0
  maxReservationAttempts : ℤ := 8

/-- The exceptions of the helper: those that `main` catches, and any other. -/
inductive Failure where
  | helper (message : String)
  | os (message : String)
  | subprocess (message : String)
  | other
  deriving DecidableEq

/-- `str(error)` -/
def Failure.message : Failure → String
  | helper message => message
  | os message => message
  | subprocess message => message
  | other => ""

inductive Exit where
  | ok
  | delayed
  | rejected
  | operational
  /-- An exception that is not caught. -/
  | crashed
  deriving DecidableEq

/-- What happens when the driver is run. -/
inductive DriverAnswer where
  /-- It cannot be started. -/
  | notStarted (message : String)
  | timeout (message : String)
  /-- There is no output, no JSON, or the result of another operation. -/
  | unreadable (message : String)
  /-- The output is not UTF-8 or not a mapping. -/
  | malformed
  | result (result : DriverResult)

/-- What `subprocess.run` and the reading of the result come to. -/
def DriverAnswer.outcome : DriverAnswer → Except Failure DriverResult
  | .notStarted message => .error (.os message)
  | .timeout message => .error (.subprocess message)
  | .unreadable message => .error (.helper message)
  | .malformed => .error .other
  | .result value => .ok value

/-- Whether the driver is started. -/
def DriverAnswer.started : DriverAnswer → Bool
  | .notStarted _ => false
  | _ => true

/-- A call of the driver, with what it answers. -/
structure DriverCall where
  operation : DriverCommand
  jobId : ℤ
  command : List String
  answer : DriverAnswer

/-- The state files, and the calls of the driver up to now. -/
structure World where
  files : StateFiles := []
  calls : List DriverCall := []

def World.write (w : World) (name : FileName) (record : StateRecord) : World :=
  { w with files := w.files.write name record }

def World.call (w : World) (call : DriverCall) : World := { w with calls := w.calls ++ [call] }

@[simp] lemma World.files_write (w : World) (name : FileName) (record : StateRecord) :
    (w.write name record).files = w.files.write name record := rfl

@[simp] lemma World.calls_write (w : World) (name : FileName) (record : StateRecord) :
    (w.write name record).calls = w.calls := rfl

@[simp] lemma World.files_call (w : World) (call : DriverCall) : (w.call call).files = w.files := rfl

@[simp] lemma World.calls_call (w : World) (call : DriverCall) :
    (w.call call).calls = w.calls ++ [call] := rfl

/-- `IDENTIFIER.fullmatch` -/
def isIdentifier (text : String) : Bool :=
  text ≠ "" && text.toList.all fun c => c.isAlphanum || c = '_' || c = '.' || c = '-'

/-- `state_path` -/
def statePath (cluster : String) (jobId : ℤ) : Except Failure FileName :=
  if isIdentifier cluster then .ok ⟨cluster, jobId⟩
  else .error (.helper "invalid Slurm cluster name")

/-- `locate_state`, with the arguments that it changes. -/
def locateState (files : StateFiles) (args : Args) (allowMissing : Bool) :
    Except Failure (Args × FileName) :=
  if args.cluster ≠ "auto" then do
    return (args, ← statePath args.cluster args.canonicalJobId)
  else
    match files.filter fun file => file.1.jobId = args.jobId with
    | [(_, current)] => do
      let args := { args with
        cluster := current.cluster, canonicalJobId := current.canonicalJobId }
      return (args, ← statePath args.cluster args.canonicalJobId)
    | [] =>
      .error (.helper <| if allowMissing then
        "cannot release allocation without configured Slurm cluster name"
        else "cannot identify allocation state for teardown")
    | _ => .error (.helper "cannot identify allocation state for teardown")

/-- `allocation_epoch` -/
def allocationEpoch (submitTime restartCount : ℤ) : Except Failure ℤ :=
  if submitTime ≤ 0 ∨ restartCount < 0 ∨ 999999 < restartCount then
    .error (.helper "invalid Slurm allocation epoch")
  else
    let value := submitTime * 1000000 + restartCount
    if 2 ^ 64 - 1 < value then .error (.helper "Slurm allocation epoch exceeds uint64")
    else .ok value

/-- `FIELDS` with `DRIVER_OPTIONS`. -/
def driverOptions : List (String × String) :=
  [("qpu", "--qpu"), ("workload", "--workload-kind"), ("circuits", "--circ-count"),
    ("qubits", "--max-qubits"), ("depth", "--max-depth"), ("shots", "--max-shots"),
    ("oneq", "--max-one-q-gates"), ("twoq", "--max-two-q-gates"),
    ("measurements", "--max-measurements")]

/-- The fields of a directive as options of the driver. -/
def directiveOptions (directive : Directive) : List String :=
  driverOptions.flatMap fun (name, option) =>
    match directive.lookup name with
    | some value => [option, value]
    | none => []

/-- `driver_command` -/
def driverCommand (args : Args) (operation : DriverCommand) (directive : Option Directive) :
    Except Failure (List String × ℤ) := do
  let epoch ← allocationEpoch args.submitTime args.restartCount
  let command := [args.driver, operation.text, "--config", args.pluginConfig,
    "--cluster", args.cluster, "--job-id", toString args.canonicalJobId,
    "--uid", toString args.uid, "--gid", toString args.gid,
    "--allocation-epoch", toString epoch, "--json"]
  let hetero := if args.hetJobId ≠ 0 then
      ["--hetero-job-id", toString args.jobId, "--hetero-component", toString args.hetComponent]
    else []
  let workload := match directive with
    | some directive =>
      ["--walltime-seconds", toString args.walltimeSeconds] ++ directiveOptions directive
    | none => []
  return (command ++ hetero ++ workload, epoch)

/-- `invoke_driver`, with the epoch that it adds to the result. -/
def invokeDriver (args : Args) (operation : DriverCommand) (directive : Option Directive)
    (answer : DriverAnswer) (w : World) :
    Except Failure (DriverResult × ℤ) × World :=
  match driverCommand args operation directive with
  | .error failure => (.error failure, w)
  | .ok (command, epoch) =>
    (answer.outcome.map (·, epoch), w.call ⟨operation, args.canonicalJobId, command, answer⟩)

/-- `base_state` -/
def baseState (args : Args) (epoch : ℤ) (requestId diagnostic state : String) :
    StateRecord where
  state := state
  cluster := args.cluster
  canonicalJobId := args.canonicalJobId
  jobUid := args.uid
  jobGid := args.gid
  restartCount := args.restartCount
  allocationEpoch := epoch
  requestId := requestId
  diagnostic := diagnostic

/-- `reservation_attempts` -/
def reservationAttempts (files : StateFiles) (path : FileName) : Except Failure ℤ :=
  match files.read path with
  | none => .ok 0
  | some record =>
    if record.attempts < 0 then
      .error (.helper "allocation reservation attempt state is invalid")
    else .ok record.attempts

lemma attempts_of_ok {files : StateFiles} {path : FileName} {attempts : ℤ}
    (h : reservationAttempts files path = .ok attempts) : attempts = files.attempts path := by
  unfold reservationAttempts at h
  unfold StateFiles.attempts
  rcases hread : files.read path with - | record
  · rw [hread] at h
    exact (Except.ok.inj h).symm
  · rw [hread] at h
    dsimp only at h ⊢
    split at h
    · cases h
    · exact (Except.ok.inj h).symm

/-- The exit status for a result of the driver. -/
def exitFor (result : DriverResult) (failure : String) : Except Failure Exit :=
  if result.state = .text "accepted" then .ok .ok
  else if result.state = .text "delayed" then .ok .delayed
  else if result.state = .text "rejected" then .ok .rejected
  else .error (.helper (if result.diagnostic = "" then failure else result.diagnostic))

/-- The record of an evaluation. -/
def evaluationRecord (args : Args) (result : DriverResult) (epoch attempts : ℤ) : StateRecord :=
  { baseState args epoch result.requestId result.diagnostic
      ("evaluation-" ++ result.state.shown) with reservationAttempts := some attempts }

/-- `evaluation` -/
def evaluation (args : Args) (path : FileName) (directive : Directive)
    (answer : DriverAnswer) (w : World) : Except Failure Exit × World :=
  match invokeDriver args .evaluate (some directive) answer w with
  | (.error failure, w) => (.error failure, w)
  | (.ok (result, epoch), w) =>
    match reservationAttempts w.files path with
    | .error failure => (.error failure, w)
    | .ok attempts =>
      (exitFor result "QPM evaluation failed",
        w.write path (evaluationRecord args result epoch attempts))

/-- The record of an allocation that has used up its attempts. -/
def exhaustedRecord (args : Args) (epoch attempts : ℤ) : StateRecord :=
  { baseState args epoch "0" "final QPM reservation attempt limit exhausted"
      "reservation-exhausted" with reservationAttempts := some attempts }

/-- The record of a reservation attempt. -/
def reservationRecord (args : Args) (result : DriverResult) (epoch attempts : ℤ) : StateRecord :=
  { baseState args epoch result.requestId result.diagnostic
      ("reservation-" ++ result.state.shown) with reservationAttempts := some attempts }

/-- The record of an attempt that has reserved. -/
def acceptedRecord (args : Args) (result : DriverResult) (epoch attempts : ℤ)
    (reservations : List Python.Json) : StateRecord :=
  { reservationRecord args result epoch attempts with reservations := some reservations }

/-- The end of `reservation` where the driver has reserved. -/
def storeAccepted (args : Args) (path : FileName) (record : StateRecord) (w : World) :
    Except Failure Exit × World :=
  let w := w.write path record
  if args.jobId ≠ args.canonicalJobId then
    match statePath args.cluster args.jobId with
    | .error failure => (.error failure, w)
    | .ok componentPath => (.ok .ok, w.write componentPath record)
  else (.ok .ok, w)

lemma storeAccepted_cases (args : Args) (path : FileName) (record : StateRecord) (w : World) :
    (storeAccepted args path record w).2 = w.write path record ∨
      args.jobId ≠ args.canonicalJobId ∧ (storeAccepted args path record w).2 =
        (w.write path record).write ⟨args.cluster, args.jobId⟩ record := by
  unfold storeAccepted statePath
  by_cases hcomponent : args.jobId ≠ args.canonicalJobId
  · rw [if_pos hcomponent]
    by_cases hcluster : isIdentifier args.cluster = true
    · rw [if_pos hcluster]
      exact .inr ⟨hcomponent, rfl⟩
    · rw [if_neg hcluster]
      exact .inl rfl
  · rw [if_neg hcomponent]
    exact .inl rfl

/-- `reservation` -/
def reservation (args : Args) (path : FileName) (directive : Directive)
    (answer : DriverAnswer) (w : World) : Except Failure Exit × World :=
  match reservationAttempts w.files path with
  | .error failure => (.error failure, w)
  | .ok attempts =>
    if args.maxReservationAttempts ≤ attempts then
      match allocationEpoch args.submitTime args.restartCount with
      | .error failure => (.error failure, w)
      | .ok epoch => (.ok .rejected, w.write path (exhaustedRecord args epoch attempts))
    else
      match invokeDriver args .reserve (some directive) answer w with
      | (.error failure, w) => (.error failure, w)
      | (.ok (result, epoch), w) =>
        if result.state = .text "accepted" then
          match result.reservations with
          | none | some [] => (.error (.helper "accepted reserve result has no reservations"), w)
          | some reservations =>
            storeAccepted args path (acceptedRecord args result epoch (attempts + 1) reservations) w
        else
          (exitFor result "QPM reservation failed",
            w.write path (reservationRecord args result epoch (attempts + 1)))

/-- The states in which `release` runs the driver. -/
def releasableStates : List String :=
  ["release-recovery", "reservation-accepted", "release-unresolved"]

/-- The first part of `release`: the record that it goes by, the name of the canonical file, and
the arguments with what the record changes in them. -/
def releaseTarget (args : Args) (path : FileName) (files : StateFiles) :
    Except Failure (Args × FileName × StateRecord) :=
  match files.read path with
  | none => do
    let epoch ← allocationEpoch args.submitTime args.restartCount
    return (args, path,
      baseState args epoch "0" "local reservation state was unavailable" "release-recovery")
  | some current => do
    let args := { args with cluster := current.cluster, canonicalJobId := current.canonicalJobId }
    return (args, ← statePath args.cluster args.canonicalJobId, current)

/-- The record after the call of the driver. -/
def StateRecord.afterRelease (current : StateRecord) :
    Except Failure DriverResult → StateRecord
  | .ok result =>
    { current with
      release := some (.ok result)
      state := if result.state = .text "released" then "released" else "release-unresolved" }
  | .error failure =>
    { current with state := "release-unresolved", release := some (.error failure.message) }

/-- The last part of `release`. -/
def storeRelease (path canonicalPath : FileName) (record : StateRecord) (w : World) : World :=
  let w := w.write path record
  if canonicalPath ≠ path then w.write canonicalPath record else w

lemma calls_storeRelease (w : World) (path canonicalPath : FileName) (record : StateRecord) :
    (storeRelease path canonicalPath record w).calls = w.calls := by
  unfold storeRelease
  dsimp only
  split <;> rfl

/-- `release` keeps what the record says of the allocation. -/
lemma afterRelease_keeps (current : StateRecord) (outcome : Except Failure DriverResult) :
    (current.afterRelease outcome).cluster = current.cluster ∧
      (current.afterRelease outcome).canonicalJobId = current.canonicalJobId ∧
      (current.afterRelease outcome).attempts = current.attempts := by
  rcases outcome with failure | result
  · exact ⟨rfl, rfl, rfl⟩
  · exact ⟨rfl, rfl, rfl⟩

/-- `release` -/
def release (args : Args) (path : FileName) (answer : DriverAnswer) (w : World) :
    Except Failure Exit × World :=
  match releaseTarget args path w.files with
  | .error failure => (.error failure, w)
  | .ok (args, canonicalPath, current) =>
    if current.state ∉ releasableStates then (.ok .ok, w)
    else
      match invokeDriver args .release none answer w with
      | (.error .other, w) => (.error .other, w)
      | (outcome, w) =>
        (.ok .ok, storeRelease path canonicalPath (current.afterRelease (outcome.map Prod.fst)) w)

/-- A run of the helper: its arguments, the directive that it finds in the job script, and what the
driver answers. -/
structure Run where
  operation : DriverCommand
  args : Args
  directive : Except Failure Directive
  answer : DriverAnswer

/-- The part of `main` that may raise. -/
def Run.body (run : Run) (w : World) :
    Except Failure Exit × World :=
  if run.args.jobId < 0 ∨ run.args.canonicalJobId < 0 ∨ run.args.uid < 0 ∨ run.args.gid < 0 then
    (.error (.helper "invalid Slurm job identity"), w)
  else if run.args.maxReservationAttempts ≤ 0 then
    (.error (.helper "reservation attempt limit must be positive"), w)
  else
    match locateState w.files run.args (run.operation = .release) with
    | .error failure => (.error failure, w)
    | .ok (args, path) =>
      if run.operation = .release then release args path run.answer w
      else
        match run.directive with
        | .error failure => (.error failure, w)
        | .ok directive =>
          if run.operation = .evaluate then evaluation args path directive run.answer w
          else reservation args path directive run.answer w

/-- `main` -/
def Run.main (run : Run) (w : World) : Exit × World :=
  match run.body w with
  | (.ok exit, w) => (exit, w)
  | (.error .other, w) => (.crashed, w)
  | (.error _, w) => (.operational, w)

/-- The state after a run. -/
def step (w : World) (run : Run) : World := (run.main w).2

/-! ### What each operation can do -/

/-- `invoke_driver` fails before the driver is called, or calls it once. -/
lemma invokeDriver_cases (args : Args) (operation : DriverCommand) (directive : Option Directive)
    (answer : DriverAnswer) (w : World) :
    (∃ failure, driverCommand args operation directive = .error failure ∧
      invokeDriver args operation directive answer w = (.error failure, w)) ∨
    ∃ command epoch, driverCommand args operation directive = .ok (command, epoch) ∧
      invokeDriver args operation directive answer w =
        (answer.outcome.map (·, epoch),
          w.call ⟨operation, args.canonicalJobId, command, answer⟩) := by
  unfold invokeDriver
  rcases driverCommand args operation directive with failure | ⟨command, epoch⟩
  · exact .inl ⟨failure, rfl, rfl⟩
  · exact .inr ⟨command, epoch, rfl, rfl⟩

/-- What `evaluation` does to the state files and the calls. -/
inductive Evaluated (args : Args) (path : FileName) (answer : DriverAnswer) (w : World) :
    World → Prop
  | uncalled : Evaluated args path answer w w
  /-- The call fails, or the number of the attempts cannot be read. -/
  | failed (command : List String) :
      Evaluated args path answer w (w.call ⟨.evaluate, args.canonicalJobId, command, answer⟩)
  | recorded (command : List String) (result : DriverResult) (epoch attempts : ℤ)
      (hresult : answer = .result result)
      (hattempts : reservationAttempts w.files path = .ok attempts) :
      Evaluated args path answer w
        ((w.call ⟨.evaluate, args.canonicalJobId, command, answer⟩).write path
          (evaluationRecord args result epoch attempts))

/-- The only answer with a result is a result. -/
lemma DriverAnswer.outcome_eq_ok {answer : DriverAnswer} {result : DriverResult}
    (h : answer.outcome = .ok result) : answer = .result result := by
  cases answer with
  | result found => exact congrArg DriverAnswer.result (Except.ok.inj h)
  | _ => cases h

lemma evaluated_evaluation (args : Args) (path : FileName) (directive : Directive)
    (answer : DriverAnswer) (w : World) :
    Evaluated args path answer w (evaluation args path directive answer w).2 := by
  unfold evaluation
  obtain ⟨failure, -, hcall⟩ | ⟨command, epoch, -, hcall⟩ :=
    invokeDriver_cases args .evaluate (some directive) answer w
  · rw [hcall]
    exact .uncalled
  · rw [hcall]
    rcases houtcome : answer.outcome with failure | result
    · exact .failed command
    · simp only [Except.map, World.files_call]
      rcases hattempts : reservationAttempts w.files path with failure | attempts
      · exact .failed command
      · exact .recorded command result epoch attempts (DriverAnswer.outcome_eq_ok houtcome)
          hattempts

/-- The answers after which `reservation` records the attempt. -/
def DriverAnswer.Recorded : DriverAnswer → Prop
  | .result value => value.state = .text "accepted" →
      ∃ reservations, value.reservations = some reservations ∧ reservations ≠ []
  | _ => False

/-- What `reservation` does to the state files and the calls. -/
inductive Reserved (args : Args) (path : FileName) (answer : DriverAnswer) (w : World) :
    World → Prop
  | uncalled : Reserved args path answer w w
  | exhausted (epoch attempts : ℤ) (hattempts : reservationAttempts w.files path = .ok attempts)
      (hlimit : args.maxReservationAttempts ≤ attempts) :
      Reserved args path answer w (w.write path (exhaustedRecord args epoch attempts))
  /-- The attempt is not recorded. -/
  | lost (command : List String) (attempts : ℤ)
      (hattempts : reservationAttempts w.files path = .ok attempts)
      (hlimit : attempts < args.maxReservationAttempts) (hanswer : ¬ answer.Recorded) :
      Reserved args path answer w (w.call ⟨.reserve, args.canonicalJobId, command, answer⟩)
  | declined (command : List String) (result : DriverResult) (epoch attempts : ℤ)
      (hattempts : reservationAttempts w.files path = .ok attempts)
      (hlimit : attempts < args.maxReservationAttempts) (hresult : answer = .result result)
      (hstate : result.state ≠ .text "accepted") :
      Reserved args path answer w
        ((w.call ⟨.reserve, args.canonicalJobId, command, answer⟩).write path
          (reservationRecord args result epoch (attempts + 1)))
  | accepted (command : List String) (result : DriverResult) (epoch attempts : ℤ)
      (reservations : List Python.Json)
      (hattempts : reservationAttempts w.files path = .ok attempts)
      (hlimit : attempts < args.maxReservationAttempts) (hresult : answer = .result result)
      (hstate : result.state = .text "accepted")
      (hreservations : result.reservations = some reservations) (hne : reservations ≠ []) :
      Reserved args path answer w
        (storeAccepted args path (acceptedRecord args result epoch (attempts + 1) reservations)
          (w.call ⟨.reserve, args.canonicalJobId, command, answer⟩)).2

lemma reserved_reservation (args : Args) (path : FileName) (directive : Directive)
    (answer : DriverAnswer) (w : World) :
    Reserved args path answer w (reservation args path directive answer w).2 := by
  unfold reservation
  rcases hattempts : reservationAttempts w.files path with failure | attempts
  · exact .uncalled
  dsimp only
  by_cases hlimit : args.maxReservationAttempts ≤ attempts
  · rw [if_pos hlimit]
    rcases allocationEpoch args.submitTime args.restartCount with failure | epoch
    · exact .uncalled
    · exact .exhausted epoch attempts hattempts hlimit
  rw [if_neg hlimit]
  have hlimit := lt_of_not_ge hlimit
  obtain ⟨failure, -, hcall⟩ | ⟨command, epoch, -, hcall⟩ :=
    invokeDriver_cases args .reserve (some directive) answer w
  · rw [hcall]
    exact .uncalled
  rw [hcall]
  rcases houtcome : answer.outcome with failure | result
  · refine .lost command attempts hattempts hlimit fun hrecorded => ?_
    cases answer with
    | result result => cases houtcome
    | _ => exact hrecorded
  have hresult := DriverAnswer.outcome_eq_ok houtcome
  simp only [Except.map]
  by_cases hstate : result.state = .text "accepted"
  · rw [if_pos hstate]
    rcases hreservations : result.reservations with - | - | ⟨first, rest⟩
    · refine .lost command attempts hattempts hlimit fun hrecorded => ?_
      subst hresult
      obtain ⟨found, hfound, -⟩ := hrecorded hstate
      rw [hreservations] at hfound
      cases hfound
    · refine .lost command attempts hattempts hlimit fun hrecorded => ?_
      subst hresult
      obtain ⟨found, hfound, hne⟩ := hrecorded hstate
      rw [hreservations] at hfound
      exact hne (Option.some.inj hfound).symm
    · exact .accepted command result epoch attempts (first :: rest) hattempts hlimit hresult hstate
        hreservations (List.cons_ne_nil first rest)
  · rw [if_neg hstate]
    exact .declined command result epoch attempts hattempts hlimit hresult hstate

/-- What `release` does to the state files and the calls. -/
inductive Released (args : Args) (path : FileName) (answer : DriverAnswer) (w : World) :
    World → Prop
  | failed (failure : Failure) (htarget : releaseTarget args path w.files = .error failure) :
      Released args path answer w w
  | skipped (target : Args) (canonicalPath : FileName) (current : StateRecord)
      (htarget : releaseTarget args path w.files = .ok (target, canonicalPath, current))
      (hstate : current.state ∉ releasableStates) : Released args path answer w w
  | uncalled (target : Args) (canonicalPath : FileName) (current : StateRecord)
      (htarget : releaseTarget args path w.files = .ok (target, canonicalPath, current))
      (hstate : current.state ∈ releasableStates) (failure : Failure)
      (hcommand : driverCommand target .release none = .error failure) :
      Released args path answer w
        (storeRelease path canonicalPath (current.afterRelease (.error failure)) w)
  | crashed (target : Args) (canonicalPath : FileName) (current : StateRecord)
      (htarget : releaseTarget args path w.files = .ok (target, canonicalPath, current))
      (hstate : current.state ∈ releasableStates) (command : List String)
      (hanswer : answer = .malformed) :
      Released args path answer w (w.call ⟨.release, target.canonicalJobId, command, answer⟩)
  | stored (target : Args) (canonicalPath : FileName) (current : StateRecord)
      (htarget : releaseTarget args path w.files = .ok (target, canonicalPath, current))
      (hstate : current.state ∈ releasableStates) (command : List String) :
      Released args path answer w
        (storeRelease path canonicalPath (current.afterRelease answer.outcome)
          (w.call ⟨.release, target.canonicalJobId, command, answer⟩))

/-- The failures of `driver_command` are caught. -/
lemma ne_other_of_driverCommand {args : Args} {operation : DriverCommand}
    {directive : Option Directive} {failure : Failure}
    (h : driverCommand args operation directive = .error failure) : failure ≠ .other := by
  rintro rfl
  unfold driverCommand at h
  rcases hepoch : allocationEpoch args.submitTime args.restartCount with failure | epoch
  · rw [hepoch] at h
    obtain rfl := Except.error.inj h
    unfold allocationEpoch at hepoch
    split at hepoch
    · cases hepoch
    · dsimp only at hepoch
      split at hepoch <;> cases hepoch
  · rw [hepoch] at h
    cases h

lemma released_release (args : Args) (path : FileName) (answer : DriverAnswer) (w : World) :
    Released args path answer w (release args path answer w).2 := by
  unfold release
  rcases htarget : releaseTarget args path w.files with failure | ⟨target, canonicalPath, current⟩
  · exact .failed failure htarget
  dsimp only
  by_cases hstate : current.state ∈ releasableStates
  · rw [if_neg (not_not.mpr hstate)]
    obtain ⟨failure, hcommand, hcall⟩ | ⟨command, epoch, -, hcall⟩ :=
      invokeDriver_cases target .release none answer w
    · rw [hcall]
      have hne := ne_other_of_driverCommand hcommand
      have hstored : Released args path answer w _ :=
        .uncalled target canonicalPath current htarget hstate failure hcommand
      cases failure with
      | other => exact absurd rfl hne
      | _ => exact hstored
    · rw [hcall]
      have hstored : Released args path answer w _ :=
        .stored target canonicalPath current htarget hstate command
      cases answer with
      | malformed => exact .crashed target canonicalPath current htarget hstate command rfl
      | _ => exact hstored
  · rw [if_pos hstate]
    exact .skipped target canonicalPath current htarget hstate

/-- What a run does to the state files and the calls. -/
inductive Run.Does (run : Run) (w : World) : World → Prop
  | nothing : Does run w w
  | evaluated (args : Args) (path : FileName) (w' : World)
      (hlocated : locateState w.files run.args false = .ok (args, path))
      (hoperation : run.operation = .evaluate) (h : Evaluated args path run.answer w w') :
      Does run w w'
  | reserved (args : Args) (path : FileName) (w' : World)
      (hlocated : locateState w.files run.args false = .ok (args, path))
      (hoperation : run.operation = .reserve) (h : Reserved args path run.answer w w') :
      Does run w w'
  | released (args : Args) (path : FileName) (w' : World)
      (hlocated : locateState w.files run.args true = .ok (args, path))
      (hoperation : run.operation = .release) (h : Released args path run.answer w w') :
      Does run w w'

/-- The state after a run is the state after its body. -/
lemma step_eq (w : World) (run : Run) : step w run = (run.body w).2 := by
  unfold step Run.main
  split <;> simp [*]

lemma does_step (w : World) (run : Run) : run.Does w (step w run) := by
  rw [step_eq]
  unfold Run.body
  split
  · exact .nothing
  split
  · exact .nothing
  rcases hlocated : locateState w.files run.args (decide (run.operation = .release)) with
    failure | ⟨args, path⟩
  · exact .nothing
  dsimp only
  by_cases hrelease : run.operation = .release
  · rw [if_pos hrelease]
    rw [hrelease] at hlocated
    exact .released args path _ hlocated hrelease (released_release args path run.answer w)
  rw [if_neg hrelease]
  rw [decide_eq_false hrelease] at hlocated
  rcases run.directive with failure | directive
  · exact .nothing
  dsimp only
  by_cases hevaluate : run.operation = .evaluate
  · rw [if_pos hevaluate]
    exact .evaluated args path _ hlocated hevaluate
      (evaluated_evaluation args path directive run.answer w)
  · rw [if_neg hevaluate]
    have hreserve : run.operation = .reserve := by
      rcases hoperation : run.operation with - | - | -
      · exact absurd hoperation hevaluate
      · rfl
      · exact absurd hoperation hrelease
    exact .reserved args path _ hlocated hreserve
      (reserved_reservation args path directive run.answer w)

/-! ### The runs of one allocation -/

/-- An allocation: all the runs for its components are given its cluster and its canonical job id,
except that the teardown of a component gives the id of the component. -/
structure Allocation where
  cluster : String
  canonicalJobId : ℤ

namespace Allocation

variable (a : Allocation)

/-- The name of the canonical file. -/
def file : FileName := ⟨a.cluster, a.canonicalJobId⟩

/-- What the runs for the allocation have in common.  Without a configured cluster they find it in
the state files. -/
structure Runs (run : Run) : Prop where
  cluster : run.args.cluster = a.cluster ∨ run.args.cluster = "auto"
  canonical : run.args.canonicalJobId = a.canonicalJobId ∨
    run.args.canonicalJobId = run.args.jobId

/-- A state file of the allocation, or of one of its components on its own. -/
structure Owns (file : FileName × StateRecord) : Prop where
  name : file.1.cluster = a.cluster
  cluster : file.2.cluster = a.cluster
  canonical : file.2.canonicalJobId = a.canonicalJobId ∨ file.2.canonicalJobId = file.1.jobId

/-- What `locate_state` finds for a run of the allocation. -/
structure Located (files : StateFiles) (run : Run) (args : Args) (path : FileName) : Prop where
  path_eq : path = ⟨a.cluster, args.canonicalJobId⟩
  cluster : args.cluster = a.cluster
  jobId : args.jobId = run.args.jobId
  limit : args.maxReservationAttempts = run.args.maxReservationAttempts
  epoch : args.submitTime = run.args.submitTime ∧ args.restartCount = run.args.restartCount
  canonical : args.canonicalJobId = a.canonicalJobId ∨ args.canonicalJobId = args.jobId
  /-- The file that is found without the cluster is its own canonical file. -/
  found : run.args.cluster ≠ "auto" ∧ args.canonicalJobId = run.args.canonicalJobId ∨
    path = a.file ∨ ∀ record, files.read path = some record → record.canonicalJobId = path.jobId

variable {a}

lemma statePath_eq_ok {cluster : String} {jobId : ℤ} {path : FileName}
    (h : statePath cluster jobId = .ok path) : path = ⟨cluster, jobId⟩ := by
  unfold statePath at h
  split at h
  · exact (Except.ok.inj h).symm
  · cases h

lemma located {files : StateFiles} {run : Run} {allowMissing : Bool} {args : Args}
    {path : FileName} (hfiles : ∀ file ∈ files, a.Owns file) (hrun : a.Runs run)
    (h : locateState files run.args allowMissing = .ok (args, path)) :
    a.Located files run args path := by
  unfold locateState at h
  by_cases hauto : run.args.cluster ≠ "auto"
  · rw [if_pos hauto] at h
    obtain ⟨found, hpath, hreturn⟩ := bind_eq_ok_iff.mp h
    obtain ⟨rfl, rfl⟩ := Prod.mk.inj (Except.ok.inj hreturn)
    have hcluster : run.args.cluster = a.cluster := hrun.cluster.resolve_right hauto
    exact ⟨by rw [statePath_eq_ok hpath, hcluster], hcluster, rfl, rfl, ⟨rfl, rfl⟩, hrun.canonical,
      .inl ⟨hauto, rfl⟩⟩
  rw [if_neg hauto] at h
  rcases hmatch : files.filter fun file => file.1.jobId = run.args.jobId with
    - | ⟨⟨name, current⟩, - | ⟨second, rest⟩⟩
  · rw [hmatch] at h
    cases h
  · rw [hmatch] at h
    obtain ⟨found, hpath, hreturn⟩ := bind_eq_ok_iff.mp h
    obtain ⟨rfl, rfl⟩ := Prod.mk.inj (Except.ok.inj hreturn)
    have hmem : (name, current) ∈ files.filter fun file => file.1.jobId = run.args.jobId :=
      hmatch ▸ List.mem_cons_self
    obtain ⟨hfile, hjob⟩ := List.mem_filter.mp hmem
    have howns := hfiles _ hfile
    have hname : name.jobId = run.args.jobId := of_decide_eq_true hjob
    have hpath := statePath_eq_ok hpath
    have hcluster : current.cluster = a.cluster := howns.cluster
    refine ⟨by rw [hpath, hcluster], hcluster, rfl, rfl, ⟨rfl, rfl⟩,
      howns.canonical.imp id (·.trans hname), .inr ?_⟩
    rcases howns.canonical with hcanonical | hcanonical
    · exact .inl (by rw [hpath, hcluster, hcanonical]; rfl)
    · refine .inr fun record hrecord => ?_
      have hjobId : found.jobId = run.args.jobId := by
        rw [hpath]
        exact hcanonical.trans hname
      have hunique : (found, record) ∈ files.filter fun file => file.1.jobId = run.args.jobId :=
        List.mem_filter.mpr ⟨StateFiles.mem_of_read hrecord, decide_eq_true hjobId⟩
      rw [hmatch] at hunique
      obtain ⟨hfound, rfl⟩ := Prod.mk.inj (List.mem_singleton.mp hunique)
      rw [hcanonical, hfound]
  · rw [hmatch] at h
    cases h

/-- A record of the run belongs to the allocation. -/
lemma Located.owns {files : StateFiles} {run : Run} {args : Args}
    {path : FileName} (h : a.Located files run args path)
    {record : StateRecord} (hcluster : record.cluster = args.cluster)
    (hcanonical : record.canonicalJobId = args.canonicalJobId) : a.Owns (path, record) where
  name := by rw [h.path_eq]
  cluster := hcluster.trans h.cluster
  canonical := .inr (by rw [h.path_eq, hcanonical])

/-- A call for the allocation goes with its canonical file. -/
lemma Located.path_eq_file {files : StateFiles} {run : Run} {args : Args}
    {path : FileName} (h : a.Located files run args path)
    (hcanonical : args.canonicalJobId = a.canonicalJobId) : path = a.file := by
  rw [h.path_eq, hcanonical]
  rfl

end Allocation

end QfwSlurm.Helper
