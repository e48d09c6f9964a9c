import QfwSlurm.Gateway.Effects

/-!
# The Slurm verifier

`gateway/qfw_slurm_gateway/slurm_verifier.py` asks `scontrol` for the job a request names and
compares the request and its sender with what Slurm reports.  A `Scontrol` is one choice of what the
program prints, for the first and the second query of a verification; `SlurmVerifier.oracle` puts
the verifier in the place where the handlers ask for a verification.

`Authorizes` says what a successful verification means, in terms of what Slurm reported: the three
lemmas at the end derive it from the code.
-/

namespace QfwSlurm

/-! ### Documents -/

/-- The values that `json.loads` returns for the output of `scontrol`; a float is kept as the text
that `str` makes of it. -/
inductive SlurmValue where
  | null
  | bool (value : Bool)
  | int (value : ℤ)
  | float (text : String)
  | str (value : String)
  | arr (items : List SlurmValue)
  | obj (fields : List (String × SlurmValue))

/-- What a query prints or raises. -/
inductive ScontrolAnswer where
  /-- `OSError` or `TimeoutExpired`. -/
  | unreachable (message : String)
  /-- Any other exception. -/
  | raised (message : String)
  /-- A nonzero exit status, with `stderr.strip()`. -/
  | failed (detail : String)
  /-- The output is not JSON. -/
  | undecodable
  /-- The document that was printed. -/
  | document (value : SlurmValue)

/-- The answers to the queries of one verification: by their number and the job id asked for. -/
abbrev Scontrol := ℕ → ℤ → ScontrolAnswer

/-- What the verifier takes from the Python runtime and the host: the values of the decimal digits
of Unicode, `str.upper`, and the user names of `pwd.getpwuid`. -/
structure Host where
  digit : Char → Option ℕ
  upper : String → String
  username : ℤ → Option String

/-- The configuration of a `SlurmVerifier`. -/
structure SlurmVerifier where
  clusterName : String
  trustedSenderUids : List ℤ
  host : Host

/-- A raised `SlurmVerificationError`. -/
def slurmError {α : Type} (message : String) : Except VerifierFailure α :=
  .error (.refused message)

namespace SlurmValue

/-- `type(value).__name__` -/
def typeName : SlurmValue → String
  | null => "NoneType"
  | bool _ => "bool"
  | int _ => "int"
  | float _ => "float"
  | str _ => "str"
  | arr _ => "list"
  | obj _ => "dict"

/-- `value.get(key, default)`; anything but a mapping raises `AttributeError`. -/
def get (key : String) (value : SlurmValue) (default : SlurmValue := null) :
    Except VerifierFailure SlurmValue :=
  match value with
  | obj fields => .ok ((fields.lookup key).getD default)
  | _ => .error (.unexpected s!"'{value.typeName}' object has no attribute 'get'")

/-- The items of `for item in value`, or `none` where Python raises `TypeError`. -/
def iterate : SlurmValue → Option (List SlurmValue)
  | arr items => some items
  | obj fields => some (fields.map fun field => str field.1)
  | str text => some (text.toList.map fun c => str (String.singleton c))
  | _ => none

end SlurmValue

/-! ### Reading numbers and texts -/

section Reading

variable (host : Host)

/-- `int(value)` for a text that `isdecimal` accepts, which fails beyond 4300 digits. -/
def decimalValue (digits : List ℕ) : Except VerifierFailure ℤ :=
  if 4300 < digits.length then
    .error (.unexpected "Exceeds the limit (4300 digits) for integer string conversion")
  else .ok (digits.foldl (fun value digit => value * 10 + digit) 0 : ℕ)

/-- `value.isdecimal()`: the values of the digits. -/
def isDecimal (value : String) : Option (List ℕ) :=
  if value = "" then none else value.toList.mapM host.digit

mutual

/-- `_number` -/
def number (label : String) : SlurmValue → Except VerifierFailure ℤ
  | .bool _ => slurmError s!"Slurm {label} is invalid"
  | .int value => .ok value
  | .str value =>
    match isDecimal host value with
    | some digits => decimalValue digits
    | none => slurmError s!"Slurm {label} is unavailable"
  | .obj fields =>
    match numberField label "number" fields, numberField label "set" fields,
        numberField label "value" fields, numberField label "id" fields with
    | some result, _, _, _ => result
    | none, some result, _, _ => result
    | none, none, some result, _ => result
    | none, none, none, some result => result
    | none, none, none, none => slurmError s!"Slurm {label} is unavailable"
  | _ => slurmError s!"Slurm {label} is unavailable"

/-- The number under a key of a mapping, unless the key is missing or its value is `None`. -/
def numberField (label key : String) :
    List (String × SlurmValue) → Option (Except VerifierFailure ℤ)
  | [] => none
  | (name, value) :: fields =>
    if name = key then
      match value with
      | .null => none
      | value => some (number label value)
    else numberField label key fields

end

mutual

/-- `_text` -/
def slurmText : SlurmValue → Option String
  | .null => none
  | .obj fields =>
    match textField "name" fields, textField "string" fields, textField "value" fields with
    | some text, _, _ => text
    | none, some text, _ => text
    | none, none, some text => text
    | none, none, none => none
  | .arr items => firstText items
  | .bool value => some (if value then "True" else "False")
  | .int value => some (toString value)
  | .float text => some text
  | .str value => some value

/-- The text under a key of a mapping, unless the key is missing. -/
def textField (key : String) : List (String × SlurmValue) → Option (Option String)
  | [] => none
  | (name, value) :: fields => if name = key then some (slurmText value) else textField key fields

/-- The text of the first item of a list. -/
def firstText : List SlurmValue → Option String
  | [] => none
  | item :: _ => slurmText item

end

/-- `_number(item.get("job_id"), "job ID")` -/
def jobNumber (item : SlurmValue) : Except VerifierFailure ℤ := do
  number host "job ID" (← item.get "job_id")

/-- The owner of a record: `user_id` or else `user_id_number`. -/
def uidNumber (record : SlurmValue) : Except VerifierFailure ℤ := do
  number host "UID" (← record.get "user_id" (← record.get "user_id_number"))

/-- The group of a record: `group_id` or else `group_id_number`. -/
def gidNumber (record : SlurmValue) : Except VerifierFailure ℤ := do
  number host "GID" (← record.get "group_id" (← record.get "group_id_number"))

/-- `next(item for item in jobs if _number(item.get("job_id"), "job ID") == job_id)`, `none` for
`StopIteration`. -/
def findJob (jobId : ℤ) : List SlurmValue → Except VerifierFailure (Option SlurmValue)
  | [] => .ok none
  | item :: items => do
    if (← jobNumber host item) = jobId then return some item
    else findJob jobId items

/-- `SlurmVerifier._canonical_job_id` -/
def canonicalJobId (record : SlurmValue) : Except VerifierFailure ℤ := do
  match ← record.get "het_job_id" with
  | .null => jobNumber host record
  | value =>
    match number host "heterogeneous job ID" value with
    | .error (.refused _) => jobNumber host record
    | .error failure => .error failure
    | .ok candidate =>
      if candidate ∈ [0, 4294967294, 4294967295] then jobNumber host record else return candidate

end Reading

/-! ### Queries -/

namespace ScontrolAnswer

/-- `document["jobs"]` as a list of items; `none` where `KeyError` or `TypeError` is caught. -/
def jobs : ScontrolAnswer → Option (List SlurmValue)
  | document (.obj fields) => (fields.lookup "jobs").bind SlurmValue.iterate
  | _ => none

end ScontrolAnswer

namespace SlurmVerifier

variable (verifier : SlurmVerifier)

/-- `SlurmVerifier._query` -/
def query (answer : ScontrolAnswer) (jobId : ℤ) :
    Except VerifierFailure (List SlurmValue × SlurmValue) :=
  match answer with
  | .unreachable message => slurmError s!"cannot query slurmctld: {message}"
  | .raised message => .error (.unexpected message)
  | .failed detail => slurmError (if detail = "" then "scontrol failed" else detail)
  | .undecodable => slurmError "scontrol returned invalid JSON"
  | .document _ =>
    match answer.jobs with
    | none => slurmError "scontrol returned invalid JSON"
    | some jobs => do
      match ← findJob verifier.host jobId jobs with
      | some record => return (jobs, record)
      | none => slurmError "scontrol response lacks the requested job"

/-- The job state of a record: upper case, up to the first `+`. -/
def jobState (record : SlurmValue) : Except VerifierFailure String := do
  let state := verifier.host.upper
    ((slurmText (← record.get "job_state" (← record.get "state"))).getD "")
  return String.ofList (state.toList.takeWhile (· ≠ '+'))

/-- The priority of a record, if it has one. -/
def jobPriority (record : SlurmValue) : Except VerifierFailure (Option ℤ) := do
  match ← record.get "priority" with
  | .null => return none
  | value => return some (← number verifier.host "priority" value)

/-- `SlurmVerifier._verified_job` -/
def verifiedJob (record : SlurmValue) (jobId : ℤ) : Except VerifierFailure VerifiedJob := do
  let uid ← uidNumber verifier.host record
  let gid ← gidNumber verifier.host record
  let state ← verifier.jobState record
  let account ← record.get "account"
  let qos ← record.get "qos"
  let priority ← verifier.jobPriority record
  return {
    clusterName := ""
    canonicalJobId := jobId
    uid := uid
    gid := gid
    username := (verifier.host.username uid).getD (toString uid)
    account := slurmText account
    qos := slurmText qos
    priority := priority
    state := state }

/-- `SlurmVerifier._verify_heterogeneous_component` -/
def verifyHeterogeneousComponent (jobs : List SlurmValue)
    (canonicalJobId componentJobId componentOffset : ℤ) : Except VerifierFailure Unit := do
  match ← findJob verifier.host componentJobId jobs with
  | none => slurmError "scontrol response lacks the heterogeneous component"
  | some component =>
    let leader ← number verifier.host "heterogeneous job ID" (← component.get "het_job_id")
    let offset ← number verifier.host "heterogeneous component" (← component.get "het_job_offset")
    if leader ≠ canonicalJobId ∨ offset ≠ componentOffset then
      slurmError "heterogeneous component differs from Slurm"

/-- The heterogeneous part of `_load`. -/
def checkComponent (jobs : List SlurmValue) (jobId : ℤ) :
    Option ℤ → Option ℤ → Except VerifierFailure Unit
  | none, none => return ()
  | some component, some offset =>
    verifier.verifyHeterogeneousComponent jobs jobId component offset
  | _, _ => slurmError "heterogeneous request metadata is incomplete"

/-- `SlurmVerifier._load` -/
def load (answer : ScontrolAnswer) (jobId : ℤ) (heteroJobId heteroComponent : Option ℤ) :
    Except VerifierFailure VerifiedJob := do
  let (jobs, record) ← verifier.query answer jobId
  verifier.checkComponent jobs jobId heteroJobId heteroComponent
  let job ← verifier.verifiedJob record jobId
  return { job with clusterName := verifier.clusterName }

/-- `SlurmVerifier._sender_is_trusted` -/
def senderIsTrusted (senderUid jobUid : ℤ) : Bool :=
  senderUid ∈ [0, jobUid] ∨ senderUid ∈ verifier.trustedSenderUids

/-! ### Verifications -/

/-- `_reserve_states` -/
def reserveStates : List String := ["PENDING", "CONFIGURING", "RUNNING", "COMPLETING"]

/-- `_release_states` -/
def releaseStates : List String :=
  reserveStates ++
    ["CANCELLED", "COMPLETED", "FAILED", "NODE_FAIL", "OUT_OF_MEMORY", "PREEMPTED", "TIMEOUT"]

/-- `SlurmVerifier.verify_reserve` -/
def verifyReserve (slurm : Scontrol) (request : ReserveRequest) (senderUid : ℤ) :
    Except VerifierFailure VerifiedJob := do
  if request.clusterName ≠ verifier.clusterName then
    slurmError "request names another Slurm cluster"
  let job ← verifier.load (slurm 0 request.canonicalJobId) request.canonicalJobId
    request.heteroJobId request.heteroComponent
  if job.uid ≠ request.jobUid ∨ job.gid ≠ request.jobGid then
    slurmError "request identity differs from Slurm"
  if ¬ verifier.senderIsTrusted senderUid job.uid then
    slurmError "MUNGE identity cannot reserve this job"
  if job.state ∉ reserveStates then
    slurmError s!"Slurm job state {reprText job.state} cannot reserve QPMs"
  return { job with clusterName := verifier.clusterName }

/-- `SlurmVerifier.verify_release` -/
def verifyRelease (slurm : Scontrol) (request : ReleaseRequest) (senderUid : ℤ)
    (expectedUid : Option ℤ) : Except VerifierFailure VerifiedJob := do
  if request.clusterName ≠ verifier.clusterName then
    slurmError "request names another Slurm cluster"
  let job ← verifier.load (slurm 0 request.canonicalJobId) request.canonicalJobId none none
  if expectedUid ≠ none ∧ some job.uid ≠ expectedUid then
    slurmError "journal and Slurm owner differ"
  if ¬ verifier.senderIsTrusted senderUid job.uid then
    slurmError "MUNGE identity cannot release this job"
  if job.state ∉ releaseStates then
    slurmError s!"Slurm job state {reprText job.state} cannot release QPMs"
  return job

/-- The canonical record of a lookup: the observed one, another of the same answer, or the result
of a second query. -/
def canonicalRecord (slurm : Scontrol) (observedJobId canonicalJobId : ℤ)
    (jobs : List SlurmValue) (observed : SlurmValue) : Except VerifierFailure SlurmValue := do
  if canonicalJobId = observedJobId then return observed
  else
    match ← findJob verifier.host canonicalJobId jobs with
    | some record => return record
    | none => return (← verifier.query (slurm 1 canonicalJobId) canonicalJobId).2

/-- `SlurmVerifier.verify_lookup` -/
def verifyLookup (slurm : Scontrol) (request : GetReservationsRequest) (senderUid : ℤ) :
    Except VerifierFailure VerifiedJob := do
  if request.clusterName ≠ verifier.clusterName then
    slurmError "request names another Slurm cluster"
  let (jobs, observed) ← verifier.query (slurm 0 request.observedJobId) request.observedJobId
  let canonicalId ← canonicalJobId verifier.host observed
  let canonical ← verifier.canonicalRecord slurm request.observedJobId canonicalId jobs observed
  let job ← verifier.verifiedJob canonical canonicalId
  let observedUid ← uidNumber verifier.host observed
  let observedGid ← gidNumber verifier.host observed
  if (observedUid, observedGid) ≠ (job.uid, job.gid) then
    slurmError "heterogeneous component owner differs from allocation"
  if job.uid ≠ request.jobUid ∨ job.gid ≠ request.jobGid then
    slurmError "request identity differs from Slurm"
  if ¬ verifier.senderIsTrusted senderUid job.uid then
    slurmError "MUNGE identity cannot retrieve reservations for this job"
  if job.state ∉ reserveStates then
    slurmError s!"Slurm job state {reprText job.state} has no active reservation context"
  return { job with clusterName := verifier.clusterName }

/-- The surroundings in which the verifications are those of the verifier.  The answers of
`scontrol` and of the adapter are chosen anew for every call. -/
def oracle (slurm : ℕ → Scontrol) (adapter : Oracle) : Oracle
  | n, .verifyReserve request senderUid => verifier.verifyReserve (slurm n) request senderUid
  | n, .verifyRelease request senderUid expectedUid =>
    verifier.verifyRelease (slurm n) request senderUid expectedUid
  | n, .verifyLookup request senderUid => verifier.verifyLookup (slurm n) request senderUid
  | n, c => adapter n c

/-! ### What a verification establishes -/

/-- Slurm reported a job: the answer lists a record with the job id, the user and the group. -/
def Reports (answer : ScontrolAnswer) (jobId uid gid : ℤ) : Prop :=
  ∃ jobs, answer.jobs = some jobs ∧ ∃ record ∈ jobs, jobNumber verifier.host record = .ok jobId ∧
    uidNumber verifier.host record = .ok uid ∧ gidNumber verifier.host record = .ok gid

/-- The senders that may act for a job: root, the configured senders and its owner. -/
def Permits (senderUid owner : ℤ) : Prop :=
  senderUid = 0 ∨ senderUid ∈ verifier.trustedSenderUids ∨ senderUid = owner

/-- The request names the configured cluster, and its sender may act for the owner. -/
structure Admits (clusterName : String) (senderUid owner : ℤ) : Prop where
  cluster : clusterName = verifier.clusterName
  sender : verifier.Permits senderUid owner

/-- An admission request for the owner that it names and that Slurm reported. -/
structure AuthorizesAdmission (slurm : Scontrol) (request : ReserveRequest) (senderUid : ℤ)
    (key : AllocationKey) (owner : ℤ) : Prop
    extends verifier.Admits request.clusterName senderUid owner where
  key_eq : key = ⟨request.clusterName, request.canonicalJobId⟩
  owner_eq : owner = request.jobUid
  reported : verifier.Reports (slurm 0 request.canonicalJobId) request.canonicalJobId owner
    request.jobGid

/-- A release request for a job whose owner Slurm reported. -/
structure AuthorizesRelease (slurm : Scontrol) (request : ReleaseRequest) (senderUid : ℤ)
    (key : AllocationKey) (owner : ℤ) : Prop
    extends verifier.Admits request.clusterName senderUid owner where
  key_eq : key = ⟨request.clusterName, request.canonicalJobId⟩
  reported : ∃ gid, verifier.Reports (slurm 0 request.canonicalJobId) request.canonicalJobId owner
    gid

/-- A lookup for the owner that it names and that Slurm reported for the observed component and for
the canonical allocation. -/
structure AuthorizesLookup (slurm : Scontrol) (request : GetReservationsRequest) (senderUid : ℤ)
    (key : AllocationKey) (owner : ℤ) : Prop
    extends verifier.Admits request.clusterName senderUid owner where
  cluster_eq : key.clusterName = request.clusterName
  owner_eq : owner = request.jobUid
  reported : verifier.Reports (slurm 0 request.observedJobId) request.observedJobId owner
    request.jobGid
  canonical : verifier.Reports (slurm 0 request.observedJobId) key.canonicalJobId owner
      request.jobGid ∨
    verifier.Reports (slurm 1 key.canonicalJobId) key.canonicalJobId owner request.jobGid

/-- The verification of a request lets its sender act on an allocation for its owner. -/
def Authorizes (slurm : Scontrol) (request : Request) (senderUid : ℤ) (key : AllocationKey)
    (owner : ℤ) : Prop :=
  match request with
  | .evaluate request =>
    verifier.AuthorizesAdmission slurm request.toReserveRequest senderUid key owner
  | .reserve request => verifier.AuthorizesAdmission slurm request senderUid key owner
  | .release request => verifier.AuthorizesRelease slurm request senderUid key owner
  | .getReservations request => verifier.AuthorizesLookup slurm request senderUid key owner

/-! ### The verifications establish it -/

section Establishing

variable {verifier}

lemma permits_of_senderIsTrusted {senderUid owner : ℤ}
    (h : verifier.senderIsTrusted senderUid owner = true) : verifier.Permits senderUid owner := by
  simp only [senderIsTrusted, List.mem_cons, List.not_mem_nil, or_false, decide_eq_true_eq] at h
  rcases h with (h | h) | h
  · exact .inl h
  · exact .inr (.inr h)
  · exact .inr (.inl h)

/-- A job that is found is one of the list and has the job id. -/
lemma mem_of_findJob {host : Host} {jobId : ℤ} {jobs : List SlurmValue} {record : SlurmValue}
    (h : findJob host jobId jobs = .ok (some record)) :
    record ∈ jobs ∧ jobNumber host record = .ok jobId := by
  induction jobs with
  | nil => exact (nomatch h)
  | cons item items ih =>
    rw [findJob] at h
    obtain ⟨found, hfound, h⟩ := bind_eq_ok_iff.mp h
    split_ifs at h with hid
    · have hrecord : item = record := by simpa [pure, Except.pure] using h
      subst hrecord hid
      exact ⟨List.mem_cons_self, hfound⟩
    · obtain ⟨hmem, hnumber⟩ := ih h
      exact ⟨List.mem_cons_of_mem _ hmem, hnumber⟩

/-- A query that returns found the job in the list it returns. -/
lemma jobs_of_query {answer : ScontrolAnswer} {jobId : ℤ} {jobs : List SlurmValue}
    {record : SlurmValue} (h : verifier.query answer jobId = .ok (jobs, record)) :
    answer.jobs = some jobs ∧ record ∈ jobs ∧ jobNumber verifier.host record = .ok jobId := by
  cases answer with
  | document value =>
    rw [query] at h
    cases hjobs : (ScontrolAnswer.document value).jobs with
    | none => rw [hjobs] at h; exact (nomatch h)
    | some listed =>
      rw [hjobs] at h
      obtain ⟨found, hfound, h⟩ := bind_eq_ok_iff.mp h
      cases found with
      | none => exact (nomatch h)
      | some item =>
        obtain ⟨rfl, rfl⟩ : listed = jobs ∧ item = record := by
          simpa [pure, Except.pure] using h
        exact ⟨rfl, mem_of_findJob hfound⟩
  | _ => exact (nomatch h)

/-- The owner of a verified job is the one of its record. -/
lemma owner_of_verifiedJob {record : SlurmValue} {jobId : ℤ} {job : VerifiedJob}
    (h : verifier.verifiedJob record jobId = .ok job) :
    uidNumber verifier.host record = .ok job.uid ∧ gidNumber verifier.host record = .ok job.gid ∧
      job.canonicalJobId = jobId := by
  obtain ⟨uid, huid, h⟩ := bind_eq_ok_iff.mp h
  obtain ⟨gid, hgid, h⟩ := bind_eq_ok_iff.mp h
  obtain ⟨state, -, h⟩ := bind_eq_ok_iff.mp h
  obtain ⟨account, -, h⟩ := bind_eq_ok_iff.mp h
  obtain ⟨qos, -, h⟩ := bind_eq_ok_iff.mp h
  obtain ⟨priority, -, h⟩ := bind_eq_ok_iff.mp h
  cases h
  exact ⟨huid, hgid, rfl⟩

/-- A job that was loaded is reported in the answer. -/
lemma reports_of_load {answer : ScontrolAnswer} {jobId : ℤ} {heteroJobId heteroComponent : Option ℤ}
    {job : VerifiedJob}
    (h : verifier.load answer jobId heteroJobId heteroComponent = .ok job) :
    verifier.Reports answer jobId job.uid job.gid := by
  obtain ⟨⟨jobs, record⟩, hquery, h⟩ := bind_eq_ok_iff.mp h
  obtain ⟨hjobs, hmem, hnumber⟩ := jobs_of_query hquery
  obtain ⟨_, -, h⟩ := bind_eq_ok_iff.mp h
  obtain ⟨loaded, hloaded, h⟩ := bind_eq_ok_iff.mp h
  obtain ⟨huid, hgid, -⟩ := owner_of_verifiedJob hloaded
  cases h
  exact ⟨jobs, hjobs, record, hmem, hnumber, huid, hgid⟩

/-- A check that did not raise was passed. -/
lemma of_check {α : Type} {condition : Prop} [Decidable condition] {message : String}
    {next : Except VerifierFailure α} {result : α}
    (h : (if condition then (slurmError message : Except VerifierFailure Unit) >>= fun _ => next
      else next) = .ok result) : ¬ condition ∧ next = .ok result := by
  split_ifs at h with hcondition
  · exact (nomatch h)
  · exact ⟨hcondition, h⟩

/-- `verify_reserve` authorizes. -/
lemma authorizes_of_verifyReserve {slurm : Scontrol} {request : ReserveRequest} {senderUid : ℤ}
    {job : VerifiedJob} (h : verifier.verifyReserve slurm request senderUid = .ok job) :
    verifier.AuthorizesAdmission slurm request senderUid
      ⟨request.clusterName, request.canonicalJobId⟩ request.jobUid := by
  obtain ⟨hcluster, h⟩ := of_check h
  obtain ⟨loaded, hloaded, h⟩ := bind_eq_ok_iff.mp h
  obtain ⟨hidentity, h⟩ := of_check h
  obtain ⟨hsender, h⟩ := of_check h
  push Not at hcluster hidentity
  have hreports := reports_of_load hloaded
  rw [hidentity.1, hidentity.2] at hreports
  rw [hidentity.1] at hsender
  exact { cluster := hcluster
          sender := permits_of_senderIsTrusted (not_not.mp hsender)
          key_eq := rfl
          owner_eq := rfl
          reported := hreports }

/-- `verify_release` authorizes, and for an allocation in the journal the owner is the one on
record. -/
lemma authorizes_of_verifyRelease {slurm : Scontrol} {request : ReleaseRequest} {senderUid : ℤ}
    {expectedUid : Option ℤ} {job : VerifiedJob}
    (h : verifier.verifyRelease slurm request senderUid expectedUid = .ok job) :
    verifier.AuthorizesRelease slurm request senderUid
      ⟨request.clusterName, request.canonicalJobId⟩ job.uid ∧
      ∀ uid ∈ expectedUid, uid = job.uid := by
  obtain ⟨hcluster, h⟩ := of_check h
  obtain ⟨loaded, hloaded, h⟩ := bind_eq_ok_iff.mp h
  obtain ⟨hexpected, h⟩ := of_check h
  obtain ⟨hsender, h⟩ := of_check h
  obtain ⟨-, h⟩ := of_check h
  push Not at hcluster hexpected
  cases h
  refine ⟨{ cluster := hcluster
            sender := permits_of_senderIsTrusted (not_not.mp hsender)
            key_eq := rfl
            reported := ⟨_, reports_of_load hloaded⟩ }, fun uid huid => ?_⟩
  have hsame := hexpected (by simp [Option.mem_def.mp huid])
  rw [Option.mem_def.mp huid] at hsame
  exact (Option.some.inj hsame).symm

/-- The canonical record of a lookup has the canonical id and is listed in one of the answers. -/
lemma mem_of_canonicalRecord {slurm : Scontrol} {observedId canonicalId : ℤ}
    {jobs : List SlurmValue} {observed record : SlurmValue}
    (hobserved : observed ∈ jobs ∧ jobNumber verifier.host observed = .ok observedId)
    (h : verifier.canonicalRecord slurm observedId canonicalId jobs observed = .ok record) :
    jobNumber verifier.host record = .ok canonicalId ∧
      (record ∈ jobs ∨ ∃ others, (slurm 1 canonicalId).jobs = some others ∧ record ∈ others) := by
  unfold canonicalRecord at h
  split_ifs at h with hsame
  · cases h
    exact ⟨hsame ▸ hobserved.2, .inl hobserved.1⟩
  · obtain ⟨found, hfound, h⟩ := bind_eq_ok_iff.mp h
    cases found with
    | some item =>
      cases h
      obtain ⟨hmem, hnumber⟩ := mem_of_findJob hfound
      exact ⟨hnumber, .inl hmem⟩
    | none =>
      obtain ⟨⟨others, item⟩, hquery, h⟩ := bind_eq_ok_iff.mp h
      cases h
      obtain ⟨hothers, hmem, hnumber⟩ := jobs_of_query hquery
      exact ⟨hnumber, .inr ⟨others, hothers, hmem⟩⟩

/-- `verify_lookup` authorizes for the allocation it returns. -/
lemma authorizes_of_verifyLookup {slurm : Scontrol} {request : GetReservationsRequest}
    {senderUid : ℤ} {job : VerifiedJob}
    (h : verifier.verifyLookup slurm request senderUid = .ok job) :
    verifier.AuthorizesLookup slurm request senderUid ⟨request.clusterName, job.canonicalJobId⟩
      job.uid := by
  obtain ⟨hcluster, h⟩ := of_check h
  obtain ⟨⟨jobs, observed⟩, hquery, h⟩ := bind_eq_ok_iff.mp h
  obtain ⟨canonicalId, -, h⟩ := bind_eq_ok_iff.mp h
  obtain ⟨record, hrecord, h⟩ := bind_eq_ok_iff.mp h
  obtain ⟨verified, hverified, h⟩ := bind_eq_ok_iff.mp h
  obtain ⟨observedUid, huid, h⟩ := bind_eq_ok_iff.mp h
  obtain ⟨observedGid, hgid, h⟩ := bind_eq_ok_iff.mp h
  obtain ⟨howner, h⟩ := of_check h
  obtain ⟨hidentity, h⟩ := of_check h
  obtain ⟨hsender, h⟩ := of_check h
  obtain ⟨-, h⟩ := of_check h
  cases h
  push Not at hcluster howner hidentity
  obtain ⟨rfl, rfl⟩ : observedUid = verified.uid ∧ observedGid = verified.gid := by
    simpa using howner
  obtain ⟨hjobs, hmem, hnumber⟩ := jobs_of_query hquery
  obtain ⟨hcanonicalUid, hcanonicalGid, hcanonical⟩ := owner_of_verifiedJob hverified
  obtain ⟨hrecordNumber, hlisted⟩ := mem_of_canonicalRecord ⟨hmem, hnumber⟩ hrecord
  rw [← hcanonical] at hrecordNumber hlisted
  rw [hidentity.2] at hgid hcanonicalGid
  refine { cluster := hcluster
           sender := permits_of_senderIsTrusted (not_not.mp hsender)
           cluster_eq := rfl
           owner_eq := hidentity.1
           reported := ?_
           canonical := ?_ }
  · exact ⟨jobs, hjobs, observed, hmem, hnumber, huid, hgid⟩
  · rcases hlisted with hlisted | ⟨others, hothers, hlisted⟩
    · exact .inl ⟨jobs, hjobs, record, hlisted, hrecordNumber, hcanonicalUid, hcanonicalGid⟩
    · exact .inr ⟨others, hothers, record, hlisted, hrecordNumber, hcanonicalUid, hcanonicalGid⟩

end Establishing

end SlurmVerifier

end QfwSlurm
