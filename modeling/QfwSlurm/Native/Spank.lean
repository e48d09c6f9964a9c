import QfwSlurm.Native.Truthful
import QfwSlurm.Slurm.SubmissionChecks

/-!
# The plugin in the steps of a job

`src/plugin/spank_quantum.c`.  In the command of the user the plugin registers its options, takes
their values and checks them together (`command_checked`).  In a step it asks the gateway for the
reservations of the job, and puts them into the environment of the step.

A step that is launched with `QFW_RESERVATIONS` has found in it what was on record at the gateway
for the allocation of its job, and nothing else of the environment is touched
(`step_environment_onRecord`).
-/

namespace QfwSlurm.Native.Spank

open Wire Interaction

/-! ### What the plugin is given -/

/-- The contexts that the plugin tells apart. -/
inductive Context where
  | allocator
  | remote
  | other
  deriving DecidableEq

/-- How `spank_getenv` fails in a step. -/
inductive GetenvError where
  | noexist
  | nospace
  deriving DecidableEq

/-- The environment of a step. -/
abbrev Environment := List UInt8 → Option (List UInt8)

/-- `spank_getenv` into a buffer of this size. -/
def spankGetenv (environment : Environment) (name : List UInt8) (size : ℕ) :
    Except GetenvError (List UInt8) :=
  match environment name with
  | none => .error .noexist
  | some value => if value.length < size then .ok value else .error .nospace

/-- `spank_setenv`, which overwrites. -/
def spankSetenv (environment : Environment) (name value : List UInt8) : Environment :=
  Function.update environment name (some value)

/-- The step: its environment, the items of `spank_get_item`, the cluster name of the configuration
of Slurm where there is one, the files and users of the host, and what the call of the gateway
finds. -/
structure Step where
  environment : Environment
  jobId : Option UInt32
  jobUid : Option UInt32
  jobGid : Option UInt32
  configuration : Option (List UInt8)
  files : List UInt8 → Option ConfigFile
  getpwnam : List UInt8 → Option ℕ
  calling : Calling
  sets : Bool := true

/-- `QFW_QPU_OPTION_ENV` -/
def qpuOption : List UInt8 := utf8 "_SLURM_SPANK_OPTION_spank_quantum_qpu"

/-- `"QFW_RESERVATIONS"` -/
def qfwReservations : List UInt8 := utf8 "QFW_RESERVATIONS"

/-- A message of `slurm_error`. -/
def slurmError (message : List UInt8) : List UInt8 := utf8 "spank_quantum: " ++ message

/-! ### The plugin -/

/-- The static variables. -/
structure Plugin where
  quantumOptions : QuantumOptions := {}
  configPath : List UInt8 := utf8 "/etc/openqse/qfw-slurm/plugin.conf"

/-- What a hook leaves: whether it returns `SLURM_SUCCESS`, the static variables, the environment,
and the messages. -/
structure Hook where
  succeeds : Bool
  plugin : Plugin
  environment : Environment
  errors : List (List UInt8) := []

/-- `parse_arguments`: whether it succeeds, and `config_path`. -/
def parseArguments (configPath : List UInt8) : List (List UInt8) → Bool × List UInt8
  | [] => (true, configPath)
  | argument :: arguments =>
    let path := argument.drop (utf8 "config=").length
    if argument.take (utf8 "config=").length ≠ utf8 "config=" ∨ path = [] ∨ 4096 ≤ path.length then
      (false, configPath)
    else parseArguments path arguments

/-- `cluster_name` -/
def clusterName (configuration : Option (List UInt8)) : Option (List UInt8) :=
  match configuration with
  | none => none
  | some name =>
    if maxClusterName + 1 ≤ (C.stringOf name).length then none else some (C.stringOf name)

/-- The job and the user of the step, and the name of the cluster. -/
def Step.identity (step : Step) : Option (List UInt8 × ℕ × ℕ × ℕ) := do
  let jobId ← step.jobId
  let jobUid ← step.jobUid
  let jobGid ← step.jobGid
  return (← clusterName step.configuration, jobId.toNat, jobUid.toNat, jobGid.toNat)

/-- `inject_reservation_context` -/
def injectReservationContext (plugin : Plugin) (step : Step) : Except C.Stop Hook :=
  let failed (errors : List (List UInt8)) : Hook := ⟨false, plugin, step.environment, errors⟩
  match spankGetenv step.environment qpuOption (maxResourceName + 1) with
  | .error .noexist => .ok ⟨true, plugin, step.environment, []⟩
  | .error .nospace => .ok (failed [])
  | .ok optionValue =>
    if optionValue = [] then .ok (failed [])
    else
      match step.identity with
      | none => .ok (failed [])
      | some (cluster, jobId, jobUid, jobGid) =>
        match loadClient step.getpwnam (step.files plugin.configPath) with
        | .error error => .ok (failed [slurmError (utf8 error)])
        | .ok (_, client) => do
          let result ← client.qfwGetReservationsOperation step.calling cluster jobId jobUid jobGid
          if result.state ≠ .accepted then
            return failed [slurmError (utf8 "reservation lookup failed: " ++
              if result.diagnostic = [] then utf8 "unknown error" else result.diagnostic)]
          else if ¬ step.sets then return failed []
          else
            return ⟨true, plugin, spankSetenv step.environment qfwReservations
              (C.stringOf result.reservationsJson), []⟩

/-- `option_callback` -/
def optionCallback (plugin : Plugin) (field : OptionField) (argument : List UInt8) (step : Step) :
    Hook :=
  match qfwQuantumOptionsSet plugin.quantumOptions field argument with
  | (.ok (), options) => ⟨true, { plugin with quantumOptions := options }, step.environment, []⟩
  | (.error message, options) =>
    ⟨false, { plugin with quantumOptions := options }, step.environment,
      [slurmError (utf8 message)]⟩

/-- `slurm_spank_init`; `registers` is whether `spank_option_register` accepts all options. -/
def slurmSpankInit (plugin : Plugin) (context : Context) (registers : Bool)
    (arguments : List (List UInt8)) (step : Step) : Except C.Stop Hook :=
  let (parsed, configPath) := parseArguments plugin.configPath arguments
  let plugin : Plugin := ⟨{}, configPath⟩
  if parsed = false then
    .ok ⟨false, plugin, step.environment, [slurmError (utf8 "invalid config argument")]⟩
  else
    match context with
    | .remote => injectReservationContext plugin step
    | .allocator => .ok ⟨registers, plugin, step.environment, []⟩
    | .other => .ok ⟨true, plugin, step.environment, []⟩

/-- `slurm_spank_init_post_opt` -/
def slurmSpankInitPostOpt (plugin : Plugin) (context : Context) (step : Step) : Hook :=
  if context ≠ .allocator ∨ plugin.quantumOptions.active = false then
    ⟨true, plugin, step.environment, []⟩
  else
    match qfwQuantumOptionsValidate plugin.quantumOptions with
    | .ok () => ⟨true, plugin, step.environment, []⟩
    | .error message => ⟨false, plugin, step.environment, [slurmError (utf8 message)]⟩

/-- `slurm_spank_exit` -/
def slurmSpankExit (plugin : Plugin) (step : Step) : Hook :=
  ⟨true, { plugin with quantumOptions := {} }, step.environment, []⟩

/-! ### The command of the user -/

/-- The callbacks of the options that a command has, up to the first that fails. -/
def optionCallbacks (plugin : Plugin) (step : Step) : List (OptionField × List UInt8) → Hook
  | [] => ⟨true, plugin, step.environment, []⟩
  | (field, argument) :: given =>
    let hook := optionCallback plugin field argument step
    if hook.succeeds = true then optionCallbacks hook.plugin step given else hook

/-- The hooks in the command of the user, up to the first that fails. -/
def commandHooks (plugin : Plugin) (arguments : List (List UInt8)) (step : Step)
    (given : List (OptionField × List UInt8)) : Except C.Stop Hook := do
  let hook ← slurmSpankInit plugin .allocator true arguments step
  if hook.succeeds = false then return hook
  let hook := optionCallbacks hook.plugin step given
  if hook.succeeds = false then return hook
  return slurmSpankInitPostOpt hook.plugin .allocator step

section Commands

variable {plugin : Plugin} {step : Step} {given : List (OptionField × List UInt8)}

/-- Options that are all set are there after the callbacks. -/
lemma optionCallbacks_of_ok {options : QuantumOptions}
    (h : setOptions plugin.quantumOptions given = .ok options) :
    optionCallbacks plugin step given =
      ⟨true, { plugin with quantumOptions := options }, step.environment, []⟩ := by
  induction given generalizing plugin with
  | nil =>
    obtain rfl := Except.ok.inj h
    rfl
  | cons option given ih =>
    obtain ⟨field, argument⟩ := option
    rw [setOptions] at h
    rw [optionCallbacks, optionCallback]
    rcases hset : qfwQuantumOptionsSet plugin.quantumOptions field argument with
      ⟨message | _, options'⟩
    · rw [hset] at h
      cases h
    · rw [hset] at h
      exact ih h

/-- The callback of the first option that is not set fails, with its message. -/
lemma optionCallbacks_of_error {message : String}
    (h : setOptions plugin.quantumOptions given = .error message) :
    ∃ options, optionCallbacks plugin step given = ⟨false, { plugin with quantumOptions := options },
      step.environment, [slurmError (utf8 message)]⟩ := by
  induction given generalizing plugin with
  | nil => cases h
  | cons option given ih =>
    obtain ⟨field, argument⟩ := option
    rw [setOptions] at h
    rw [optionCallbacks, optionCallback]
    rcases hset : qfwQuantumOptionsSet plugin.quantumOptions field argument with
      ⟨failure | _, options⟩
    · rw [hset] at h
      obtain rfl := Except.error.inj h
      exact ⟨options, rfl⟩
    · rw [hset] at h
      exact ih h

/-- The last hook passes the options that are valid together. -/
lemma slurmSpankInitPostOpt_spec (plugin : Plugin) (step : Step) :
    (slurmSpankInitPostOpt plugin .allocator step).environment = step.environment ∧
      (slurmSpankInitPostOpt plugin .allocator step).plugin = plugin ∧
      ((slurmSpankInitPostOpt plugin .allocator step).succeeds = true ↔
        qfwQuantumOptionsValidate plugin.quantumOptions = .ok ()) := by
  unfold slurmSpankInitPostOpt
  by_cases hactive : plugin.quantumOptions.active = false
  · rw [if_pos (.inr hactive), qfwQuantumOptionsValidate, if_pos (by simp [hactive])]
    exact ⟨rfl, rfl, iff_of_true rfl rfl⟩
  · rw [if_neg (not_or.mpr ⟨by decide, hactive⟩)]
    rcases qfwQuantumOptionsValidate plugin.quantumOptions with message | _
    · exact ⟨rfl, rfl, iff_of_false Bool.false_ne_true (by simp)⟩
    · exact ⟨rfl, rfl, iff_of_true rfl rfl⟩

/-- A command of the user, whatever the plugin was used for before: with arguments that it can parse,
the plugin lets the command go on exactly when all its options are set and valid together, and
leaves the environment alone.  After `slurm_spank_exit` the next command is checked as the first. -/
theorem command_checked (plugin : Plugin) (arguments : List (List UInt8)) (step : Step)
    (given : List (OptionField × List UInt8))
    (hparsed : (parseArguments plugin.configPath arguments).1 = true) :
    ∃ hook, commandHooks plugin arguments step given = .ok hook ∧
      hook.environment = step.environment ∧
      (hook.succeeds = true ↔ AllocatorAccepts given) ∧
      ∀ later, commandHooks (slurmSpankExit hook.plugin step).plugin arguments step later =
        commandHooks ⟨{}, hook.plugin.configPath⟩ arguments step later := by
  obtain ⟨configPath, hpath⟩ : ∃ configPath,
      parseArguments plugin.configPath arguments = (true, configPath) :=
    ⟨_, Prod.ext hparsed rfl⟩
  have hinit : slurmSpankInit plugin .allocator true arguments step =
      .ok ⟨true, ⟨{}, configPath⟩, step.environment, []⟩ := by
    rw [slurmSpankInit, hpath]
    rfl
  have hhooks : commandHooks plugin arguments step given =
      if (optionCallbacks ⟨{}, configPath⟩ step given).succeeds = false then
        .ok (optionCallbacks ⟨{}, configPath⟩ step given)
      else .ok (slurmSpankInitPostOpt (optionCallbacks ⟨{}, configPath⟩ step given).plugin
        .allocator step) := by
    rw [commandHooks, hinit]
    rfl
  cases hset : setOptions {} given with
  | error message =>
    obtain ⟨options, hcallbacks⟩ : ∃ options, optionCallbacks ⟨{}, configPath⟩ step given =
        ⟨false, ⟨options, configPath⟩, step.environment, [slurmError (utf8 message)]⟩ :=
      optionCallbacks_of_error hset
    rw [hcallbacks, if_pos rfl] at hhooks
    refine ⟨_, hhooks, rfl, iff_of_false Bool.false_ne_true ?_, fun later => rfl⟩
    rintro ⟨found, hfound, -⟩
    cases hset.symm.trans hfound
  | ok options =>
    have hcallbacks : optionCallbacks ⟨{}, configPath⟩ step given =
        ⟨true, ⟨options, configPath⟩, step.environment, []⟩ :=
      optionCallbacks_of_ok hset
    obtain ⟨henvironment, hplugin, hsucceeds⟩ :=
      slurmSpankInitPostOpt_spec ⟨options, configPath⟩ step
    rw [hcallbacks, if_neg (by simp)] at hhooks
    refine ⟨_, hhooks, henvironment, ?_, fun later => ?_⟩
    · rw [hsucceeds]
      constructor
      · exact fun hvalid => ⟨options, hset, hvalid⟩
      · rintro ⟨found, hfound, hvalid⟩
        obtain rfl := Except.ok.inj (hset.symm.trans hfound)
        exact hvalid
    · rw [hplugin]
      rfl

end Commands

/-! ### The environment of a step -/

section Environments

variable {plugin : Plugin} {step : Step} {hook : Hook}

/-- `spank_getenv` finds values that fit the buffer. -/
lemma spankGetenv_eq_ok {environment : Environment} {name value : List UInt8} {size : ℕ}
    (h : spankGetenv environment name size = .ok value) :
    environment name = some value ∧ value.length < size := by
  unfold spankGetenv at h
  cases hvalue : environment name with
  | none =>
    rw [hvalue] at h
    cases h
  | some found =>
    rw [hvalue] at h
    dsimp only at h
    split_ifs at h with hfits
    obtain rfl := Except.ok.inj h
    exact ⟨rfl, hfits⟩

lemma spankGetenv_eq_noexist {environment : Environment} {name : List UInt8} {size : ℕ}
    (h : spankGetenv environment name size = .error .noexist) : environment name = none := by
  unfold spankGetenv at h
  cases hvalue : environment name with
  | none => rfl
  | some found =>
    rw [hvalue] at h
    dsimp only at h
    split_ifs at h
    cases Except.error.inj h

/-- The name of the cluster is a string, and not too long for a message. -/
lemma clusterName_spec {configuration : Option (List UInt8)} {cluster : List UInt8}
    (h : clusterName configuration = some cluster) :
    0 ∉ cluster ∧ cluster.length ≤ maxClusterName := by
  cases configuration with
  | none => cases h
  | some name =>
    rw [clusterName] at h
    split_ifs at h with hlong
    obtain rfl := Option.some.inj h
    refine ⟨fun hmem => ?_, by omega⟩
    simpa using List.mem_takeWhile_imp hmem

/-- The identity of a step is in the range of its types. -/
lemma Step.identity_spec {cluster : List UInt8} {jobId jobUid jobGid : ℕ}
    (h : step.identity = some (cluster, jobId, jobUid, jobGid)) :
    0 ∉ cluster ∧ jobId < 2 ^ 32 ∧ jobUid < 2 ^ 32 ∧ jobGid < 2 ^ 32 := by
  rw [Step.identity] at h
  obtain ⟨id, -, h⟩ := Option.bind_eq_some_iff.mp h
  obtain ⟨uid, -, h⟩ := Option.bind_eq_some_iff.mp h
  obtain ⟨gid, -, h⟩ := Option.bind_eq_some_iff.mp h
  obtain ⟨name, hname, h⟩ := Option.bind_eq_some_iff.mp h
  cases h
  exact ⟨(clusterName_spec hname).1, id.toNat_lt, uid.toNat_lt, gid.toNat_lt⟩

/-- How a step is launched with reservations: the option was given and fits the buffer, and the
lookup of its job was accepted. -/
structure Injected (plugin : Plugin) (step : Step) (hook : Hook) (client : GatewayClient)
    (identity : List UInt8 × ℕ × ℕ × ℕ) (outcome : LookupOutcome) : Prop where
  given : ∃ text, step.environment qpuOption = some text ∧ text ≠ [] ∧ text.length ≤ maxResourceName
  loaded : ∃ config, loadClient step.getpwnam (step.files plugin.configPath) = .ok (config, client)
  identified : step.identity = some identity
  lookup : client.qfwGetReservationsOperation step.calling identity.1 identity.2.1 identity.2.2.1
    identity.2.2.2 = .ok outcome
  accepted : outcome.state = .accepted
  environment : hook.environment = spankSetenv step.environment qfwReservations
    (C.stringOf outcome.reservationsJson)

/-- What `inject_reservation_context` does to the environment. -/
lemma injectReservationContext_cases (h : injectReservationContext plugin step = .ok hook) :
    hook.plugin = plugin ∧
      (hook.succeeds = false ∧ hook.environment = step.environment ∨
      hook.succeeds = true ∧ step.environment qpuOption = none ∧
        hook.environment = step.environment ∨
      hook.succeeds = true ∧ ∃ client identity outcome,
        Injected plugin step hook client identity outcome) := by
  unfold injectReservationContext at h
  dsimp only at h
  cases hgetenv : spankGetenv step.environment qpuOption (maxResourceName + 1) with
  | error error =>
    rw [hgetenv] at h
    cases error with
    | noexist =>
      rw [← Except.ok.inj h]
      exact ⟨rfl, .inr (.inl ⟨rfl, spankGetenv_eq_noexist hgetenv, rfl⟩)⟩
    | nospace =>
      rw [← Except.ok.inj h]
      exact ⟨rfl, .inl ⟨rfl, rfl⟩⟩
  | ok text =>
  rw [hgetenv] at h
  dsimp only at h
  by_cases hempty : text = []
  · rw [if_pos hempty] at h
    rw [← Except.ok.inj h]
    exact ⟨rfl, .inl ⟨rfl, rfl⟩⟩
  rw [if_neg hempty] at h
  cases hidentity : step.identity with
  | none =>
    rw [hidentity] at h
    rw [← Except.ok.inj h]
    exact ⟨rfl, .inl ⟨rfl, rfl⟩⟩
  | some identity =>
  rw [hidentity] at h
  dsimp only at h
  cases hclient : loadClient step.getpwnam (step.files plugin.configPath) with
  | error error =>
    rw [hclient] at h
    rw [← Except.ok.inj h]
    exact ⟨rfl, .inl ⟨rfl, rfl⟩⟩
  | ok loaded =>
  rw [hclient] at h
  obtain ⟨outcome, houtcome, h⟩ := bind_eq_ok_iff.mp h
  by_cases haccepted : outcome.state = .accepted
  swap
  · rw [if_pos haccepted] at h
    rw [← Except.ok.inj h]
    exact ⟨rfl, .inl ⟨rfl, rfl⟩⟩
  rw [if_neg (not_not.mpr haccepted)] at h
  by_cases hsets : step.sets = true
  · rw [if_neg (not_not.mpr hsets)] at h
    obtain ⟨htext, hfits⟩ := spankGetenv_eq_ok hgetenv
    rw [← Except.ok.inj h]
    exact ⟨rfl, .inr (.inr ⟨rfl, loaded.2, identity, outcome,
      ⟨text, htext, hempty, Nat.lt_succ_iff.mp hfits⟩, ⟨loaded.1, hclient⟩, hidentity, houtcome,
      haccepted, rfl⟩)⟩
  · rw [if_pos hsets] at h
    rw [← Except.ok.inj h]
    exact ⟨rfl, .inl ⟨rfl, rfl⟩⟩

end Environments

/-- The plugin in a step sets `QFW_RESERVATIONS` and no other variable, and where it fails it sets
nothing.  A step that it lets start was given no `--qpu`, or finds in `QFW_RESERVATIONS` the
document of exactly the reservations that were on record, when the gateway served the lookup, for
the allocation of the job that Slurm vouched for.  MUNGE is relied on, and nobody else uses the
correlation id of the lookup. -/
theorem step_environment_onRecord (plugin : Plugin) (registers : Bool)
    (arguments : List (List UInt8)) (step : Step) (hook : Hook)
    (h : slurmSpankInit plugin .remote registers arguments step = .ok hook) :
    (hook.succeeds = false → hook.environment = step.environment) ∧
    (hook.succeeds = true →
      step.environment qpuOption = none ∧ hook.environment = step.environment ∨
      ∃ text settings client cluster jobId jobUid jobGid document,
        step.environment qpuOption = some text ∧ text ≠ [] ∧ text.length ≤ maxResourceName ∧
        loadClient step.getpwnam (step.files hook.plugin.configPath) = .ok (settings, client) ∧
        step.identity = some (cluster, jobId, jobUid, jobGid) ∧
        hook.environment = spankSetenv step.environment qfwReservations document ∧
        ∀ sha256 config j run uid,
          Attested sha256 config client j run step.calling.around →
          (∀ frame, qsgpEncodeGetReservationsRequest
              (GatewayClient.lookupOf cluster jobId jobUid jobGid) (step.calling.correlation
                (GatewayClient.lookupOf cluster jobId jobUid jobGid).requestId) = .ok frame →
            OnlyMessage (networkAfter sha256 config client.expectedMungeUid j run).issued config
              (step.calling.correlation
                (GatewayClient.lookupOf cluster jobId jobUid jobGid).requestId) uid frame) →
          ∃ before connection rest name job pairs sorted,
            run = before ++ Occurrence.connects connection :: rest ∧ utf8 name = cluster ∧
            connection.oracle 0 (.verifyLookup
              ⟨(GatewayClient.lookupOf cluster jobId jobUid jobGid).requestId, name, jobId, jobUid,
                jobGid⟩ uid) = .ok job ∧
            (networkAfter sha256 config client.expectedMungeUid j before).state.OnRecord
              ⟨name, job.canonicalJobId⟩ job.uid job.gid pairs ∧
            sorted.Perm pairs ∧
            (sorted.Pairwise fun left right => idKey left < idKey right) ∧
            document = bytesOf (environmentText sorted)) := by
  unfold slurmSpankInit at h
  dsimp only at h
  by_cases hparsed : (parseArguments plugin.configPath arguments).1 = false
  · rw [if_pos hparsed] at h
    obtain rfl := Except.ok.inj h
    exact ⟨fun _ => rfl, fun hsucceeds => absurd hsucceeds Bool.false_ne_true⟩
  rw [if_neg hparsed] at h
  obtain ⟨hplugin, hcases⟩ := injectReservationContext_cases h
  rcases hcases with ⟨hfails, hsame⟩ | ⟨hsucceeds, hnone, hsame⟩ |
    ⟨hsucceeds, client, ⟨cluster, jobId, jobUid, jobGid⟩, outcome, hinjected⟩
  · exact ⟨fun _ => hsame, fun hsucceeds => absurd (hfails.symm.trans hsucceeds) (by decide)⟩
  · exact ⟨fun hfails => absurd (hfails.symm.trans hsucceeds) (by decide),
      fun _ => .inl ⟨hnone, hsame⟩⟩
  refine ⟨fun hfails => absurd (hfails.symm.trans hsucceeds) (by decide), fun _ => .inr ?_⟩
  obtain ⟨text, htext, hne, hlength⟩ := hinjected.given
  obtain ⟨settings, hloaded⟩ := hinjected.loaded
  obtain ⟨hplain, hjob, huid, hgid⟩ := Step.identity_spec hinjected.identified
  refine ⟨text, settings, client, cluster, jobId, jobUid, jobGid, _, htext, hne, hlength,
    hplugin ▸ hloaded, hinjected.identified, hinjected.environment, ?_⟩
  intro sha256 config j run uid hattested honly
  obtain ⟨before, connection, rest, name, job, pairs, hrun, hname, hverified, hrecord, sorted,
    hperm, hsorted, hdocument⟩ := lookup_onRecord hattested hplain (by omega) huid hgid honly
      hinjected.lookup hinjected.accepted
  exact ⟨before, connection, rest, name, job, pairs, sorted, hrun, hname, hverified, hrecord,
    hperm, hsorted, hdocument⟩

/-! ### A step of a job with a reservation -/

/-- The file of the plugin. -/
def sampleSettings : ConfigFile where
  content := utf8 ("[gateway]\nhost=gateway\nport=18095\nexpected_munge_uid=991\n" ++
    "[resource \"a\"]\nservice_id=qpm-a\n")

def sampleLookup : QsgpGetReservationsRequest :=
  GatewayClient.lookupOf (utf8 "cluster") 7 1000 1000

/-- The request of `slurmstepd`. -/
def sampleLookupCredential : Credential ℕ (List UInt8) (List UInt8) :=
  sampleCredentialOf 0 (.getReservations sampleLookup) (correlationId sampleLookup.requestId 1 none)

/-- A step of the job. -/
def sampleStep : Step where
  environment := Function.update (fun _ => none) qpuOption (some (utf8 "a"))
  jobId := some 7
  jobUid := some 1000
  jobGid := some 1000
  configuration := some (utf8 "cluster")
  files _ := some sampleSettings
  getpwnam _ := none
  calling := sampleCallingOf (sampleIssuedOf sampleAccepted sampleLookupCredential) 0

lemma loadClient_sampleStep : ∃ settings,
    loadClient (fun _ => none) (some sampleSettings) = .ok (settings, sampleCaller "gateway") := by
  have hfound : (loadClient (fun _ => none) (some sampleSettings)).toOption.map Prod.snd =
      some (sampleCaller "gateway") := by
    decide +kernel
  obtain ⟨loaded, hloaded, hclient⟩ := Option.map_eq_some_iff.mp hfound
  exact ⟨loaded.1, hclient ▸ toOption_eq_some_iff.mp hloaded⟩

/-- No credential in circulation has another message of an accepted user. -/
lemma sampleLookup_only : ∀ credential ∈ sampleIssuedOf sampleAccepted sampleLookupCredential,
    credential.principal ∈ sampleGatewayConfig.acceptedUids →
      credential.principal = 0 ∧ credential.message = sampleLookupCredential.message := by
  intro credential hmem haccepted
  obtain rfl := eq_of_accepted_pair (by decide) hmem haccepted
  exact ⟨rfl, rfl⟩

lemma encode_sampleLookup :
    qsgpEncodeGetReservationsRequest sampleLookup
      (sampleStep.calling.correlation sampleLookup.requestId) =
        .ok sampleLookupCredential.message := by
  decide +kernel

/-- The step starts, and what it finds was on record. -/
theorem step_environment_onRecord_sample :
    ∃ hook, slurmSpankInit {} .remote true [] sampleStep = .ok hook ∧ hook.succeeds = true ∧
      ∃ before connection rest pairs sorted, ∃ job : VerifiedJob,
        sampleRunOf sampleLookupCredential = before ++ Occurrence.connects connection :: rest ∧
        (networkAfter sampleDigest sampleGatewayConfig 991 sampleAccepted before).state.OnRecord
          ⟨"cluster", job.canonicalJobId⟩ job.uid job.gid pairs ∧
        sorted.Perm pairs ∧
        hook.environment qfwReservations = some (bytesOf (environmentText sorted)) := by
  have hsome : ((slurmSpankInit {} .remote true [] sampleStep).toOption.map Hook.succeeds) =
      some true := by
    decide +kernel
  obtain ⟨hook, hok, hsucceeds⟩ := Option.map_eq_some_iff.mp hsome
  have hinit := toOption_eq_some_iff.mp hok
  refine ⟨hook, hinit, hsucceeds, ?_⟩
  rcases (step_environment_onRecord {} true [] sampleStep hook hinit).2 hsucceeds with
    ⟨hnone, -⟩ | ⟨text, settings, client, cluster, jobId, jobUid, jobGid, document, -, -, -,
      hclient, hidentity, henvironment, hfound⟩
  · cases hnone
  obtain ⟨settings', hloaded⟩ := loadClient_sampleStep
  obtain ⟨-, rfl⟩ := Prod.mk.inj (Except.ok.inj (hclient.symm.trans hloaded))
  have hsame : sampleStep.identity = some (utf8 "cluster", 7, 1000, 1000) := by decide
  cases hidentity.symm.trans hsame
  have hattested := attested_sampleRunOf "gateway" sampleAccepted
    (by decide : sampleLookupCredential.principal ≠ 991) 0
  obtain ⟨before, connection, rest, name, job, pairs, sorted, hrun, hname, -, hrecord, hperm, -,
    rfl⟩ := hfound sampleDigest sampleGatewayConfig sampleAccepted
      (sampleRunOf sampleLookupCredential) 0 hattested
      fun frame hframe credential hmem haccepted _ => by
        obtain rfl := Except.ok.inj (hframe.symm.trans encode_sampleLookup)
        exact sampleLookup_only credential hmem haccepted
  obtain rfl := utf8_injective hname
  refine ⟨before, connection, rest, pairs, sorted, job, hrun, hrecord, hperm, ?_⟩
  rw [henvironment]
  exact Function.update_self _ _ _

end QfwSlurm.Native.Spank
