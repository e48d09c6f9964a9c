import QfwSlurm.C.Getopt
import QfwSlurm.Native.BuiltRequest

/-!
# The options of the driver

`parse_options` reads the command line of `qfw-slurm-driver`: the options of the allocation, each
with the range of its type, and the quantum options, which go through `qfw_quantum_options_set`.
What it accepts is `readAll_eq_ok_iff` for the options one by one, and `checkOptions` for all of
them.
-/

namespace QfwSlurm.Driver

open Native

/-- `enum driver_command` -/
inductive Command where
  | evaluate
  | reserve
  | release
  | getReservations
  | lifecycle
  deriving DecidableEq

/-- `struct driver_options` -/
structure Options where
  command : Command
  configPath : Option (List UInt8) := none
  allocation : AllocationContext := {}
  quantum : QuantumOptions := {}
  releaseReason : ℕ := 0
  holdSeconds : ℕ := 0
  hasCluster : Bool := false
  hasJobId : Bool := false
  hasUid : Bool := false
  hasGid : Bool := false
  hasEpoch : Bool := false
  hasWalltime : Bool := false
  hasHeteroJob : Bool := false
  hasHeteroComponent : Bool := false
  json : Bool := false

/-- The value by which `getopt_long` returns an option. -/
inductive OptionCode where
  | config
  | cluster
  | jobId
  | uid
  | gid
  | epoch
  | walltime
  | heteroJob
  | heteroComponent
  | releaseReason
  | holdSeconds
  | quantum (field : OptionField)
  | json
  | help
  deriving DecidableEq

/-- Why `parse_options` does not return zero. -/
inductive Refused where
  /-- The usage is printed, and the result is 1. -/
  | usage
  /-- The result is -1, after a message where there is one. -/
  | invalid (message : Option String)
  deriving DecidableEq

/-- `command_from_name` -/
def commandFromName (name : List UInt8) : Option Command :=
  if name = utf8 "evaluate" then some .evaluate
  else if name = utf8 "reserve" then some .reserve
  else if name = utf8 "release" then some .release
  else if name = utf8 "get-reservations" then some .getReservations
  else if name = utf8 "lifecycle" then some .lifecycle
  else none

/-- The long name of a quantum option. -/
def quantumName : OptionField → String
  | .qpu => "qpu"
  | .workloadKind => "workload-kind"
  | .circuitCount => "circ-count"
  | .maxQubits => "max-qubits"
  | .maxDepth => "max-depth"
  | .maxShots => "max-shots"
  | .maxOneQGates => "max-one-q-gates"
  | .maxTwoQGates => "max-two-q-gates"
  | .maxMeasurements => "max-measurements"

/-- A quantum option, whose argument is required. -/
def quantumOption (field : OptionField) : C.LongOption OptionCode :=
  ⟨utf8 (quantumName field), true, .quantum field⟩

/-- `long_options`, and `"c:jh"`. -/
def optionTable : C.Getopt OptionCode where
  long := [⟨utf8 "config", true, .config⟩, ⟨utf8 "cluster", true, .cluster⟩,
    ⟨utf8 "job-id", true, .jobId⟩, ⟨utf8 "uid", true, .uid⟩, ⟨utf8 "gid", true, .gid⟩,
    ⟨utf8 "allocation-epoch", true, .epoch⟩, ⟨utf8 "walltime-seconds", true, .walltime⟩,
    ⟨utf8 "hetero-job-id", true, .heteroJob⟩, ⟨utf8 "hetero-component", true, .heteroComponent⟩,
    ⟨utf8 "release-reason", true, .releaseReason⟩, ⟨utf8 "hold-seconds", true, .holdSeconds⟩,
    quantumOption .qpu, quantumOption .workloadKind, quantumOption .circuitCount,
    quantumOption .maxQubits, quantumOption .maxDepth, quantumOption .maxShots,
    quantumOption .maxOneQGates, quantumOption .maxTwoQGates, quantumOption .maxMeasurements,
    ⟨utf8 "json", false, .json⟩, ⟨utf8 "help", false, .help⟩]
  short := [⟨99, true, .config⟩, ⟨106, false, .json⟩, ⟨104, false, .help⟩]

/-- A number is stored, with the flag that it is there. -/
def Options.store (options : Options) (number : ℕ) : OptionCode → Options
  | .jobId => { options with
      allocation := { options.allocation with canonicalJobId := number }, hasJobId := true }
  | .uid => { options with
      allocation := { options.allocation with jobUid := number }, hasUid := true }
  | .gid => { options with
      allocation := { options.allocation with jobGid := number }, hasGid := true }
  | .epoch => { options with
      allocation := { options.allocation with allocationEpoch := number }, hasEpoch := true }
  | .walltime => { options with
      allocation := { options.allocation with walltimeNs := number * 1000000000 },
      hasWalltime := true }
  | .heteroJob => { options with
      allocation := { options.allocation with heteroJobId := number }, hasHeteroJob := true }
  | .heteroComponent => { options with
      allocation := { options.allocation with heteroComponent := number },
      hasHeteroComponent := true }
  | .releaseReason => { options with releaseReason := number }
  | .holdSeconds => { options with holdSeconds := number }
  | .config | .cluster | .quantum _ | .json | .help => options

/-- A number is parsed, checked and stored. -/
def readNumber (parse : List UInt8 → Option ℕ) (isValid : ℕ → Bool) (options : Options)
    (code : OptionCode) (optarg : List UInt8) : Except Refused Options :=
  match parse optarg with
  | none => .error (.invalid none)
  | some parsed =>
    if isValid parsed then .ok (options.store parsed code) else .error (.invalid none)

/-- `copy_cluster` -/
def copyCluster (options : Options) (value : List UInt8) : Except Refused Options :=
  if value = [] ∨ maxClusterName < value.length then .error (.invalid none)
  else .ok { options with
    allocation := { options.allocation with clusterName := value }, hasCluster := true }

/-- `set_quantum_option` -/
def setQuantumOption (options : Options) (field : OptionField) (value : List UInt8) :
    Except Refused Options :=
  match qfwQuantumOptionsSet options.quantum field value with
  | (.ok (), quantum) => .ok { options with quantum := quantum }
  | (.error message, _) => .error (.invalid (some ("qfw-slurm-driver: " ++ message)))

/-- The longest time in seconds whose nanoseconds are a `uint64_t`. -/
def maxWalltimeSeconds : ℕ := (2 ^ 64 - 1) / 1000000000

/-- The body of the loop of `parse_options`; `parse_u64` and `parse_u32` are those of the quantum
options. -/
def readOption (options : Options) (code : OptionCode) (optarg : List UInt8) :
    Except Refused Options :=
  match code with
  | .config => .ok { options with configPath := some optarg }
  | .json => .ok { options with json := true }
  | .help => .error .usage
  | .cluster => copyCluster options optarg
  | .jobId | .heteroJob => readNumber parseU64 (· ≠ 0) options code optarg
  | .uid | .gid => readNumber parseU64 (· < 2 ^ 32) options code optarg
  | .epoch | .holdSeconds => readNumber parseU64 (fun _ => true) options code optarg
  | .walltime => readNumber parseU64 (fun parsed => parsed ≠ 0 && parsed ≤ maxWalltimeSeconds)
      options code optarg
  | .heteroComponent | .releaseReason => readNumber parseU32 (fun _ => true) options code optarg
  | .quantum field => setQuantumOption options field optarg

/-- The loop over what `getopt_long` returns, which passes the operands by. -/
def readAll (options : Options) : List (C.Found OptionCode) → Except Refused Options
  | [] => .ok options
  | .operand _ :: found => readAll options found
  | .unknown :: _ => .error (.invalid none)
  | .option code optarg :: found => do readAll (← readOption options code optarg) found

/-- What `parse_options` checks behind the loop. -/
def checkOptions (options : Options) (operands : Bool) : Except Refused Options :=
  if operands ∨ options.configPath = none ∨ ¬ options.hasCluster ∨ ¬ options.hasJobId ∨
      ¬ options.hasUid ∨ ¬ options.hasGid ∨ options.hasHeteroJob ≠ options.hasHeteroComponent then
    .error (.invalid none)
  else if options.command ≠ .getReservations ∧ ¬ options.hasEpoch then .error (.invalid none)
  else
    let options := { options with
      allocation := { options.allocation with hasHetero := options.hasHeteroJob } }
    if options.command ≠ .release ∧ options.command ≠ .getReservations then
      if ¬ options.hasWalltime ∨ ¬ options.quantum.active then .error (.invalid none)
      else
        match qfwQuantumOptionsValidate options.quantum with
        | .ok () => .ok options
        | .error message => .error (.invalid (some ("qfw-slurm-driver: " ++ message)))
    else .ok options

/-- `parse_options` on the words behind the name of the program. -/
def parseOptions (words : List (List UInt8)) : Except Refused Options :=
  if words = [utf8 "--help"] then .error .usage
  else
    match words with
    | [] => .error (.invalid none)
    | name :: words =>
      match commandFromName name with
      | none => .error (.invalid none)
      | some command => do
        let found := optionTable.scan words
        let read ← readAll { command } found
        checkOptions read (found.any C.Found.isOperand)

/-! ### What is accepted -/

/-- The numbers that an option accepts. -/
def OptionCode.InRange : OptionCode → ℕ → Prop
  | .jobId, number | .heteroJob, number => number < 2 ^ 64 ∧ number ≠ 0
  | .uid, number | .gid, number | .heteroComponent, number | .releaseReason, number =>
    number < 2 ^ 32
  | .walltime, number => number ≠ 0 ∧ number ≤ maxWalltimeSeconds
  | .epoch, number | .holdSeconds, number => number < 2 ^ 64
  | .config, _ | .cluster, _ | .quantum _, _ | .json, _ | .help, _ => True

/-- The values that an option other than a quantum option accepts. -/
def OptionCode.Accepts : OptionCode → List UInt8 → Prop
  | .config, _ | .json, _ => True
  | .help, _ | .quantum _, _ => False
  | .cluster, value => value ≠ [] ∧ value.length ≤ maxClusterName
  | code, value => IsNumber value ∧ code.InRange (Native.decimalValue value)

/-- The options with one more value. -/
def Options.put (options : Options) : OptionCode × List UInt8 → Options
  | (.config, value) => { options with configPath := some value }
  | (.json, _) => { options with json := true }
  | (.cluster, value) => { options with
      allocation := { options.allocation with clusterName := value }, hasCluster := true }
  | (code, value) => options.store (Native.decimalValue value) code

lemma readNumber_eq_ok_iff {parse : List UInt8 → Option ℕ} {bound : ℕ} {isValid : ℕ → Bool}
    {options result : Options} {code : OptionCode} {optarg : List UInt8}
    (hparse : ∀ n, parse optarg = some n ↔
      (IsNumber optarg ∧ Native.decimalValue optarg < bound) ∧ n = Native.decimalValue optarg) :
    readNumber parse isValid options code optarg = .ok result ↔
      (IsNumber optarg ∧ Native.decimalValue optarg < bound ∧
        isValid (Native.decimalValue optarg) = true) ∧
        result = options.store (Native.decimalValue optarg) code := by
  unfold readNumber
  rcases hparsed : parse optarg with - | parsed
  · refine iff_of_false nofun ?_
    rintro ⟨⟨hnumber, hbound, -⟩, -⟩
    have hsome := (hparse _).mpr ⟨⟨hnumber, hbound⟩, rfl⟩
    rw [hparsed] at hsome
    cases hsome
  · obtain ⟨⟨hnumber, hbound⟩, rfl⟩ := (hparse _).mp hparsed
    dsimp only
    by_cases hvalid : isValid (Native.decimalValue optarg) = true
    · rw [if_pos hvalid, Except.ok.injEq, eq_comm]
      exact ⟨fun h => ⟨⟨hnumber, hbound, hvalid⟩, h⟩, And.right⟩
    · rw [if_neg hvalid]
      exact iff_of_false nofun fun h => hvalid h.1.2.2

/-- An option other than a quantum option is stored when its value is accepted. -/
lemma readOption_eq_ok_iff {options result : Options} {code : OptionCode} {optarg : List UInt8}
    (hcode : ∀ field, code ≠ .quantum field) :
    readOption options code optarg = .ok result ↔
      code.Accepts optarg ∧ result = options.put (code, optarg) := by
  have hjust {stored : Options} : (.ok stored : Except Refused Options) = .ok result ↔
      True ∧ result = stored := by
    rw [Except.ok.injEq, eq_comm]
    exact ⟨fun h => ⟨trivial, h⟩, And.right⟩
  have hnumber {parse : List UInt8 → Option ℕ} {bound : ℕ} {isValid : ℕ → Bool}
      (hparse : ∀ n, parse optarg = some n ↔
        (IsNumber optarg ∧ Native.decimalValue optarg < bound) ∧ n = Native.decimalValue optarg)
      (hrange : Native.decimalValue optarg < bound ∧ isValid (Native.decimalValue optarg) = true ↔
        code.InRange (Native.decimalValue optarg)) :
      readNumber parse isValid options code optarg = .ok result ↔
        (IsNumber optarg ∧ code.InRange (Native.decimalValue optarg)) ∧
          result = options.store (Native.decimalValue optarg) code := by
    rw [readNumber_eq_ok_iff hparse, hrange]
  have hu64 (n : ℕ) : parseU64 optarg = some n ↔
      (IsNumber optarg ∧ Native.decimalValue optarg < 2 ^ 64) ∧ n = Native.decimalValue optarg :=
    parseU64_eq_some_iff
  have hu32 (n : ℕ) : parseU32 optarg = some n ↔
      (IsNumber optarg ∧ Native.decimalValue optarg < 2 ^ 32) ∧ n = Native.decimalValue optarg :=
    parseU32_eq_some_iff
  have hsmall : Native.decimalValue optarg < 2 ^ 64 ∧
      decide (Native.decimalValue optarg < 2 ^ 32) = true ↔
      Native.decimalValue optarg < 2 ^ 32 := by
    rw [decide_eq_true_iff]
    omega
  have hwalltime {n : ℕ} (h : n ≤ maxWalltimeSeconds) : n < 2 ^ 64 :=
    lt_of_le_of_lt h (by decide)
  cases code with
  | config => exact hjust
  | json => exact hjust
  | help => exact iff_of_false nofun fun h => h.1
  | quantum field => exact absurd rfl (hcode field)
  | cluster =>
    rw [readOption, copyCluster]
    by_cases hbad : optarg = [] ∨ maxClusterName < optarg.length
    · rw [if_pos hbad]
      exact iff_of_false nofun fun h => hbad.elim h.1.1 (not_lt.mpr h.1.2)
    · rw [if_neg hbad, Except.ok.injEq, eq_comm]
      rw [not_or, not_lt] at hbad
      exact ⟨fun h => ⟨hbad, h⟩, And.right⟩
  | jobId => exact hnumber hu64 (and_congr_right fun _ => decide_eq_true_iff)
  | heteroJob => exact hnumber hu64 (and_congr_right fun _ => decide_eq_true_iff)
  | uid => exact hnumber hu64 hsmall
  | gid => exact hnumber hu64 hsmall
  | epoch => exact hnumber hu64 (and_iff_left rfl)
  | holdSeconds => exact hnumber hu64 (and_iff_left rfl)
  | heteroComponent => exact hnumber hu32 (and_iff_left rfl)
  | releaseReason => exact hnumber hu32 (and_iff_left rfl)
  | walltime =>
    refine hnumber hu64 ?_
    rw [Bool.and_eq_true, decide_eq_true_iff, decide_eq_true_iff]
    exact ⟨And.right, fun h => ⟨hwalltime h.2, h⟩⟩

/-- The command line gives these options, each with its value. -/
def foundOptions (given : List (OptionCode × List UInt8)) : List (C.Found OptionCode) :=
  given.map fun option => .option option.1 option.2

lemma any_isOperand_foundOptions (given : List (OptionCode × List UInt8)) :
    (foundOptions given).any C.Found.isOperand = false := by
  rw [foundOptions, List.any_map]
  exact List.any_eq_false.mpr fun option _ => Bool.false_ne_true

lemma readAll_append (options : Options) (given : List (OptionCode × List UInt8))
    (found : List (C.Found OptionCode)) :
    readAll options (foundOptions given ++ found) =
      (readAll options (foundOptions given) >>= fun options => readAll options found) := by
  induction given generalizing options with
  | nil => rfl
  | cons option given ih =>
    obtain ⟨code, optarg⟩ := option
    change (readOption options code optarg >>= fun options =>
      readAll options (foundOptions given ++ found)) =
      ((readOption options code optarg >>= fun options => readAll options (foundOptions given)) >>=
        fun options => readAll options found)
    rw [bind_assoc]
    exact congrArg _ (funext fun options => ih options)

/-- The options are read when each of them is accepted. -/
theorem readAll_eq_ok_iff {options result : Options} {given : List (OptionCode × List UInt8)}
    (hgiven : ∀ option ∈ given, ∀ field, option.1 ≠ .quantum field) :
    readAll options (foundOptions given) = .ok result ↔
      (∀ option ∈ given, option.1.Accepts option.2) ∧ result = given.foldl Options.put options := by
  induction given generalizing options with
  | nil =>
    rw [List.foldl_nil, eq_comm (a := result)]
    exact ⟨fun h => ⟨fun option hoption => absurd hoption List.not_mem_nil, Except.ok.inj h⟩,
      fun h => congrArg _ h.2⟩
  | cons option given ih =>
    obtain ⟨code, optarg⟩ := option
    obtain ⟨hcode, hrest⟩ := List.forall_mem_cons.mp hgiven
    have hread : readAll options (foundOptions ((code, optarg) :: given)) =
        (readOption options code optarg >>= fun options =>
          readAll options (foundOptions given)) := rfl
    rw [hread, bind_eq_ok_iff, List.forall_mem_cons]
    constructor
    · rintro ⟨next, hnext, hread⟩
      obtain ⟨hvalue, rfl⟩ := (readOption_eq_ok_iff hcode).mp hnext
      obtain ⟨hothers, hresult⟩ := (ih hrest).mp hread
      exact ⟨⟨hvalue, hothers⟩, hresult⟩
    · rintro ⟨⟨hvalue, hothers⟩, hresult⟩
      exact ⟨_, (readOption_eq_ok_iff hcode).mpr ⟨hvalue, rfl⟩, (ih hrest).mpr ⟨hothers, hresult⟩⟩

/-- The quantum options go through their setters and change nothing else. -/
theorem readAll_quantum_eq_ok_iff {options result : Options}
    {given : List (OptionField × List UInt8)} :
    readAll options (foundOptions (given.map fun option => (.quantum option.1, option.2))) =
        .ok result ↔
      ∃ quantum, setOptions options.quantum given = .ok quantum ∧
        result = { options with quantum := quantum } := by
  induction given generalizing options with
  | nil =>
    constructor
    · intro h
      exact ⟨options.quantum, rfl, (Except.ok.inj h).symm⟩
    · rintro ⟨quantum, hquantum, rfl⟩
      obtain rfl := Except.ok.inj hquantum
      rfl
  | cons option given ih =>
    obtain ⟨field, value⟩ := option
    have hread : readAll options (foundOptions (((field, value) :: given).map
        fun option => (.quantum option.1, option.2))) =
        (setQuantumOption options field value >>= fun options =>
          readAll options (foundOptions (given.map fun option => (.quantum option.1, option.2)))) :=
      rfl
    rw [hread, setOptions, setQuantumOption]
    rcases qfwQuantumOptionsSet options.quantum field value with ⟨message | ⟨⟩, quantum⟩
    · exact iff_of_false (by rintro ⟨⟩) (by rintro ⟨quantum, hquantum, -⟩; cases hquantum)
    · exact ih

end QfwSlurm.Driver
