import QfwSlurm.Slurm.DriverOptions
import QfwSlurm.Slurm.Helper

/-!
# From the helper's command to the driver's options

`driver_command` prints the numbers of an allocation and the fields of a directive as options, and
`parse_options` reads them.  `parse_driverCommand` says which commands the driver accepts and what
it reads: each number has to be in the range of its type in C, the walltime at most
`maxWalltimeSeconds`, and the fields have to pass the setters of the quantum options.
-/

namespace QfwSlurm.Helper

open Native

/-! ### Decimal numbers -/

lemma utf8_toString_natCast (n : ℕ) : utf8 (toString (n : ℤ)) = bytesOf (Python.decimalText n) := by
  rw [← bytesOf_toList]
  exact congrArg bytesOf (toList_toString n)

/-- The bytes of an ASCII text are its characters. -/
lemma bytesOf_ascii {text : List Char} (h : ∀ c ∈ text, c.toNat < 128) :
    bytesOf text = text.map fun c => UInt8.ofNat c.toNat := by
  rw [bytesOf, List.flatMap_congr fun c hc => utf8EncodeChar_ascii (h c hc)]
  exact List.flatMap_pure_eq_map _ _

/-- The bytes of digits are digits with the same value. -/
lemma decimalValue_bytesOf {digits : List Char} (h : ∀ c ∈ digits, Python.isJsonDigit c = true) :
    (∀ b ∈ bytesOf digits, isDigitByte b = true) ∧
      Native.decimalValue (bytesOf digits) = Python.numberOfDigits digits := by
  have hrange : ∀ c ∈ digits, 48 ≤ c.toNat ∧ c.toNat ≤ 57 := by
    intro c hc
    simpa [Python.isJsonDigit] using h c hc
  have hbyte : ∀ c ∈ digits, (UInt8.ofNat c.toNat).toNat = c.toNat := by
    intro c hc
    have hc := hrange c hc
    rw [UInt8.toNat_ofNat']
    omega
  rw [bytesOf_ascii fun c hc => by have hc := hrange c hc; omega]
  constructor
  · intro b hb
    obtain ⟨c, hc, rfl⟩ := List.mem_map.mp hb
    simpa [isDigitByte, hbyte c hc] using hrange c hc
  · rw [Native.decimalValue, Python.numberOfDigits, List.foldl_map]
    exact List.foldl_ext _ _ _ fun n c hc => by rw [hbyte c hc]

/-- What is printed for a natural number is read as this number. -/
lemma number_toString (n : ℕ) :
    IsNumber (utf8 (toString (n : ℤ))) ∧ Native.decimalValue (utf8 (toString (n : ℤ))) = n := by
  obtain ⟨hdigits, hvalue⟩ := decimalValue_bytesOf fun c hc => Python.isJsonDigit_of_mem (n := n) hc
  rw [utf8_toString_natCast, hvalue, Python.numberOfDigits_decimalText]
  refine ⟨⟨fun hnil => ?_, List.all_eq_true.mpr hdigits⟩, rfl⟩
  obtain ⟨c, rest, hcons⟩ := List.exists_cons_of_ne_nil
    (show Python.decimalText n ≠ [] from Nat.toDigits_ne_nil)
  rw [hcons, bytesOf, List.flatMap_cons, List.append_eq_nil_iff] at hnil
  exact String.utf8EncodeChar_ne_nil hnil.1

/-- What is printed for a negative number is no number for C. -/
lemma not_isNumber_toString {z : ℤ} (hz : z < 0) : ¬ IsNumber (utf8 (toString z)) := by
  obtain ⟨n, rfl⟩ := Int.eq_negSucc_of_lt_zero hz
  have htext : utf8 (toString (Int.negSucc n)) = utf8 "-" ++ utf8 (toString (n + 1)) :=
    utf8_append _ _
  have hminus : utf8 "-" = [45] := by decide +kernel
  rintro ⟨-, hdigits⟩
  rw [htext, hminus] at hdigits
  exact absurd (List.all_eq_true.mp hdigits 45 List.mem_cons_self) (by decide)

/-- A number is accepted when it is a natural number in the range. -/
lemma accepts_toString {code : Driver.OptionCode} {z : ℤ}
    (hcode : ∀ value, code.Accepts value ↔
      IsNumber value ∧ code.InRange (Native.decimalValue value)) :
    code.Accepts (utf8 (toString z)) ↔ 0 ≤ z ∧ code.InRange z.toNat := by
  rw [hcode]
  by_cases hz : 0 ≤ z
  · obtain ⟨n, rfl⟩ := Int.eq_ofNat_of_zero_le hz
    obtain ⟨hnumber, hvalue⟩ := number_toString n
    rw [hvalue]
    exact ⟨fun h => ⟨hz, h.2⟩, fun h => ⟨hnumber, h.2⟩⟩
  · exact iff_of_false (fun h => not_isNumber_toString (not_le.mp hz) h.1) fun h => hz h.1

/-! ### The command line -/

/-- The word of an option. -/
def optionWord : Driver.OptionCode → String
  | .config => "--config"
  | .cluster => "--cluster"
  | .jobId => "--job-id"
  | .uid => "--uid"
  | .gid => "--gid"
  | .epoch => "--allocation-epoch"
  | .walltime => "--walltime-seconds"
  | .heteroJob => "--hetero-job-id"
  | .heteroComponent => "--hetero-component"
  | .releaseReason => "--release-reason"
  | .holdSeconds => "--hold-seconds"
  | .quantum field => "--" ++ Driver.quantumName field
  | .json => "--json"
  | .help => "--help"

/-- The options are written as words that `getopt_long` knows. -/
lemma readWord_optionWord {code : Driver.OptionCode} (hcode : code ≠ .json ∧ code ≠ .help) :
    utf8 (optionWord code) ≠ [45, 45] ∧
      Driver.optionTable.readWord (utf8 (optionWord code)) = ([], some code) := by
  obtain ⟨hjson, hhelp⟩ := hcode
  rcases code with _ | _ | _ | _ | _ | _ | _ | _ | _ | _ | _ | field | _ | _
  case json => exact absurd rfl hjson
  case help => exact absurd rfl hhelp
  case quantum =>
    cases field <;> decide +kernel
  all_goals decide +kernel

/-- The options of the allocation, up to `--json`. -/
def identityOptions (args : Args) (epoch : ℤ) : List (Driver.OptionCode × List UInt8) :=
  [(.config, utf8 args.pluginConfig), (.cluster, utf8 args.cluster),
    (.jobId, utf8 (toString args.canonicalJobId)), (.uid, utf8 (toString args.uid)),
    (.gid, utf8 (toString args.gid)), (.epoch, utf8 (toString epoch))]

/-- The options of a component and of the walltime. -/
def componentOptions (args : Args) : List (Driver.OptionCode × List UInt8) :=
  (if args.hetJobId ≠ 0 then
    [(.heteroJob, utf8 (toString args.jobId)),
      (.heteroComponent, utf8 (toString args.hetComponent))]
  else []) ++ [(Driver.OptionCode.walltime, utf8 (toString args.walltimeSeconds))]

/-- The fields of a directive, in the order of `FIELDS`. -/
def directiveFields : List (String × OptionField) :=
  [("qpu", .qpu), ("workload", .workloadKind), ("circuits", .circuitCount),
    ("qubits", .maxQubits), ("depth", .maxDepth), ("shots", .maxShots), ("oneq", .maxOneQGates),
    ("twoq", .maxTwoQGates), ("measurements", .maxMeasurements)]

/-- The quantum options that a directive gives. -/
def directiveSettings (directive : Directive) : List (OptionField × List UInt8) :=
  directiveFields.flatMap fun (name, field) =>
    match directive.lookup name with
    | some value => [(field, utf8 value)]
    | none => []

/-- The command of the driver. -/
def commandOf : DriverCommand → Driver.Command
  | .evaluate => .evaluate
  | .reserve => .reserve
  | .release => .release

lemma directiveOptions_words (directive : Directive) :
    (directiveOptions directive).map utf8 = (directiveSettings directive).flatMap fun option =>
      [utf8 (optionWord (.quantum option.1)), option.2] := by
  have hoptions : driverOptions = directiveFields.map fun option =>
      (option.1, optionWord (.quantum option.2)) := by decide +kernel
  rw [directiveOptions, directiveSettings, hoptions, List.flatMap_map, List.map_flatMap,
    List.flatMap_assoc]
  refine List.flatMap_congr fun option _ => ?_
  dsimp only
  rcases directive.lookup option.1 with _ | value <;> rfl

/-- Options as two words each. -/
def pairWords (given : List (Driver.OptionCode × List UInt8)) : List (List UInt8) :=
  given.flatMap fun option => [utf8 (optionWord option.1), option.2]

lemma scan_pairWords {given : List (Driver.OptionCode × List UInt8)}
    (hgiven : ∀ option ∈ given, option.1 ≠ .json ∧ option.1 ≠ .help) (rest : List (List UInt8)) :
    Driver.optionTable.scan (pairWords given ++ rest) =
      Driver.foundOptions given ++ Driver.optionTable.scan rest :=
  C.Getopt.scan_pairs (fun option hoption => readWord_optionWord (hgiven option hoption)) rest

/-- The quantum options as options of the command line. -/
def quantumGiven (settings : List (OptionField × List UInt8)) :
    List (Driver.OptionCode × List UInt8) :=
  settings.map fun option => (.quantum option.1, option.2)

/-- The words of a command behind the operation. -/
lemma words_driverCommand {args : Args} {operation : DriverCommand} {directive : Directive}
    {command : List String} {epoch : ℤ}
    (h : driverCommand args operation (some directive) = .ok (command, epoch)) :
    allocationEpoch args.submitTime args.restartCount = .ok epoch ∧
      command.tail.map utf8 = utf8 operation.text :: (pairWords (identityOptions args epoch) ++
        (utf8 "--json" :: (pairWords (componentOptions args) ++
          (pairWords (quantumGiven (directiveSettings directive)) ++ [])))) := by
  obtain ⟨value, hepoch, h⟩ := bind_eq_ok_iff.mp h
  obtain ⟨rfl, rfl⟩ := Prod.mk.inj (Except.ok.inj h)
  have hquantum : pairWords (quantumGiven (directiveSettings directive)) =
      (directiveOptions directive).map utf8 := by
    rw [directiveOptions_words, pairWords, quantumGiven, List.flatMap_map]
  refine ⟨hepoch, ?_⟩
  rw [hquantum, List.append_nil, componentOptions]
  split_ifs
  · simp [pairWords, identityOptions, optionWord]
  · simp [pairWords, identityOptions, optionWord]

/-- What `getopt_long` finds in a command with a directive. -/
lemma scan_driverCommand {args : Args} {epoch : ℤ} {settings : List (OptionField × List UInt8)} :
    Driver.optionTable.scan (pairWords (identityOptions args epoch) ++
        (utf8 "--json" :: (pairWords (componentOptions args) ++
          (pairWords (quantumGiven settings) ++ [])))) =
      Driver.foundOptions (identityOptions args epoch ++ (.json, []) :: componentOptions args) ++
        Driver.foundOptions (quantumGiven settings) := by
  have hidentity : ∀ option ∈ identityOptions args epoch,
      option.1 ≠ .json ∧ option.1 ≠ .help := by
    simp [identityOptions]
  have hcomponent : ∀ option ∈ componentOptions args, option.1 ≠ .json ∧ option.1 ≠ .help := by
    unfold componentOptions
    split_ifs <;> simp
  have hquantum : ∀ option ∈ quantumGiven settings, option.1 ≠ .json ∧ option.1 ≠ .help := by
    intro option hoption
    obtain ⟨setting, -, rfl⟩ := List.mem_map.mp hoption
    exact ⟨nofun, nofun⟩
  have hjson : utf8 "--json" ≠ [45, 45] ∧ Driver.optionTable.readWord (utf8 "--json") =
      ([.option .json []], none) := by decide +kernel
  rw [scan_pairWords hidentity, C.Getopt.scan_flag hjson.1 hjson.2, scan_pairWords hcomponent,
    scan_pairWords hquantum]
  simp [Driver.foundOptions, C.Getopt.scan]

/-! ### What the driver accepts -/

/-- The numbers and the name of an allocation that the driver takes, apart from the walltime. -/
structure Commanded (args : Args) : Prop where
  cluster : utf8 args.cluster ≠ [] ∧ (utf8 args.cluster).length ≤ maxClusterName
  jobId : 0 < args.canonicalJobId ∧ args.canonicalJobId < 2 ^ 64
  uid : 0 ≤ args.uid ∧ args.uid < 2 ^ 32
  gid : 0 ≤ args.gid ∧ args.gid < 2 ^ 32
  component : args.hetJobId ≠ 0 →
    (0 < args.jobId ∧ args.jobId < 2 ^ 64) ∧ 0 ≤ args.hetComponent ∧ args.hetComponent < 2 ^ 32

/-- The allocation that the driver reads. -/
def allocationOf (args : Args) (epoch : ℤ) : AllocationContext where
  clusterName := utf8 args.cluster
  canonicalJobId := args.canonicalJobId.toNat
  allocationEpoch := epoch.toNat
  jobUid := args.uid.toNat
  jobGid := args.gid.toNat
  walltimeNs := args.walltimeSeconds.toNat * 1000000000
  heteroJobId := if args.hetJobId ≠ 0 then args.jobId.toNat else 0
  heteroComponent := if args.hetJobId ≠ 0 then args.hetComponent.toNat else 0
  hasHetero := args.hetJobId ≠ 0

/-- The options that the driver reads. -/
def optionsOf (args : Args) (epoch : ℤ) (operation : DriverCommand) (quantum : QuantumOptions) :
    Driver.Options where
  command := commandOf operation
  configPath := some (utf8 args.pluginConfig)
  allocation := allocationOf args epoch
  quantum := quantum
  hasCluster := true
  hasJobId := true
  hasUid := true
  hasGid := true
  hasEpoch := true
  hasWalltime := true
  hasHeteroJob := args.hetJobId ≠ 0
  hasHeteroComponent := args.hetJobId ≠ 0
  json := true

/-- The epoch of an allocation is within its type. -/
lemma epoch_range {submitTime restartCount epoch : ℤ}
    (h : allocationEpoch submitTime restartCount = .ok epoch) : 0 ≤ epoch ∧ epoch < 2 ^ 64 := by
  unfold allocationEpoch at h
  split at h
  · cases h
  · dsimp only at h
    split at h
    · cases h
    · obtain rfl := Except.ok.inj h
      constructor <;> omega

/-- The options of an allocation are accepted when its numbers are in range. -/
lemma accepts_options {args : Args} {epoch : ℤ} (hepoch : 0 ≤ epoch ∧ epoch < 2 ^ 64) :
    (∀ option ∈ identityOptions args epoch ++ (.json, []) :: componentOptions args,
        option.1.Accepts option.2) ↔
      Commanded args ∧ 0 < args.walltimeSeconds ∧
        args.walltimeSeconds ≤ Driver.maxWalltimeSeconds := by
  have hpositive (z : ℤ) : Driver.OptionCode.jobId.Accepts (utf8 (toString z)) ↔
      0 < z ∧ z < 2 ^ 64 := by
    refine (accepts_toString fun _ => Iff.rfl).trans ?_
    dsimp only [Driver.OptionCode.InRange]
    omega
  have hword (z : ℤ) : Driver.OptionCode.uid.Accepts (utf8 (toString z)) ↔
      0 ≤ z ∧ z < 2 ^ 32 := by
    refine (accepts_toString fun _ => Iff.rfl).trans ?_
    dsimp only [Driver.OptionCode.InRange]
    omega
  have htime : Driver.OptionCode.epoch.Accepts (utf8 (toString epoch)) := by
    refine (accepts_toString fun _ => Iff.rfl).mpr ?_
    dsimp only [Driver.OptionCode.InRange]
    omega
  have hwalltime : Driver.OptionCode.walltime.Accepts (utf8 (toString args.walltimeSeconds)) ↔
      0 < args.walltimeSeconds ∧ args.walltimeSeconds ≤ Driver.maxWalltimeSeconds := by
    refine (accepts_toString fun _ => Iff.rfl).trans ?_
    dsimp only [Driver.OptionCode.InRange]
    omega
  have hidentity : (∀ option ∈ identityOptions args epoch, option.1.Accepts option.2) ↔
      (utf8 args.cluster ≠ [] ∧ (utf8 args.cluster).length ≤ maxClusterName) ∧
        (0 < args.canonicalJobId ∧ args.canonicalJobId < 2 ^ 64) ∧
        (0 ≤ args.uid ∧ args.uid < 2 ^ 32) ∧ 0 ≤ args.gid ∧ args.gid < 2 ^ 32 := by
    rw [← hpositive, ← hword, ← hword, identityOptions]
    simp only [List.forall_mem_cons, List.not_mem_nil, false_implies, implies_true, and_true]
    exact ⟨fun ⟨_, hcluster, hjob, huid, hgid, _⟩ => ⟨hcluster, hjob, huid, hgid⟩,
      fun ⟨hcluster, hjob, huid, hgid⟩ => ⟨trivial, hcluster, hjob, huid, hgid, htime⟩⟩
  have hcomponent : (∀ option ∈ componentOptions args, option.1.Accepts option.2) ↔
      (args.hetJobId ≠ 0 → (0 < args.jobId ∧ args.jobId < 2 ^ 64) ∧
        0 ≤ args.hetComponent ∧ args.hetComponent < 2 ^ 32) ∧
        0 < args.walltimeSeconds ∧ args.walltimeSeconds ≤ Driver.maxWalltimeSeconds := by
    rw [← hpositive, ← hword, ← hwalltime, componentOptions, List.forall_mem_append,
      List.forall_mem_singleton]
    refine and_congr_left fun _ => ?_
    split_ifs with hhetero
    · simp only [List.forall_mem_cons, List.not_mem_nil, false_implies, implies_true, and_true]
      exact ⟨fun h _ => h, fun h => h hhetero⟩
    · exact iff_of_true (fun _ h => absurd h List.not_mem_nil) fun h => absurd h hhetero
  rw [List.forall_mem_append, List.forall_mem_cons, hidentity, hcomponent]
  constructor
  · rintro ⟨⟨hcluster, hjob, huid, hgid⟩, -, hhetero, hlimit⟩
    exact ⟨⟨hcluster, hjob, huid, hgid, hhetero⟩, hlimit⟩
  · rintro ⟨⟨hcluster, hjob, huid, hgid, hhetero⟩, hlimit⟩
    exact ⟨⟨hcluster, hjob, huid, hgid⟩, trivial, hhetero, hlimit⟩

/-- The values that are stored. -/
lemma put_options {args : Args} {epoch : ℤ} (hargs : Commanded args) (hepoch : 0 ≤ epoch)
    (hwalltime : 0 ≤ args.walltimeSeconds) (operation : DriverCommand) :
    (identityOptions args epoch ++ (.json, []) :: componentOptions args).foldl Driver.Options.put
        { command := commandOf operation } =
      { optionsOf args epoch operation {} with
        allocation := { allocationOf args epoch with hasHetero := false } } := by
  have hvalue {z : ℤ} (hz : 0 ≤ z) : Native.decimalValue (utf8 z.repr) = z.toNat := by
    obtain ⟨n, rfl⟩ := Int.eq_ofNat_of_zero_le hz
    exact (number_toString n).2
  unfold identityOptions componentOptions optionsOf allocationOf
  by_cases hhetero : args.hetJobId ≠ 0
  · obtain ⟨hjob, hcomponent⟩ := hargs.component hhetero
    simp [Driver.Options.put, Driver.Options.store, hhetero, hvalue hepoch, hvalue hwalltime,
      hvalue hargs.jobId.1.le, hvalue hargs.uid.1, hvalue hargs.gid.1, hvalue hjob.1.le,
      hvalue hcomponent.1]
  · simp [Driver.Options.put, Driver.Options.store, hhetero, hvalue hepoch, hvalue hwalltime,
      hvalue hargs.jobId.1.le, hvalue hargs.uid.1, hvalue hargs.gid.1]

/-- With the options of an allocation, what remains to be checked is the quantum options. -/
lemma checkOptions_eq_ok_iff {args : Args} {epoch : ℤ} {operation : DriverCommand}
    (hoperation : operation ≠ .release) {quantum : QuantumOptions} {options : Driver.Options} :
    Driver.checkOptions { optionsOf args epoch operation quantum with
        allocation := { allocationOf args epoch with hasHetero := false } } false = .ok options ↔
      quantum.active = true ∧ qfwQuantumOptionsValidate quantum = .ok () ∧
        options = optionsOf args epoch operation quantum := by
  have hworkload : commandOf operation ≠ .release ∧ commandOf operation ≠ .getReservations := by
    cases operation with
    | release => exact absurd rfl hoperation
    | evaluate => decide
    | reserve => decide
  unfold Driver.checkOptions
  rw [if_neg (by simp [optionsOf]), if_neg (by simp [optionsOf])]
  dsimp only [optionsOf]
  rw [if_pos hworkload]
  by_cases hactive : quantum.active = true
  · rw [if_neg (by simp [hactive])]
    rcases hvalid : qfwQuantumOptionsValidate quantum with message | ⟨⟩
    · exact iff_of_false nofun fun h => nomatch h.2.1
    · rw [Except.ok.injEq, eq_comm]
      exact ⟨fun h => ⟨hactive, rfl, h⟩, fun h => h.2.2⟩
  · rw [if_pos (by simp [hactive])]
    exact iff_of_false nofun fun h => hactive h.1

/-- The driver accepts the command of the helper when the numbers are in range and the fields of the
directive pass the setters, and it reads what was printed. -/
theorem parse_driverCommand {args : Args} {operation : DriverCommand} {directive : Directive}
    {command : List String} {epoch : ℤ}
    (h : driverCommand args operation (some directive) = .ok (command, epoch))
    (hoperation : operation ≠ .release) (options : Driver.Options) :
    Driver.parseOptions (command.tail.map utf8) = .ok options ↔
      (Commanded args ∧ 0 < args.walltimeSeconds ∧
        args.walltimeSeconds ≤ Driver.maxWalltimeSeconds) ∧
      ∃ quantum, setOptions {} (directiveSettings directive) = .ok quantum ∧
        quantum.active = true ∧ qfwQuantumOptionsValidate quantum = .ok () ∧
        options = optionsOf args epoch operation quantum := by
  obtain ⟨hepoch, hwords⟩ := words_driverCommand h
  have hrange := epoch_range hepoch
  have hname : Driver.commandFromName (utf8 operation.text) = some (commandOf operation) := by
    cases operation <;> decide +kernel
  have hhelp : ∀ words, utf8 operation.text :: words ≠ [utf8 "--help"] := by
    intro words hwords
    have hother : utf8 operation.text ≠ utf8 "--help" := by cases operation <;> decide +kernel
    exact hother (List.cons.inj hwords).1
  have hgiven : ∀ option ∈ identityOptions args epoch ++ (.json, []) :: componentOptions args,
      ∀ field, option.1 ≠ .quantum field := by
    unfold identityOptions componentOptions
    split_ifs <;> simp
  have hoperands : (Driver.foundOptions (identityOptions args epoch ++
      (.json, []) :: componentOptions args) ++ Driver.foundOptions (quantumGiven
        (directiveSettings directive))).any C.Found.isOperand = false := by
    rw [List.any_append, Driver.any_isOperand_foundOptions, Driver.any_isOperand_foundOptions]
    rfl
  rw [hwords, Driver.parseOptions, if_neg (hhelp _), hname]
  dsimp only
  rw [scan_driverCommand, hoperands, Driver.readAll_append, bind_assoc, bind_eq_ok_iff,
    ← accepts_options hrange]
  have hchecked (hargs : Commanded args) (hwalltime : 0 ≤ args.walltimeSeconds) :
      (Driver.readAll ((identityOptions args epoch ++ (.json, []) :: componentOptions args).foldl
          Driver.Options.put { command := commandOf operation })
        (Driver.foundOptions (quantumGiven (directiveSettings directive))) >>= fun read =>
          Driver.checkOptions read false) = .ok options ↔
      ∃ quantum, setOptions {} (directiveSettings directive) = .ok quantum ∧
        quantum.active = true ∧ qfwQuantumOptionsValidate quantum = .ok () ∧
        options = optionsOf args epoch operation quantum := by
    rw [put_options hargs hrange.1 hwalltime, bind_eq_ok_iff]
    constructor
    · rintro ⟨read, hread, hcheck⟩
      obtain ⟨quantum, hquantum, rfl⟩ := Driver.readAll_quantum_eq_ok_iff.mp hread
      exact ⟨quantum, hquantum, (checkOptions_eq_ok_iff hoperation).mp hcheck⟩
    · rintro ⟨quantum, hquantum, hvalid⟩
      exact ⟨_, Driver.readAll_quantum_eq_ok_iff.mpr ⟨quantum, hquantum, rfl⟩,
        (checkOptions_eq_ok_iff hoperation).mpr hvalid⟩
  constructor
  · rintro ⟨read, hread, hrest⟩
    obtain ⟨haccepts, rfl⟩ := (Driver.readAll_eq_ok_iff hgiven).mp hread
    obtain ⟨hargs, hlimit⟩ := (accepts_options hrange).mp haccepts
    exact ⟨haccepts, (hchecked hargs hlimit.1.le).mp hrest⟩
  · rintro ⟨haccepts, hquantum⟩
    obtain ⟨hargs, hlimit⟩ := (accepts_options hrange).mp haccepts
    exact ⟨_, (Driver.readAll_eq_ok_iff hgiven).mpr ⟨haccepts, rfl⟩,
      (hchecked hargs hlimit.1.le).mpr hquantum⟩

end QfwSlurm.Helper
