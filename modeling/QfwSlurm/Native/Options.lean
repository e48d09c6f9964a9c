import QfwSlurm.Native.Requests
import QfwSlurm.Sequence.Lines

/-!
# The quantum options of a command

`qfw_quantum_options_set` reads one option, `qfw_quantum_options_validate` looks at all of them.
Both the allocator side of the plugin and the driver go through them.  `setOptions_eq_ok_iff` says
what they accept: every value is valid for its option, and the result has exactly these values.
-/

namespace QfwSlurm.Native

/-- `enum qfw_option_field` -/
inductive OptionField where
  | qpu
  | workloadKind
  | circuitCount
  | maxQubits
  | maxDepth
  | maxShots
  | maxOneQGates
  | maxTwoQGates
  | maxMeasurements
  deriving DecidableEq

/-- `QFW_REQUIRED_OPTIONS` -/
def requiredOptions : List OptionField :=
  [.qpu, .workloadKind, .circuitCount, .maxQubits, .maxDepth, .maxShots]

/-- `QFW_PLUGIN_MAX_RESOURCE_NAME` -/
def maxResourceName : ℕ := 128

/-- `struct qfw_quantum_options`; the bits of `present_fields` are a set. -/
structure QuantumOptions where
  active : Bool := false
  qpuNames : List (List UInt8) := []
  workload : QsgpWorkload := {}
  presentFields : Finset OptionField := ∅
  deriving DecidableEq

/-- Why a setter fails: the status -1 or -2. -/
inductive SetFailure where
  | invalid
  | conflicting
  deriving DecidableEq

def isDigitByte (b : UInt8) : Bool := 48 ≤ b.toNat && b.toNat ≤ 57

/-- The number that `strtoull` reads from digits, without its bound. -/
def decimalValue (digits : List UInt8) : ℕ := digits.foldl (fun n b => n * 10 + (b.toNat - 48)) 0

/-- `parse_u64` -/
def parseU64 (value : List UInt8) : Option ℕ :=
  if value = [] then none
  else if value.all isDigitByte then
    if decimalValue value < 2 ^ 64 then some (decimalValue value) else none
  else none

/-- `parse_u32` -/
def parseU32 (value : List UInt8) : Option ℕ :=
  match parseU64 value with
  | some parsed => if parsed < 2 ^ 32 then some parsed else none
  | none => none

/-- The characters of a resource name. -/
def isNameByte (b : UInt8) : Bool :=
  (97 ≤ b.toNat && b.toNat ≤ 122) || (65 ≤ b.toNat && b.toNat ≤ 90) ||
    (48 ≤ b.toNat && b.toNat ≤ 57) || b = 45 || b = 95 || b = 46

/-- The body of the loop of `parse_qpu_names`, for the names that the cursor passes. -/
def addQpuNames (names : List (List UInt8)) : List (List UInt8) → Option (List (List UInt8))
  | [] => some names
  | name :: rest =>
    if name.length = 0 ∨ maxResourceName < name.length ∨ maxServices ≤ names.length then none
    else if ¬ name.all isNameByte then none
    else if name ∈ names then none
    else addQpuNames (names ++ [name]) rest

/-- `parse_qpu_names`: the cursor moves behind the next comma, as long as it is not at the end. -/
def parseQpuNames (value : List UInt8) : Option (List (List UInt8)) :=
  if value = [] then none else addQpuNames [] (Sequence.linesOf (· = 44) value)

/-- What the setters share: the parsed value of a field that is there already must be the same,
another one is assigned.  The result is the status and the options. -/
def setParsed {V : Type} [DecidableEq V] (options : QuantumOptions) (field : OptionField)
    (parsed : Option V) (current : V) (assign : V → QuantumOptions) :
    Except SetFailure Unit × QuantumOptions :=
  match parsed with
  | none => (.error .invalid, options)
  | some parsed =>
    if field ∈ options.presentFields then
      if current = parsed then (.ok (), options) else (.error .conflicting, options)
    else (.ok (), assign parsed)

/-- `set_qpu` -/
def setQpu (options : QuantumOptions) (value : List UInt8) :
    Except SetFailure Unit × QuantumOptions :=
  setParsed options .qpu (parseQpuNames value) options.qpuNames fun names =>
    { options with qpuNames := names, active := true }

/-- The words for the kind of a workload. -/
def parseWorkloadKind (value : List UInt8) : Option ℕ :=
  if value = utf8 "quantum" then some 1 else if value = utf8 "hybrid" then some 2 else none

/-- `set_workload_kind` -/
def setWorkloadKind (options : QuantumOptions) (value : List UInt8) :
    Except SetFailure Unit × QuantumOptions :=
  setParsed options .workloadKind (parseWorkloadKind value) options.workload.kind fun kind =>
    { options with workload.kind := kind }

/-- The number of the workload that a field stands for. -/
def QsgpWorkload.number (workload : QsgpWorkload) : OptionField → ℕ
  | .circuitCount => workload.circuitCount
  | .maxQubits => workload.maxQubits
  | .maxDepth => workload.maxDepth
  | .maxShots => workload.maxShots
  | .maxOneQGates => workload.maxOneQGates
  | .maxTwoQGates => workload.maxTwoQGates
  | .maxMeasurements => workload.maxMeasurements
  | .qpu | .workloadKind => 0

/-- The number is stored, with the flag of an optional one. -/
def QsgpWorkload.store (workload : QsgpWorkload) (number : ℕ) : OptionField → QsgpWorkload
  | .circuitCount => { workload with circuitCount := number }
  | .maxQubits => { workload with maxQubits := number }
  | .maxDepth => { workload with maxDepth := number }
  | .maxShots => { workload with maxShots := number }
  | .maxOneQGates => { workload with maxOneQGates := number, hasMaxOneQGates := true }
  | .maxTwoQGates => { workload with maxTwoQGates := number, hasMaxTwoQGates := true }
  | .maxMeasurements => { workload with maxMeasurements := number, hasMaxMeasurements := true }
  | .qpu | .workloadKind => workload

/-- `set_u64_field`, and the same for the number of qubits, which is parsed by `parse_u32`. -/
def setNumber (parse : List UInt8 → Option ℕ) (options : QuantumOptions) (field : OptionField)
    (value : List UInt8) : Except SetFailure Unit × QuantumOptions :=
  setParsed options field (parse value) (options.workload.number field) fun number =>
    { options with workload := options.workload.store number field }

/-- The options with the bit of a field. -/
def QuantumOptions.mark (options : QuantumOptions) (field : OptionField) : QuantumOptions :=
  { options with active := true, presentFields := insert field options.presentFields }

/-- What `qfw_quantum_options_set` does with the status of a setter. -/
def finishSet (field : OptionField) :
    Except SetFailure Unit × QuantumOptions → Except String Unit × QuantumOptions
  | (.error .conflicting, options) => (.error "conflicting duplicate quantum option", options)
  | (.error .invalid, options) => (.error "invalid quantum option value", options)
  | (.ok (), options) => (.ok (), options.mark field)

/-- `qfw_quantum_options_set`, with the options as it leaves them. -/
def qfwQuantumOptionsSet (options : QuantumOptions) (field : OptionField) (value : List UInt8) :
    Except String Unit × QuantumOptions :=
  finishSet field <| match field with
    | .qpu => setQpu options value
    | .workloadKind => setWorkloadKind options value
    | .maxQubits => setNumber parseU32 options field value
    | _ => setNumber parseU64 options field value

/-- `qfw_quantum_options_validate` -/
def qfwQuantumOptionsValidate (options : QuantumOptions) : Except String Unit :=
  if ¬ options.active then .ok ()
  else if ¬ ∀ field ∈ requiredOptions, field ∈ options.presentFields then
    .error "managed QPU requests require workload and circuit bounds"
  else if options.qpuNames.length = 0 ∨ options.workload.circuitCount = 0 ∨
      options.workload.maxQubits = 0 ∨ options.workload.maxDepth = 0 ∨
      options.workload.maxShots = 0 then
    .error "required quantum workload bounds must be nonzero"
  else .ok ()

/-- The options that are given are set one after the other, up to the first failure. -/
def setOptions (options : QuantumOptions) :
    List (OptionField × List UInt8) → Except String QuantumOptions
  | [] => .ok options
  | (field, value) :: given =>
    match qfwQuantumOptionsSet options field value with
    | (.ok (), options) => setOptions options given
    | (.error message, _) => .error message

/-! ### What a setter accepts -/

/-- A nonempty list of distinct names, separated by commas; one more comma may stand at its end. -/
structure ValidNames (value : List UInt8) : Prop where
  ne_nil : value ≠ []
  count : (Sequence.linesOf (· = 44) value).length ≤ maxServices
  name : ∀ name ∈ Sequence.linesOf (· = 44) value,
    name ≠ [] ∧ name.length ≤ maxResourceName ∧ name.all isNameByte
  nodup : (Sequence.linesOf (· = 44) value).Nodup

/-- Digits. -/
def IsNumber (value : List UInt8) : Prop := value ≠ [] ∧ value.all isDigitByte = true

/-- The values that an option accepts. -/
def OptionField.Accepts : OptionField → List UInt8 → Prop
  | .qpu, value => ValidNames value
  | .workloadKind, value => value = utf8 "quantum" ∨ value = utf8 "hybrid"
  | .maxQubits, value => IsNumber value ∧ decimalValue value < 2 ^ 32
  | _, value => IsNumber value ∧ decimalValue value < 2 ^ 64

/-- The options with one more value. -/
def QuantumOptions.put (options : QuantumOptions) (field : OptionField) (value : List UInt8) :
    QuantumOptions where
  active := true
  qpuNames := if field = .qpu then Sequence.linesOf (· = 44) value else options.qpuNames
  workload :=
    if field = .workloadKind then
      { options.workload with kind := if value = utf8 "quantum" then 1 else 2 }
    else options.workload.store (decimalValue value) field
  presentFields := insert field options.presentFields

lemma addQpuNames_eq_some_iff {names rest found : List (List UInt8)}
    (hnames : names.length ≤ maxServices) :
    addQpuNames names rest = some found ↔ found = names ++ rest ∧
      names.length + rest.length ≤ maxServices ∧
      (∀ name ∈ rest, name ≠ [] ∧ name.length ≤ maxResourceName ∧ name.all isNameByte) ∧
      rest.Nodup ∧ ∀ name ∈ rest, name ∉ names := by
  induction rest generalizing names with
  | nil =>
    rw [addQpuNames, List.append_nil]
    constructor
    · rintro h
      exact ⟨(Option.some.inj h).symm, by simpa using hnames,
        fun name hname => absurd hname List.not_mem_nil, List.nodup_nil,
        fun name hname => absurd hname List.not_mem_nil⟩
    · rintro ⟨rfl, -⟩
      rfl
  | cons name rest ih =>
    rw [addQpuNames]
    by_cases hbad : name.length = 0 ∨ maxResourceName < name.length ∨ maxServices ≤ names.length
    · rw [if_pos hbad]
      refine iff_of_false nofun ?_
      rintro ⟨-, hcount, hvalid, -⟩
      obtain ⟨hne, hlength, -⟩ := hvalid name List.mem_cons_self
      rw [List.length_cons] at hcount
      have hpos := List.length_pos_of_ne_nil hne
      omega
    rw [if_neg hbad]
    by_cases hbytes : name.all isNameByte
    · rw [if_neg (not_not.mpr hbytes)]
      by_cases hmem : name ∈ names
      · rw [if_pos hmem]
        refine iff_of_false nofun ?_
        rintro ⟨-, -, -, -, hnew⟩
        exact hnew name List.mem_cons_self hmem
      · have hroom : (names ++ [name]).length ≤ maxServices := by
          rw [List.length_append, List.length_singleton]
          omega
        have hne : name ≠ [] := fun hnil => hbad (.inl (by rw [hnil]; rfl))
        rw [if_neg hmem, ih hroom, List.append_assoc, List.singleton_append, List.length_append,
          List.length_singleton, List.forall_mem_cons, List.nodup_cons, List.forall_mem_cons,
          List.length_cons]
        simp only [List.mem_append, List.mem_singleton, not_or]
        constructor
        · rintro ⟨rfl, hcount, hvalid, hnodup, hnew⟩
          exact ⟨rfl, by omega, ⟨⟨hne, by omega, hbytes⟩, hvalid⟩,
            ⟨fun hagain => (hnew name hagain).2 rfl, hnodup⟩, hmem, fun other h => (hnew other h).1⟩
        · rintro ⟨rfl, hcount, ⟨-, hvalid⟩, ⟨hfresh, hnodup⟩, -, hnew⟩
          exact ⟨rfl, by omega, hvalid, hnodup, fun other h =>
            ⟨hnew other h, fun heq => hfresh (heq ▸ h)⟩⟩
    · rw [if_pos hbytes]
      refine iff_of_false nofun ?_
      rintro ⟨-, -, hvalid, -⟩
      exact hbytes (hvalid name List.mem_cons_self).2.2

lemma parseQpuNames_eq_some_iff {value : List UInt8} {names : List (List UInt8)} :
    parseQpuNames value = some names ↔
      ValidNames value ∧ names = Sequence.linesOf (· = 44) value := by
  unfold parseQpuNames
  by_cases hvalue : value = []
  · rw [if_pos hvalue]
    exact iff_of_false nofun fun h => h.1.ne_nil hvalue
  · rw [if_neg hvalue, addQpuNames_eq_some_iff (Nat.zero_le _), List.nil_append, List.length_nil,
      Nat.zero_add]
    constructor
    · rintro ⟨hnames, hcount, hname, hnodup, -⟩
      exact ⟨⟨hvalue, hcount, hname, hnodup⟩, hnames⟩
    · rintro ⟨⟨-, hcount, hname, hnodup⟩, hnames⟩
      exact ⟨hnames, hcount, hname, hnodup, fun name _ => List.not_mem_nil⟩

lemma parseU64_eq_some_iff {value : List UInt8} {n : ℕ} :
    parseU64 value = some n ↔
      (IsNumber value ∧ decimalValue value < 2 ^ 64) ∧ n = decimalValue value := by
  unfold parseU64 IsNumber
  split_ifs with hnil hdigits hbound
  · exact iff_of_false nofun fun h => h.1.1.1 hnil
  · rw [Option.some.injEq, eq_comm]
    exact ⟨fun h => ⟨⟨⟨hnil, hdigits⟩, hbound⟩, h⟩, And.right⟩
  · exact iff_of_false nofun fun h => hbound h.1.2
  · exact iff_of_false nofun fun h => hdigits h.1.1.2

lemma parseU32_eq_some_iff {value : List UInt8} {n : ℕ} :
    parseU32 value = some n ↔
      (IsNumber value ∧ decimalValue value < 2 ^ 32) ∧ n = decimalValue value := by
  unfold parseU32
  rcases hparsed : parseU64 value with - | parsed
  · refine iff_of_false nofun ?_
    rintro ⟨⟨hnumber, hbound⟩, -⟩
    have hsome := parseU64_eq_some_iff.mpr
      ⟨⟨hnumber, hbound.trans (by decide : 2 ^ 32 < 2 ^ 64)⟩, rfl⟩
    rw [hparsed] at hsome
    cases hsome
  · obtain ⟨⟨hnumber, -⟩, rfl⟩ := parseU64_eq_some_iff.mp hparsed
    dsimp only
    split_ifs with hbound
    · rw [Option.some.injEq, eq_comm]
      exact ⟨fun h => ⟨⟨hnumber, hbound⟩, h⟩, And.right⟩
    · exact iff_of_false nofun fun h => hbound h.1.2

lemma parseWorkloadKind_eq_some_iff {value : List UInt8} {kind : ℕ} :
    parseWorkloadKind value = some kind ↔
      (value = utf8 "quantum" ∨ value = utf8 "hybrid") ∧
        kind = if value = utf8 "quantum" then 1 else 2 := by
  unfold parseWorkloadKind
  split_ifs with hquantum hhybrid
  · rw [Option.some.injEq, eq_comm]
    exact ⟨fun h => ⟨.inl hquantum, h⟩, And.right⟩
  · rw [Option.some.injEq, eq_comm]
    exact ⟨fun h => ⟨.inr hhybrid, h⟩, And.right⟩
  · exact iff_of_false nofun fun h => h.1.elim hquantum hhybrid

/-- What a value stands for. -/
inductive OptionValue where
  | names (names : List (List UInt8))
  | number (number : ℕ)
  deriving DecidableEq

/-- The parser of a field. -/
def OptionField.parse : OptionField → List UInt8 → Option OptionValue
  | .qpu, value => (parseQpuNames value).map .names
  | .workloadKind, value => (parseWorkloadKind value).map .number
  | .maxQubits, value => (parseU32 value).map .number
  | _, value => (parseU64 value).map .number

/-- What an accepted value of a field stands for. -/
def OptionField.meaning : OptionField → List UInt8 → OptionValue
  | .qpu, value => .names (Sequence.linesOf (· = 44) value)
  | .workloadKind, value => .number (if value = utf8 "quantum" then 1 else 2)
  | _, value => .number (decimalValue value)

/-- The value of a field that is there. -/
def QuantumOptions.value (options : QuantumOptions) : OptionField → OptionValue
  | .qpu => .names options.qpuNames
  | .workloadKind => .number options.workload.kind
  | field => .number (options.workload.number field)

lemma parse_eq_some_iff {field : OptionField} {value : List UInt8} {parsed : OptionValue} :
    field.parse value = some parsed ↔ field.Accepts value ∧ parsed = field.meaning value := by
  have hmap {V : Type} {found : Option V} {wrap : V → OptionValue} {Valid : Prop} {meant : V}
      (hfound : ∀ v, found = some v ↔ Valid ∧ v = meant) :
      found.map wrap = some parsed ↔ Valid ∧ parsed = wrap meant := by
    rw [Option.map_eq_some_iff]
    constructor
    · rintro ⟨v, hv, rfl⟩
      obtain ⟨hvalid, rfl⟩ := (hfound v).mp hv
      exact ⟨hvalid, rfl⟩
    · rintro ⟨hvalid, rfl⟩
      exact ⟨meant, (hfound meant).mpr ⟨hvalid, rfl⟩, rfl⟩
  cases field with
  | qpu => exact hmap fun v => parseQpuNames_eq_some_iff
  | workloadKind => exact hmap fun v => parseWorkloadKind_eq_some_iff
  | maxQubits => exact hmap fun v => parseU32_eq_some_iff
  | _ => exact hmap fun v => parseU64_eq_some_iff

/-- What `qfw_quantum_options_set` does: it fails and changes nothing, or the value of a field that
is there is the same, or the value is stored. -/
inductive Sets (options : QuantumOptions) (field : OptionField) (value : List UInt8) :
    Except String Unit × QuantumOptions → Prop
  | invalid (hvalue : ¬ field.Accepts value) :
      Sets options field value (.error "invalid quantum option value", options)
  | conflicting (hvalue : field.Accepts value) (hfield : field ∈ options.presentFields)
      (hother : options.value field ≠ field.meaning value) :
      Sets options field value (.error "conflicting duplicate quantum option", options)
  | same (hvalue : field.Accepts value) (hfield : field ∈ options.presentFields)
      (hsame : options.value field = field.meaning value) :
      Sets options field value (.ok (), options.mark field)
  | stored (hvalue : field.Accepts value) (hfield : field ∉ options.presentFields) :
      Sets options field value (.ok (), options.put field value)

lemma sets_qfwQuantumOptionsSet (options : QuantumOptions) (field : OptionField)
    (value : List UInt8) : Sets options field value (qfwQuantumOptionsSet options field value) := by
  have hsets {V : Type} [DecidableEq V] {parsed : Option V} {current meant : V}
      {assign : V → QuantumOptions}
      (hparsed : ∀ v, parsed = some v ↔ field.Accepts value ∧ v = meant)
      (hcurrent : options.value field = field.meaning value ↔ current = meant)
      (hput : (assign meant).mark field = options.put field value) :
      Sets options field value
        (finishSet field (setParsed options field parsed current assign)) := by
    unfold setParsed
    rcases parsed with - | v
    · refine .invalid fun hvalue => ?_
      cases (hparsed meant).mpr ⟨hvalue, rfl⟩
    · obtain ⟨hvalue, rfl⟩ := (hparsed v).mp rfl
      dsimp only
      by_cases hfield : field ∈ options.presentFields
      · rw [if_pos hfield]
        by_cases hsame : current = v
        · rw [if_pos hsame]
          exact .same hvalue hfield (hcurrent.mpr hsame)
        · rw [if_neg hsame]
          exact .conflicting hvalue hfield fun heq => hsame (hcurrent.mp heq)
      · rw [if_neg hfield, finishSet, hput]
        exact .stored hvalue hfield
  have hnumber {n m : ℕ} : OptionValue.number n = .number m ↔ n = m := by
    rw [OptionValue.number.injEq]
  unfold qfwQuantumOptionsSet
  cases field with
  | qpu =>
    refine hsets (fun v => parseQpuNames_eq_some_iff) ?_ ?_
    · exact iff_of_eq (OptionValue.names.injEq _ _)
    · rfl
  | workloadKind =>
    refine hsets (fun v => parseWorkloadKind_eq_some_iff) hnumber ?_
    rfl
  | maxQubits =>
    refine hsets (fun v => parseU32_eq_some_iff) hnumber ?_
    rfl
  | _ =>
    refine hsets (fun v => parseU64_eq_some_iff) hnumber ?_
    rfl

/-- A setter of a field that is not yet there accepts the valid values, and stores them. -/
lemma qfwQuantumOptionsSet_eq_ok_iff {options result : QuantumOptions} {field : OptionField}
    {value : List UInt8} (hfield : field ∉ options.presentFields) :
    qfwQuantumOptionsSet options field value = (.ok (), result) ↔
      field.Accepts value ∧ result = options.put field value := by
  have hsets := sets_qfwQuantumOptionsSet options field value
  generalize qfwQuantumOptionsSet options field value = answer at hsets
  cases hsets with
  | invalid hvalue => exact iff_of_false nofun fun h => hvalue h.1
  | conflicting _ hmem => exact absurd hmem hfield
  | same _ hmem => exact absurd hmem hfield
  | stored hvalue =>
    rw [Prod.mk.injEq, eq_comm (b := result)]
    exact ⟨fun h => ⟨hvalue, h.2⟩, fun h => ⟨rfl, h.2⟩⟩

/-- The options with all the values that are given. -/
def QuantumOptions.putAll (options : QuantumOptions) (given : List (OptionField × List UInt8)) :
    QuantumOptions :=
  given.foldl (fun options option => options.put option.1 option.2) options

/-- Different options are accepted together when each value is valid. -/
theorem setOptions_eq_ok_iff {options result : QuantumOptions}
    {given : List (OptionField × List UInt8)} (hgiven : (given.map Prod.fst).Nodup)
    (hfresh : ∀ option ∈ given, option.1 ∉ options.presentFields) :
    setOptions options given = .ok result ↔
      (∀ option ∈ given, option.1.Accepts option.2) ∧ result = options.putAll given := by
  induction given generalizing options with
  | nil =>
    rw [setOptions, Except.ok.injEq, eq_comm]
    exact ⟨fun h => ⟨fun option hoption => absurd hoption List.not_mem_nil, h⟩, And.right⟩
  | cons option given ih =>
    obtain ⟨field, value⟩ := option
    rw [List.map_cons, List.nodup_cons] at hgiven
    obtain ⟨hfield, hrest⟩ := List.forall_mem_cons.mp hfresh
    have hlater : ∀ option ∈ given, option.1 ∉ (options.put field value).presentFields := by
      intro option hoption hmem
      rcases Finset.mem_insert.mp hmem with heq | hmem
      · have hagain := List.mem_map_of_mem (f := Prod.fst) hoption
        rw [heq] at hagain
        exact hgiven.1 hagain
      · exact hrest option hoption hmem
    rw [setOptions, List.forall_mem_cons]
    rcases hanswer : qfwQuantumOptionsSet options field value with ⟨message | ⟨⟩, next⟩
    · refine iff_of_false nofun ?_
      rintro ⟨⟨hvalid, -⟩, -⟩
      have hok := (qfwQuantumOptionsSet_eq_ok_iff hfield).mpr ⟨hvalid, rfl⟩
      rw [hanswer] at hok
      cases hok
    · obtain ⟨hvalid, rfl⟩ := (qfwQuantumOptionsSet_eq_ok_iff hfield).mp hanswer
      dsimp only
      rw [ih hgiven.2 hlater]
      exact ⟨fun h => ⟨⟨hvalid, h.1⟩, h.2⟩, fun h => ⟨h.1.2, h.2⟩⟩

/-! ### What all the options are -/

section Values

variable {given : List (OptionField × List UInt8)}

/-- What is read from one option has the value of this option, if it is given. -/
lemma putAll_get {β : Type} (get : QuantumOptions → β) {field : OptionField}
    {val : List UInt8 → β} (hput : ∀ options other value,
      get (QuantumOptions.put options other value) = if other = field then val value else get options)
    (options : QuantumOptions) (hgiven : (given.map Prod.fst).Nodup) :
    get (options.putAll given) = ((given.lookup field).map val).getD (get options) := by
  induction given generalizing options with
  | nil => rfl
  | cons option given ih =>
    obtain ⟨other, value⟩ := option
    rw [List.map_cons, List.nodup_cons] at hgiven
    have hrest := ih (options.put other value) hgiven.2
    rw [hput] at hrest
    have hstep : options.putAll ((other, value) :: given) = (options.put other value).putAll given :=
      rfl
    rw [hstep, hrest, List.lookup_cons]
    by_cases hother : other = field
    · have hnone : given.lookup field = none := by
        rw [List.lookup_eq_none_iff]
        intro option hoption
        have hne : field ≠ option.1 := by
          rintro heq
          have hmem := List.mem_map_of_mem (f := Prod.fst) hoption
          rw [← heq, ← hother] at hmem
          exact hgiven.1 hmem
        simpa using hne
      rw [if_pos hother, hnone, hother, beq_self_eq_true]
      rfl
    · have hbeq : (field == other) = false := by simpa using Ne.symm hother
      rw [if_neg hother, hbeq]

lemma number_putAll (field : OptionField) (hfield : field ≠ .qpu ∧ field ≠ .workloadKind)
    (hgiven : (given.map Prod.fst).Nodup) :
    (QuantumOptions.putAll {} given).workload.number field =
      ((given.lookup field).map decimalValue).getD 0 := by
  have hput (options : QuantumOptions) (other : OptionField) (value : List UInt8) :
      (options.put other value).workload.number field =
        if other = field then decimalValue value else options.workload.number field := by
    obtain ⟨hqpu, hkind⟩ := hfield
    cases field with
    | qpu => exact absurd rfl hqpu
    | workloadKind => exact absurd rfl hkind
    | _ => cases other <;> rfl
  have hget := putAll_get (fun options => options.workload.number field) hput {} hgiven
  rw [hget]
  cases field <;> rfl

lemma kind_putAll (hgiven : (given.map Prod.fst).Nodup) :
    (QuantumOptions.putAll {} given).workload.kind = ((given.lookup .workloadKind).map
      fun value => if value = utf8 "quantum" then 1 else 2).getD 0 := by
  refine putAll_get (fun options => options.workload.kind) (fun options other value => ?_) {} hgiven
  cases other <;> rfl

lemma qpuNames_putAll (hgiven : (given.map Prod.fst).Nodup) :
    (QuantumOptions.putAll {} given).qpuNames =
      ((given.lookup .qpu).map (Sequence.linesOf (· = 44))).getD [] := by
  refine putAll_get QuantumOptions.qpuNames (fun options other value => ?_) {} hgiven
  cases other <;> rfl

lemma mem_presentFields_putAll {options : QuantumOptions} {field : OptionField} :
    field ∈ (options.putAll given).presentFields ↔
      field ∈ given.map Prod.fst ∨ field ∈ options.presentFields := by
  induction given generalizing options with
  | nil => exact ⟨.inr, fun h => h.resolve_left List.not_mem_nil⟩
  | cons option given ih =>
    have hput : field ∈ (options.put option.1 option.2).presentFields ↔
        field = option.1 ∨ field ∈ options.presentFields := Finset.mem_insert
    have hstep : field ∈ ((options.put option.1 option.2).putAll given).presentFields ↔
        field ∈ given.map Prod.fst ∨ field ∈ (options.put option.1 option.2).presentFields := ih
    rw [hput] at hstep
    rw [List.map_cons, List.mem_cons, or_assoc, or_left_comm]
    exact hstep

lemma active_putAll (options : QuantumOptions) (given : List (OptionField × List UInt8)) :
    (options.putAll given).active = (options.active || decide (given ≠ [])) := by
  induction given generalizing options with
  | nil => simp [QuantumOptions.putAll]
  | cons option given ih =>
    have hstep := ih (options.put option.1 option.2)
    refine hstep.trans ?_
    simp [QuantumOptions.put]

/-- The required options are there, and their numbers are not zero. -/
def Complete (given : List (OptionField × List UInt8)) : Prop :=
  ∀ field ∈ requiredOptions, ∃ value, given.lookup field = some value ∧
    (field ≠ .qpu → field ≠ .workloadKind → decimalValue value ≠ 0)

lemma linesOf_ne_nil {value : List UInt8} (h : value ≠ []) :
    Sequence.linesOf (· = 44) value ≠ [] := by
  obtain ⟨b, rest, rfl⟩ := List.exists_cons_of_ne_nil h
  rw [Sequence.linesOf]
  split
  · exact List.cons_ne_nil _ _
  · split
    · exact List.cons_ne_nil _ _
    · exact List.cons_ne_nil _ _

lemma lookup_isSome_iff (field : OptionField) :
    (∃ value, given.lookup field = some value) ↔ field ∈ given.map Prod.fst := by
  rw [← Option.isSome_iff_exists, List.lookup_isSome_iff]
  simp

/-- What the options come to is valid when nothing is given, or when everything that is required is
given. -/
theorem validate_putAll_iff (hgiven : (given.map Prod.fst).Nodup)
    (hvalid : ∀ option ∈ given, option.1.Accepts option.2) :
    qfwQuantumOptionsValidate (QuantumOptions.putAll {} given) = .ok () ↔
      given = [] ∨ Complete given := by
  by_cases hnil : given = []
  · rw [hnil]
    exact iff_of_true rfl (.inl rfl)
  have hactive : ¬ ¬ (QuantumOptions.putAll {} given).active = true := by
    rw [active_putAll]
    simp [hnil]
  have hpresentIff (field : OptionField) :
      field ∈ (QuantumOptions.putAll {} given).presentFields ↔
        ∃ value, given.lookup field = some value := by
    rw [mem_presentFields_putAll, lookup_isSome_iff]
    exact or_iff_left (Finset.notMem_empty field)
  unfold qfwQuantumOptionsValidate
  rw [if_neg hactive, or_iff_right hnil]
  by_cases hpresent : ∀ field ∈ requiredOptions,
      field ∈ (QuantumOptions.putAll {} given).presentFields
  · rw [if_neg (not_not.mpr hpresent)]
    have hvalue (field : OptionField) (hfield : field ∈ requiredOptions) :
        ∃ value, given.lookup field = some value := (hpresentIff field).mp (hpresent field hfield)
    -- The number of a required field is the one of its value.
    have hnumber (field : OptionField) (hother : field ≠ .qpu ∧ field ≠ .workloadKind)
        {value : List UInt8} (hfound : given.lookup field = some value) :
        (QuantumOptions.putAll {} given).workload.number field = decimalValue value := by
      rw [number_putAll field hother hgiven, hfound]
      rfl
    obtain ⟨names, hnames⟩ := hvalue .qpu (by decide)
    have hqpu : (QuantumOptions.putAll {} given).qpuNames.length ≠ 0 := by
      have hmem := (List.lookup_eq_some_iff.mp hnames)
      obtain ⟨before, after, hsplit, -⟩ := hmem
      have haccepts : ValidNames names := hvalid (.qpu, names) (by rw [hsplit]; simp)
      rw [qpuNames_putAll hgiven, hnames]
      exact fun hlength => linesOf_ne_nil haccepts.ne_nil (List.eq_nil_of_length_eq_zero hlength)
    have hzero : (∀ field ∈ requiredOptions, field ≠ .qpu → field ≠ .workloadKind →
        (QuantumOptions.putAll {} given).workload.number field ≠ 0) ↔ Complete given := by
      constructor
      · intro hall field hfield
        obtain ⟨value, hfound⟩ := hvalue field hfield
        exact ⟨value, hfound, fun hqpu hkind => hnumber field ⟨hqpu, hkind⟩ hfound ▸
          hall field hfield hqpu hkind⟩
      · intro hcomplete field hfield hqpu hkind
        obtain ⟨value, hfound, hne⟩ := hcomplete field hfield
        rw [hnumber field ⟨hqpu, hkind⟩ hfound]
        exact hne hqpu hkind
    rw [← hzero]
    split_ifs with hbad
    · refine iff_of_false nofun fun hall => ?_
      rcases hbad with hbad | hbad | hbad | hbad | hbad
      · exact hqpu hbad
      · exact hall .circuitCount (by decide) (by decide) (by decide) hbad
      · exact hall .maxQubits (by decide) (by decide) (by decide) hbad
      · exact hall .maxDepth (by decide) (by decide) (by decide) hbad
      · exact hall .maxShots (by decide) (by decide) (by decide) hbad
    · simp only [not_or] at hbad
      refine iff_of_true rfl fun field hfield hother hkind => ?_
      simp only [requiredOptions, List.mem_cons, List.not_mem_nil, or_false] at hfield
      rcases hfield with rfl | rfl | rfl | rfl | rfl | rfl
      · exact absurd rfl hother
      · exact absurd rfl hkind
      · exact hbad.2.1
      · exact hbad.2.2.1
      · exact hbad.2.2.2.1
      · exact hbad.2.2.2.2
  · rw [if_pos hpresent]
    refine iff_of_false nofun fun hcomplete => hpresent fun field hfield => ?_
    obtain ⟨value, hfound, -⟩ := hcomplete field hfield
    exact (hpresentIff field).mpr ⟨value, hfound⟩

end Values

end QfwSlurm.Native
