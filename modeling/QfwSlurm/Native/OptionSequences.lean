import QfwSlurm.Native.Options

/-!
# Sequences of option settings

`qfw_quantum_options_set` may be called any number of times, for any field and with any value.  The
first value of a field that is accepted stays: `after_spec` says what holds after any sequence of
calls, whether they succeed or not.  Calls that all succeed agree with one assignment of values to
fields, so their order is irrelevant.
-/

namespace QfwSlurm.Native

/-- The field of a bit of `enum qfw_option_field`. -/
def OptionField.ofCode : ℕ → Option OptionField
  | 1 => some .qpu
  | 2 => some .workloadKind
  | 4 => some .circuitCount
  | 8 => some .maxQubits
  | 16 => some .maxDepth
  | 32 => some .maxShots
  | 64 => some .maxOneQGates
  | 128 => some .maxTwoQGates
  | 256 => some .maxMeasurements
  | _ => none

/-- The arguments of a call of `qfw_quantum_options_set`. -/
structure SetCall where
  field : ℕ
  value : List UInt8
  deriving DecidableEq

namespace QuantumOptions

/-- `qfw_quantum_options_set`, for any number as the field. -/
def call (options : QuantumOptions) (c : SetCall) : Except String Unit × QuantumOptions :=
  match OptionField.ofCode c.field with
  | none => (.error "unknown quantum option", options)
  | some field => qfwQuantumOptionsSet options field c.value

/-- Whether a call returns zero. -/
def Succeeds (options : QuantumOptions) (c : SetCall) : Prop := (options.call c).1 = .ok ()

instance (options : QuantumOptions) (c : SetCall) : Decidable (options.Succeeds c) :=
  match h : (options.call c).1 with
  | .ok () => isTrue h
  | .error _ => isFalse fun hok => by rw [Succeeds, h] at hok; cases hok

/-- The options after a sequence of calls. -/
def after (options : QuantumOptions) (calls : List SetCall) : QuantumOptions :=
  calls.foldl (fun options c => (options.call c).2) options

/-- The calls of a sequence that succeed. -/
def successes (options : QuantumOptions) : List SetCall → List SetCall
  | [] => []
  | c :: calls =>
    if options.Succeeds c then c :: successes (options.call c).2 calls
    else successes (options.call c).2 calls

end QuantumOptions

/-- A call with a value that parses for its field. -/
def SetCall.Parses (c : SetCall) (field : OptionField) (parsed : OptionValue) : Prop :=
  OptionField.ofCode c.field = some field ∧ field.parse c.value = some parsed

/-- The value of the first of some calls that is for this field. -/
def firstValue (calls : List SetCall) (field : OptionField) : Option (List UInt8) :=
  (calls.find? fun c => OptionField.ofCode c.field = some field).map SetCall.value

/-! ### One call -/

section Step

variable {options : QuantumOptions} {c : SetCall}

/-- What one call does. -/
lemma call_cases (options : QuantumOptions) (c : SetCall) :
    (¬ options.Succeeds c ∧ (options.call c).2 = options ∧
      ¬ ∃ field parsed, c.Parses field parsed ∧
        (field ∈ options.presentFields → options.value field = parsed)) ∨
    ∃ field, OptionField.ofCode c.field = some field ∧ field.Accepts c.value ∧
      options.Succeeds c ∧
      ((field ∈ options.presentFields ∧ options.value field = field.meaning c.value ∧
          (options.call c).2 = options.mark field) ∨
        (field ∉ options.presentFields ∧ (options.call c).2 = options.put field c.value)) := by
  unfold QuantumOptions.Succeeds QuantumOptions.call SetCall.Parses
  rcases OptionField.ofCode c.field with - | field
  · refine .inl ⟨nofun, rfl, ?_⟩
    rintro ⟨field, parsed, ⟨hfield, -⟩, -⟩
    cases hfield
  · dsimp only
    have hsets := sets_qfwQuantumOptionsSet options field c.value
    generalize qfwQuantumOptionsSet options field c.value = answer at hsets
    cases hsets with
    | invalid hvalue =>
      refine .inl ⟨nofun, rfl, ?_⟩
      rintro ⟨other, parsed, ⟨hother, hparse⟩, -⟩
      obtain rfl := Option.some.inj hother
      exact hvalue (parse_eq_some_iff.mp hparse).1
    | conflicting hvalue hfield hne =>
      refine .inl ⟨nofun, rfl, ?_⟩
      rintro ⟨other, parsed, ⟨hother, hparse⟩, hsame⟩
      obtain rfl := Option.some.inj hother
      obtain ⟨-, rfl⟩ := parse_eq_some_iff.mp hparse
      exact hne (hsame hfield)
    | same hvalue hfield hsame =>
      exact .inr ⟨field, rfl, hvalue, rfl, .inl ⟨hfield, hsame, rfl⟩⟩
    | stored hvalue hfield => exact .inr ⟨field, rfl, hvalue, rfl, .inr ⟨hfield, rfl⟩⟩

lemma value_put (options : QuantumOptions) (field other : OptionField) (raw : List UInt8) :
    (options.put field raw).value other =
      if other = field then field.meaning raw else options.value other := by
  cases field <;> cases other <;> rfl

lemma value_mark (options : QuantumOptions) (field other : OptionField) :
    (options.mark field).value other = options.value other := by
  cases other <;> rfl

/-- A call succeeds when its value parses, and is the one that is there already. -/
lemma succeeds_iff : options.Succeeds c ↔ ∃ field parsed, c.Parses field parsed ∧
    (field ∈ options.presentFields → options.value field = parsed) := by
  rcases call_cases options c with ⟨hfails, -, hnone⟩ | ⟨field, hfield, hvalue, hsucceeds, hcase⟩
  · exact iff_of_false hfails hnone
  · refine iff_of_true hsucceeds
      ⟨field, field.meaning c.value, ⟨hfield, parse_eq_some_iff.mpr ⟨hvalue, rfl⟩⟩, fun hmem => ?_⟩
    rcases hcase with ⟨-, hsame, -⟩ | ⟨hfresh, -⟩
    · exact hsame
    · exact absurd hmem hfresh

/-- What a successful call leaves: its field is there with its value, nothing else changes. -/
lemma call_of_succeeds {field : OptionField} (h : options.Succeeds c)
    (hfield : OptionField.ofCode c.field = some field) :
    field.Accepts c.value ∧ (options.call c).2.presentFields = insert field options.presentFields ∧
      ∀ other, (options.call c).2.value other =
        if other = field then field.meaning c.value else options.value other := by
  rcases call_cases options c with ⟨hfails, -⟩ | ⟨found, hfound, hvalue, -, hcase⟩
  · exact absurd h hfails
  rw [hfound] at hfield
  obtain rfl := Option.some.inj hfield
  rcases hcase with ⟨-, hsame, hcall⟩ | ⟨-, hcall⟩
  · refine ⟨hvalue, by rw [hcall]; rfl, fun other => ?_⟩
    rw [hcall, value_mark]
    split_ifs with hother
    · rw [hother, hsame]
    · rfl
  · exact ⟨hvalue, by rw [hcall]; rfl, fun other => by rw [hcall, value_put]⟩

end Step

/-! ### What is fixed by the fields that are there -/

/-- The options as the calls leave them: what is not there has its first value, and the flags say
what is there. -/
structure QuantumOptions.Regular (options : QuantumOptions) : Prop where
  active : options.active = decide (options.presentFields ≠ ∅)
  initial : ∀ field ∉ options.presentFields, options.value field = ({} : QuantumOptions).value field
  walltimeNs : options.workload.walltimeNs = 0
  hasMaxOneQGates :
    options.workload.hasMaxOneQGates = decide (.maxOneQGates ∈ options.presentFields)
  hasMaxTwoQGates :
    options.workload.hasMaxTwoQGates = decide (.maxTwoQGates ∈ options.presentFields)
  hasMaxMeasurements :
    options.workload.hasMaxMeasurements = decide (.maxMeasurements ∈ options.presentFields)

lemma regular_init : ({} : QuantumOptions).Regular := by
  constructor <;> first | rfl | exact fun _ _ => rfl

/-- A call keeps the options regular. -/
lemma QuantumOptions.Regular.call {options : QuantumOptions} (h : options.Regular) (c : SetCall) :
    (options.call c).2.Regular := by
  rcases call_cases options c with
    ⟨-, hsame, -⟩ | ⟨field, -, -, -, ⟨hfield, -, hcall⟩ | ⟨hfresh, hcall⟩⟩
  · rw [hsame]
    exact h
  · have hpresent : options.mark field = options := by
      have hinsert : insert field options.presentFields = options.presentFields :=
        Finset.insert_eq_of_mem hfield
      have hactive : options.active = true := by
        rw [h.active, decide_eq_true_eq]
        exact Finset.ne_empty_of_mem hfield
      rw [QuantumOptions.mark, hinsert, ← hactive]
    rw [hcall, hpresent]
    exact h
  · rw [hcall]
    have hpresent : (options.put field c.value).presentFields =
        insert field options.presentFields := rfl
    have hflag {flag : OptionField} {before now : Bool}
        (hbefore : before = decide (flag ∈ options.presentFields))
        (hnow : now = (decide (flag = field) || before)) :
        now = decide (flag ∈ (options.put field c.value).presentFields) := by
      rw [hnow, hbefore, hpresent, ← Bool.decide_or]
      exact decide_eq_decide.mpr Finset.mem_insert.symm
    refine ⟨?_, fun other hother => ?_, ?_, hflag h.hasMaxOneQGates ?_, hflag h.hasMaxTwoQGates ?_,
      hflag h.hasMaxMeasurements ?_⟩
    · rw [hpresent, eq_comm, decide_eq_true (Finset.insert_ne_empty field _)]
      rfl
    · rw [hpresent, Finset.mem_insert, not_or] at hother
      rw [value_put, if_neg hother.1]
      exact h.initial other hother.2
    · rw [← h.walltimeNs]
      cases field <;> rfl
    all_goals cases field <;> rfl

lemma QuantumOptions.Regular.after {options : QuantumOptions} (h : options.Regular)
    (calls : List SetCall) : (options.after calls).Regular := by
  induction calls generalizing options with
  | nil => exact h
  | cons c calls ih => exact ih (h.call c)

/-- Regular options with the same fields and the same values are the same. -/
lemma QuantumOptions.Regular.ext {options other : QuantumOptions} (h : options.Regular)
    (h' : other.Regular) (hpresent : options.presentFields = other.presentFields)
    (hvalue : ∀ field ∈ options.presentFields, options.value field = other.value field) :
    options = other := by
  have hall (field : OptionField) : options.value field = other.value field := by
    by_cases hfield : field ∈ options.presentFields
    · exact hvalue field hfield
    · rw [h.initial field hfield, h'.initial field (hpresent ▸ hfield)]
  have hnumber (field : OptionField) (hqpu : field ≠ .qpu) (hkind : field ≠ .workloadKind) :
      options.workload.number field = other.workload.number field := by
    have hfield := hall field
    cases field with
    | qpu => exact absurd rfl hqpu
    | workloadKind => exact absurd rfl hkind
    | _ => exact OptionValue.number.inj hfield
  have hactive : options.active = other.active := by rw [h.active, h'.active, hpresent]
  have hnames : options.qpuNames = other.qpuNames := OptionValue.names.inj (hall .qpu)
  have hkind : options.workload.kind = other.workload.kind :=
    OptionValue.number.inj (hall .workloadKind)
  have hwalltime : options.workload.walltimeNs = other.workload.walltimeNs := by
    rw [h.walltimeNs, h'.walltimeNs]
  have hone : options.workload.hasMaxOneQGates = other.workload.hasMaxOneQGates := by
    rw [h.hasMaxOneQGates, h'.hasMaxOneQGates, hpresent]
  have htwo : options.workload.hasMaxTwoQGates = other.workload.hasMaxTwoQGates := by
    rw [h.hasMaxTwoQGates, h'.hasMaxTwoQGates, hpresent]
  have hmeasure : options.workload.hasMaxMeasurements = other.workload.hasMaxMeasurements := by
    rw [h.hasMaxMeasurements, h'.hasMaxMeasurements, hpresent]
  have hcircuits := hnumber .circuitCount (by decide) (by decide)
  have hqubits := hnumber .maxQubits (by decide) (by decide)
  have hdepth := hnumber .maxDepth (by decide) (by decide)
  have hshots := hnumber .maxShots (by decide) (by decide)
  have honeq := hnumber .maxOneQGates (by decide) (by decide)
  have htwoq := hnumber .maxTwoQGates (by decide) (by decide)
  have hmeasured := hnumber .maxMeasurements (by decide) (by decide)
  obtain ⟨active, names, workload, present⟩ := options
  obtain ⟨active', names', workload', present'⟩ := other
  obtain ⟨_, _, _, _, _, _, _, _, _, _, _, _⟩ := workload
  obtain ⟨_, _, _, _, _, _, _, _, _, _, _, _⟩ := workload'
  simp only [QsgpWorkload.number] at *
  subst_vars
  rfl

/-! ### Sequences of calls -/

lemma firstValue_append_singleton (calls : List SetCall) (c : SetCall) (field : OptionField) :
    firstValue (calls ++ [c]) field = (firstValue calls field).or
      (if OptionField.ofCode c.field = some field then some c.value else none) := by
  unfold firstValue
  rw [List.find?_append]
  by_cases hfield : OptionField.ofCode c.field = some field
  · rw [if_pos hfield, List.find?_singleton, if_pos (by simpa using hfield)]
    cases calls.find? fun c => OptionField.ofCode c.field = some field <;> rfl
  · rw [if_neg hfield, List.find?_singleton, if_neg (by simpa using hfield)]
    cases calls.find? fun c => OptionField.ofCode c.field = some field <;> rfl

/-- The options hold the first values of the calls that have succeeded. -/
structure Records (options : QuantumOptions) (done : List SetCall) : Prop where
  field : ∀ c ∈ done, ∃ field, OptionField.ofCode c.field = some field
  present : ∀ field, field ∈ options.presentFields ↔ ∃ first, firstValue done field = some first
  value : ∀ field first, firstValue done field = some first →
    field.Accepts first ∧ options.value field = field.meaning first

lemma records_init : Records {} [] where
  field c hc := absurd hc List.not_mem_nil
  present field := iff_of_false (Finset.notMem_empty field) (by rintro ⟨first, hfirst⟩; cases hfirst)
  value field first hfirst := by cases hfirst

/-- One more call that succeeds. -/
lemma Records.call {options : QuantumOptions} {done : List SetCall} {c : SetCall}
    (h : Records options done) (hsucceeds : options.Succeeds c) :
    Records (options.call c).2 (done ++ [c]) := by
  obtain ⟨field, parsed, ⟨hfield, hparse⟩, hsame⟩ := succeeds_iff.mp hsucceeds
  obtain ⟨hvalue, hpresent, hvalues⟩ := call_of_succeeds hsucceeds hfield
  have hfirst (other : OptionField) : firstValue (done ++ [c]) other =
      (firstValue done other).or (if other = field then some c.value else none) := by
    rw [firstValue_append_singleton, hfield]
    congr 1
    simp only [Option.some.injEq, eq_comm]
  refine ⟨fun d hd => ?_, fun other => ?_, fun other first hother => ?_⟩
  · rcases List.mem_append.mp hd with hd | hd
    · exact h.field d hd
    · exact ⟨field, List.mem_singleton.mp hd ▸ hfield⟩
  · rw [hpresent, Finset.mem_insert, h.present, hfirst]
    rcases firstValue done other with - | first
    · rw [Option.none_or]
      by_cases hother : other = field
      · exact iff_of_true (.inl hother) ⟨c.value, if_pos hother⟩
      · rw [if_neg hother]
        exact or_iff_right hother
    · exact iff_of_true (.inr ⟨first, rfl⟩) ⟨first, rfl⟩
  · rw [hfirst] at hother
    rw [hvalues]
    rcases hbefore : firstValue done other with - | before
    · rw [hbefore, Option.none_or] at hother
      by_cases heq : other = field
      · rw [if_pos heq] at hother ⊢
        obtain rfl := Option.some.inj hother
        exact ⟨heq ▸ hvalue, heq ▸ rfl⟩
      · rw [if_neg heq] at hother
        cases hother
    · rw [hbefore, Option.some_or] at hother
      obtain rfl := Option.some.inj hother
      obtain ⟨haccepts, hmeant⟩ := h.value other before hbefore
      refine ⟨haccepts, ?_⟩
      by_cases heq : other = field
      · -- The value that is there already is the one of the call.
        rw [if_pos heq]
        subst heq
        have hmem := (h.present other).mpr ⟨before, hbefore⟩
        rw [← hmeant, hsame hmem]
        exact (parse_eq_some_iff.mp hparse).2.symm
      · rw [if_neg heq, hmeant]

/-- Any sequence of calls. -/
theorem Records.after {options : QuantumOptions} {done : List SetCall} (h : Records options done)
    (calls : List SetCall) :
    Records (options.after calls) (done ++ options.successes calls) := by
  induction calls generalizing options done with
  | nil =>
    rw [QuantumOptions.successes, List.append_nil]
    exact h
  | cons c calls ih =>
    rw [QuantumOptions.successes]
    by_cases hsucceeds : options.Succeeds c
    · have hnext := ih (h.call hsucceeds)
      rw [List.append_assoc, List.singleton_append] at hnext
      rw [if_pos hsucceeds]
      exact hnext
    · have hsame : (options.call c).2 = options := by
        rcases call_cases options c with ⟨-, hsame, -⟩ | ⟨-, -, -, hok, -⟩
        · exact hsame
        · exact absurd hok hsucceeds
      have hnext : Records (options.call c).2 done := by
        rw [hsame]
        exact h
      rw [if_neg hsucceeds]
      exact ih hnext

/-- What the options hold after any sequence of calls. -/
lemma records_after (calls : List SetCall) :
    Records (({} : QuantumOptions).after calls) (({} : QuantumOptions).successes calls) :=
  records_init.after calls

/-! ### Validation -/

/-- A field is present when a call has succeeded. -/
lemma Records.eq_nil_iff {options : QuantumOptions} {done : List SetCall}
    (h : Records options done) : done = [] ↔ options.presentFields = ∅ := by
  constructor
  · rintro rfl
    refine Finset.eq_empty_of_forall_notMem fun field hfield => ?_
    obtain ⟨first, hfirst⟩ := (h.present field).mp hfield
    cases hfirst
  · intro hempty
    cases done with
    | nil => rfl
    | cons c done =>
      obtain ⟨field, hfield⟩ := h.field c List.mem_cons_self
      have hmem := (h.present field).mpr ⟨c.value, by
        unfold firstValue
        rw [List.find?_cons_of_pos (by simpa using hfield)]
        rfl⟩
      rw [hempty] at hmem
      exact absurd hmem (Finset.notMem_empty field)

/-- Active options pass when the required ones are present and not zero; names and a kind that are
present are never empty and never zero. -/
lemma validate_eq_ok_iff_of_active {options : QuantumOptions} (hactive : options.active = true)
    (hqpu : .qpu ∈ options.presentFields → options.qpuNames ≠ [])
    (hkind : .workloadKind ∈ options.presentFields → options.workload.kind ≠ 0) :
    qfwQuantumOptionsValidate options = .ok () ↔
      ∀ field ∈ requiredOptions,
        field ∈ options.presentFields ∧ options.value field ≠ .number 0 := by
  have hnumber {n : ℕ} : OptionValue.number n ≠ .number 0 ↔ n ≠ 0 := by
    rw [ne_eq, OptionValue.number.injEq]
  unfold qfwQuantumOptionsValidate
  rw [if_neg (not_not.mpr hactive)]
  by_cases hpresent : ∀ field ∈ requiredOptions, field ∈ options.presentFields
  · rw [if_neg (not_not.mpr hpresent)]
    constructor
    · intro hvalid field hfield
      refine ⟨hpresent field hfield, ?_⟩
      split at hvalid
      · cases hvalid
      rename_i hzero
      simp only [not_or] at hzero
      simp only [requiredOptions, List.mem_cons, List.not_mem_nil, or_false] at hfield
      rcases hfield with rfl | rfl | rfl | rfl | rfl | rfl
      · rintro ⟨⟩
      · exact hnumber.mpr (hkind (hpresent .workloadKind (by decide)))
      · exact hnumber.mpr hzero.2.1
      · exact hnumber.mpr hzero.2.2.1
      · exact hnumber.mpr hzero.2.2.2.1
      · exact hnumber.mpr hzero.2.2.2.2
    · intro hall
      have hnonzero (field : OptionField) (hfield : field ∈ requiredOptions) :=
        (hall field hfield).2
      refine if_neg ?_
      rintro (hzero | hzero | hzero | hzero | hzero)
      · exact hqpu (hpresent .qpu (by decide)) (List.eq_nil_of_length_eq_zero hzero)
      · exact hnumber.mp (hnonzero .circuitCount (by decide)) hzero
      · exact hnumber.mp (hnonzero .maxQubits (by decide)) hzero
      · exact hnumber.mp (hnonzero .maxDepth (by decide)) hzero
      · exact hnumber.mp (hnonzero .maxShots (by decide)) hzero
  · rw [if_pos hpresent]
    exact iff_of_false (by rintro ⟨⟩) fun hall => hpresent fun field hfield => (hall field hfield).1

/-- A number of an accepted value is not zero when what the value stands for is not zero. -/
lemma Records.validate_iff {options : QuantumOptions} {done : List SetCall}
    (h : Records options done) (hregular : options.Regular) :
    qfwQuantumOptionsValidate options = .ok () ↔ done = [] ∨
      ∀ field ∈ requiredOptions, ∃ first parsed, firstValue done field = some first ∧
        field.parse first = some parsed ∧ parsed ≠ .number 0 := by
  have hparse {field : OptionField} {first : List UInt8}
      (hfirst : firstValue done field = some first) :
      field.parse first = some (options.value field) := by
    obtain ⟨haccepts, hvalue⟩ := h.value field first hfirst
    exact parse_eq_some_iff.mpr ⟨haccepts, hvalue⟩
  have hstands : (∀ field ∈ requiredOptions, ∃ first parsed, firstValue done field = some first ∧
      field.parse first = some parsed ∧ parsed ≠ .number 0) ↔
      ∀ field ∈ requiredOptions,
        field ∈ options.presentFields ∧ options.value field ≠ .number 0 := by
    refine forall_congr' fun field => imp_congr_right fun _ => ?_
    rw [h.present]
    constructor
    · rintro ⟨first, parsed, hfirst, hparsed, hne⟩
      rw [hparse hfirst] at hparsed
      exact ⟨⟨first, hfirst⟩, Option.some.inj hparsed ▸ hne⟩
    · rintro ⟨⟨first, hfirst⟩, hne⟩
      exact ⟨first, _, hfirst, hparse hfirst, hne⟩
  rw [hstands, h.eq_nil_iff]
  by_cases hempty : options.presentFields = ∅
  · refine iff_of_true ?_ (.inl hempty)
    unfold qfwQuantumOptionsValidate
    rw [if_pos (by rw [hregular.active, hempty]; decide)]
  have hactive : options.active = true := by rw [hregular.active, decide_eq_true hempty]
  rw [or_iff_right hempty]
  apply validate_eq_ok_iff_of_active hactive
  · intro hpresent
    obtain ⟨first, hfirst⟩ := (h.present .qpu).mp hpresent
    obtain ⟨haccepts, hvalue⟩ := h.value .qpu first hfirst
    rw [OptionValue.names.inj hvalue]
    exact linesOf_ne_nil haccepts.ne_nil
  · intro hpresent
    obtain ⟨first, hfirst⟩ := (h.present .workloadKind).mp hpresent
    obtain ⟨-, hvalue⟩ := h.value .workloadKind first hfirst
    rw [OptionValue.number.inj hvalue]
    split_ifs <;> decide

/-! ### Order -/

/-- A call for a field with the value that is meant for it. -/
def SetCall.Agrees (target : OptionField → OptionValue) (c : SetCall) : Prop :=
  ∃ field, OptionField.ofCode c.field = some field ∧ field.Accepts c.value ∧
    field.meaning c.value = target field

section Order

variable {options : QuantumOptions} {target : OptionField → OptionValue} {calls : List SetCall}

/-- Calls that agree all succeed, and leave their fields with what is meant for them. -/
lemma after_of_agrees (hoptions : ∀ field ∈ options.presentFields, options.value field = target field)
    (hcalls : ∀ c ∈ calls, c.Agrees target) :
    (∀ field ∈ (options.after calls).presentFields, (options.after calls).value field = target field) ∧
      ∀ field, field ∈ (options.after calls).presentFields ↔
        field ∈ options.presentFields ∨ ∃ c ∈ calls, OptionField.ofCode c.field = some field := by
  induction calls generalizing options with
  | nil =>
    refine ⟨hoptions, fun field => (or_iff_left ?_).symm⟩
    rintro ⟨c, hc, -⟩
    exact absurd hc List.not_mem_nil
  | cons c calls ih =>
    obtain ⟨hc, hrest⟩ := List.forall_mem_cons.mp hcalls
    obtain ⟨field, hfield, haccepts, hmeant⟩ := hc
    have hsucceeds : options.Succeeds c := succeeds_iff.mpr ⟨field, field.meaning c.value,
      ⟨hfield, parse_eq_some_iff.mpr ⟨haccepts, rfl⟩⟩, fun hmem => by
        rw [hoptions field hmem, hmeant]⟩
    obtain ⟨-, hpresent, hvalues⟩ := call_of_succeeds hsucceeds hfield
    have hnext : ∀ other ∈ (options.call c).2.presentFields,
        (options.call c).2.value other = target other := by
      intro other hother
      rw [hvalues]
      by_cases heq : other = field
      · rw [if_pos heq, hmeant, heq]
      · rw [if_neg heq]
        rw [hpresent, Finset.mem_insert] at hother
        exact hoptions other (hother.resolve_left heq)
    obtain ⟨hvalue, hfields⟩ := ih hnext hrest
    refine ⟨hvalue, fun other => (hfields other).trans ?_⟩
    rw [hpresent, Finset.mem_insert]
    constructor
    · rintro ((rfl | hmem) | ⟨d, hd, hother⟩)
      · exact .inr ⟨c, List.mem_cons_self, hfield⟩
      · exact .inl hmem
      · exact .inr ⟨d, List.mem_cons_of_mem c hd, hother⟩
    · rintro (hmem | ⟨d, hd, hother⟩)
      · exact .inl (.inr hmem)
      · rcases List.mem_cons.mp hd with rfl | hd
        · rw [hfield] at hother
          exact .inl (.inl (Option.some.inj hother).symm)
        · exact .inr ⟨d, hd, hother⟩

/-- Calls that all succeed agree with the first values that they give. -/
lemma agrees_of_successes (hall : ({} : QuantumOptions).successes calls = calls) :
    ∀ c ∈ calls, c.Agrees (({} : QuantumOptions).after calls).value := by
  have hsome (options : QuantumOptions) (calls : List SetCall) (hall : options.successes calls = calls) :
      (∀ c ∈ calls, c.Agrees (options.after calls).value) ∧
        ∀ field ∈ options.presentFields, field ∈ (options.after calls).presentFields ∧
          (options.after calls).value field = options.value field := by
    induction calls generalizing options with
    | nil => exact ⟨fun c hc => absurd hc List.not_mem_nil, fun field hfield => ⟨hfield, rfl⟩⟩
    | cons c calls ih =>
      have hlength : (options.successes (c :: calls)).length = calls.length + 1 := by
        rw [hall, List.length_cons]
      have hshorter (options : QuantumOptions) : (options.successes calls).length ≤ calls.length := by
        clear hall ih hlength
        induction calls generalizing options with
        | nil => exact le_refl _
        | cons c calls ih =>
          rw [QuantumOptions.successes, List.length_cons]
          split_ifs
          · exact Nat.succ_le_succ (ih _)
          · exact (ih _).trans (Nat.le_succ _)
      rw [QuantumOptions.successes] at hall hlength
      by_cases hsucceeds : options.Succeeds c
      · rw [if_pos hsucceeds] at hall
        obtain ⟨hagree, hkept⟩ := ih (options.call c).2 (List.cons.inj hall).2
        obtain ⟨field, parsed, ⟨hfield, hparse⟩, hsame⟩ := succeeds_iff.mp hsucceeds
        obtain ⟨hvalue, hpresent, hvalues⟩ := call_of_succeeds hsucceeds hfield
        have hmem {other : OptionField} (hother : other = field ∨ other ∈ options.presentFields) :
            other ∈ (options.call c).2.presentFields := by
          rw [hpresent]
          exact Finset.mem_insert.mpr hother
        refine ⟨List.forall_mem_cons.mpr ⟨⟨field, hfield, hvalue, ?_⟩, hagree⟩,
          fun other hother => ⟨(hkept other (hmem (.inr hother))).1, ?_⟩⟩
        · have hstays := (hkept field (hmem (.inl rfl))).2
          rw [hvalues, if_pos rfl] at hstays
          exact hstays.symm
        · have hstays := (hkept other (hmem (.inr hother))).2
          rw [hvalues] at hstays
          refine hstays.trans ?_
          split_ifs with heq
          · subst heq
            rw [hsame hother]
            exact (parse_eq_some_iff.mp hparse).2.symm
          · rfl
      · rw [if_neg hsucceeds] at hlength
        have hle := hshorter (options.call c).2
        omega
  exact (hsome {} calls hall).1

/-- The order of calls that all succeed is irrelevant. -/
lemma after_perm (hall : ({} : QuantumOptions).successes calls = calls) {other : List SetCall}
    (hperm : calls.Perm other) :
    ({} : QuantumOptions).after other = ({} : QuantumOptions).after calls := by
  have hagree := agrees_of_successes hall
  have hnone : ∀ field ∈ ({} : QuantumOptions).presentFields, ({} : QuantumOptions).value field =
      (({} : QuantumOptions).after calls).value field :=
    fun field hfield => absurd hfield (Finset.notMem_empty field)
  obtain ⟨-, hfields⟩ := after_of_agrees hnone hagree
  obtain ⟨hvalue, hotherFields⟩ :=
    after_of_agrees hnone fun c hc => hagree c (hperm.mem_iff.mpr hc)
  refine (regular_init.after other).ext (regular_init.after calls) (Finset.ext fun field => ?_) hvalue
  rw [hfields, hotherFields]
  exact or_congr_right (exists_congr fun c => and_congr_left fun _ => hperm.mem_iff.symm)

end Order

/-- After any sequence of calls, a call succeeds when its value parses and is the same as the first
one of its field that has succeeded; a call that fails changes nothing; the order of calls that all
succeed is irrelevant; and the options are valid when no call has succeeded, or every required field
has a value that is not zero. -/
theorem options_accumulate (calls : List SetCall) :
    let options := ({} : QuantumOptions).after calls
    let done := ({} : QuantumOptions).successes calls
    (∀ c, options.Succeeds c ↔ ∃ field parsed, c.Parses field parsed ∧
      ∀ first, firstValue done field = some first → field.parse first = some parsed) ∧
    (∀ c, ¬ options.Succeeds c → (options.call c).2 = options) ∧
    (done = calls → ∀ other, calls.Perm other → ({} : QuantumOptions).after other = options) ∧
    (qfwQuantumOptionsValidate options = .ok () ↔ done = [] ∨
      ∀ field ∈ requiredOptions, ∃ first parsed, firstValue done field = some first ∧
        field.parse first = some parsed ∧ parsed ≠ .number 0) := by
  intro options done
  have hrecords : Records options done := records_after calls
  refine ⟨fun c => ?_, fun c hfails => ?_, fun hall other hperm => after_perm hall hperm,
    hrecords.validate_iff (regular_init.after calls)⟩
  · rw [succeeds_iff]
    refine exists_congr fun field => exists_congr fun parsed => and_congr_right fun _ => ?_
    rw [hrecords.present]
    constructor
    · intro hsame first hfirst
      obtain ⟨haccepts, hvalue⟩ := hrecords.value field first hfirst
      exact parse_eq_some_iff.mpr ⟨haccepts, (hsame ⟨first, hfirst⟩).symm.trans hvalue⟩
    · rintro hsame ⟨first, hfirst⟩
      obtain ⟨-, hvalue⟩ := hrecords.value field first hfirst
      exact hvalue.trans (parse_eq_some_iff.mp (hsame first hfirst)).2.symm
  · rcases call_cases options c with ⟨-, hsame, -⟩ | ⟨-, -, -, hok, -⟩
    · exact hsame
    · exact absurd hok hfails

end QfwSlurm.Native
