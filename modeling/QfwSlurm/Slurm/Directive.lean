import QfwSlurm.Lua.Strings
import QfwSlurm.Native.Options

/-!
# The directive of a submission

`job_submit.lua` reads the quantum options from the environment entries of the plugin, checks them,
maps the resource names to services by the policy of the site, and writes them into one line, the
directive.  `directive_eq_ok_iff` says which options it accepts, and what it writes for them.
-/

namespace QfwSlurm

open Native

/-- The name of an option in the environment entries. -/
def spankName : OptionField → String
  | .qpu => "qpu"
  | .workloadKind => "workload_kind"
  | .circuitCount => "circ_count"
  | .maxQubits => "max_qubits"
  | .maxDepth => "max_depth"
  | .maxShots => "max_shots"
  | .maxOneQGates => "max_one_q_gates"
  | .maxTwoQGates => "max_two_q_gates"
  | .maxMeasurements => "max_measurements"

/-- `option_names` -/
def directiveName : OptionField → String
  | .qpu => "qpu"
  | .workloadKind => "workload"
  | .circuitCount => "circuits"
  | .maxQubits => "qubits"
  | .maxDepth => "depth"
  | .maxShots => "shots"
  | .maxOneQGates => "oneq"
  | .maxTwoQGates => "twoq"
  | .maxMeasurements => "measurements"

/-- `canonical_order`, which begins with `required`. -/
def canonicalOrder : List OptionField :=
  [.qpu, .workloadKind, .circuitCount, .maxQubits, .maxDepth, .maxShots, .maxOneQGates,
    .maxTwoQGates, .maxMeasurements]

/-- `numeric` -/
def numericOptions : List OptionField :=
  [.circuitCount, .maxQubits, .maxDepth, .maxShots, .maxOneQGates, .maxTwoQGates, .maxMeasurements]

/-- `option_prefix` -/
def optionPrefixText : List UInt8 := utf8 "_SLURM_SPANK_OPTION_spank_quantum_"

/-- The values of the options that are given. -/
@[reducible] def OptionValues : Type := List (OptionField × List UInt8)

/-- `collect_options`, with the values that are collected already. -/
def collectOptions (values : OptionValues) :
    List (List UInt8) → Except (List UInt8) OptionValues
  | [] => .ok values
  | entry :: entries =>
    match Lua.keyValue entry with
    | none => collectOptions values entries
    | some (key, value) =>
      if ¬ optionPrefixText <+: key then collectOptions values entries
      else
        let name := key.drop optionPrefixText.length
        match canonicalOrder.find? fun field => utf8 (spankName field) = name with
        | none => .error (utf8 "unknown qfw-slurm option metadata: " ++ name)
        | some field =>
          if (values.lookup field).isSome then
            .error (utf8 "duplicate qfw-slurm option metadata: " ++ name)
          else collectOptions (values ++ [(field, value)]) entries

/-- The resource policy of the site. -/
structure Policy where
  resources : List UInt8 → Option (List UInt8)
  /-- For a partition with a policy, which resources are allowed; `none` where it does not say. -/
  partitions : List UInt8 → Option (Option (List UInt8 → Bool))

/-- The part of `job_desc` that is read. -/
structure JobDesc where
  spankJobEnv : Option (List (List UInt8))
  partition : Option (List UInt8)

/-- Whether the policy allows a resource in the partition of the job. -/
def Policy.allows (policy : Policy) (partition : Option (List UInt8)) (name : List UInt8) : Bool :=
  match partition.bind policy.partitions with
  | some (some allowed) => allowed name
  | _ => true

/-- The loop of `map_qpus`. -/
def mapNames (policy : Policy) (partition : Option (List UInt8)) (mapped : List (List UInt8)) :
    List (List UInt8) → Except (List UInt8) (List (List UInt8))
  | [] => .ok mapped
  | name :: names =>
    if ¬ Lua.isWord name then .error (utf8 "invalid QPU resource name")
    else
      match policy.resources name with
      | none => .error (utf8 "unknown QPU resource: " ++ name)
      | some serviceId =>
        if ¬ policy.allows partition name then
          .error (utf8 "QPU resource is not allowed in partition " ++ partition.getD [])
        else if serviceId ∈ mapped then .error (utf8 "duplicate QPM service: " ++ serviceId)
        else mapNames policy partition (mapped ++ [serviceId]) names

/-- `map_qpus`, before the services are joined. -/
def mapQpus (policy : Policy) (partition : Option (List UInt8)) (value : List UInt8) :
    Except (List UInt8) (List (List UInt8)) := do
  let mapped ← mapNames policy partition [] (Lua.commaFields value)
  if mapped.length = 0 then .error (utf8 "at least one QPU resource is required")
  else .ok mapped

/-- `string.gsub(name, "_", "-")` -/
def optionText (field : OptionField) : List UInt8 :=
  (utf8 (spankName field)).map fun b => if b = 95 then 45 else b

/-- The check of the required options. -/
def checkRequired (values : OptionValues) : List OptionField → Except (List UInt8) Unit
  | [] => .ok ()
  | field :: fields =>
    match values.lookup field with
    | none | some [] => .error (utf8 "missing required option --" ++ optionText field)
    | some _ => checkRequired values fields

/-- The check of the numbers. -/
def checkNumeric (values : OptionValues) : List OptionField → Except (List UInt8) Unit
  | [] => .ok ()
  | field :: fields =>
    match values.lookup field with
    | none => checkNumeric values fields
    | some value =>
      if Lua.isPositive value then checkNumeric values fields
      else .error (utf8 "invalid numeric option --" ++ optionText field)

/-- The fields of the directive, with the services in the place of the resource names. -/
def directiveFields (values : OptionValues) (services : List UInt8) : List (List UInt8) :=
  canonicalOrder.filterMap fun field => (values.lookup field).map fun value =>
    utf8 (directiveName field) ++ 61 :: (if field = .qpu then services else value)

/-- The directive. -/
def directiveLine (values : OptionValues) (services : List UInt8) : List UInt8 :=
  Lua.concat (utf8 "#QFW" :: utf8 "v=1" :: directiveFields values services) (utf8 " ")

/-- The message for a directive that is too long. -/
def directiveTooLong : List UInt8 := utf8 "QFW allocation directive exceeds 2048 bytes"

/-- `directive`: the empty text when no option is given. -/
def directive (policy : Policy) (jobDesc : JobDesc) : Except (List UInt8) (List UInt8) := do
  let values ← collectOptions [] (jobDesc.spankJobEnv.getD [])
  if values = [] then .ok []
  else do
    checkRequired values requiredOptions
    checkNumeric values numericOptions
    let workloadKind := (values.lookup .workloadKind).getD []
    if workloadKind ≠ utf8 "quantum" ∧ workloadKind ≠ utf8 "hybrid" then
      .error (utf8 "invalid --workload-kind")
    else do
      let services ← mapQpus policy jobDesc.partition ((values.lookup .qpu).getD [])
      let output := directiveLine values (Lua.concat services (utf8 ","))
      if 2048 < output.length then .error directiveTooLong else .ok output

/-! ### What is accepted -/

/-- The environment entry of an option. -/
def spankEntry (option : OptionField × List UInt8) : List UInt8 :=
  optionPrefixText ++ utf8 (spankName option.1) ++ 61 :: option.2

lemma find_spankName (field : OptionField) :
    canonicalOrder.find? (fun other => utf8 (spankName other) = utf8 (spankName field)) =
      some field := by
  cases field <;> decide +kernel

/-- The options are collected from their entries. -/
lemma collectOptions_spankEntry {values given : OptionValues}
    (hgiven : (given.map Prod.fst).Nodup)
    (hfresh : ∀ option ∈ given, values.lookup option.1 = none) :
    collectOptions values (given.map spankEntry) = .ok (values ++ given) := by
  induction given generalizing values with
  | nil => rw [List.append_nil]; rfl
  | cons option given ih =>
    obtain ⟨field, value⟩ := option
    rw [List.map_cons, List.nodup_cons] at hgiven
    obtain ⟨hfield, hrest⟩ := List.forall_mem_cons.mp hfresh
    have hname : ∀ b ∈ optionPrefixText ++ utf8 (spankName field), b ≠ 61 := by
      have hall : (optionPrefixText ++ utf8 (spankName field)).all (· ≠ 61) = true := by
        cases field <;> decide +kernel
      intro b hb
      exact of_decide_eq_true (List.all_eq_true.mp hall b hb)
    have hne : optionPrefixText ++ utf8 (spankName field) ≠ [] := by
      cases field <;> decide +kernel
    have hentry : Lua.keyValue (spankEntry (field, value)) =
        some (optionPrefixText ++ utf8 (spankName field), value) :=
      Lua.keyValue_append hne hname value
    have hdrop : (optionPrefixText ++ utf8 (spankName field)).drop optionPrefixText.length =
        utf8 (spankName field) := List.drop_left
    rw [List.map_cons, collectOptions, hentry]
    dsimp only
    rw [if_neg (not_not.mpr (List.prefix_append _ _)), hdrop, find_spankName]
    dsimp only
    have hnone : values.lookup field = none := hfield
    rw [hnone, if_neg (by simp), ih hgiven.2, List.append_assoc, List.singleton_append]
    intro option hoption
    have hother : option.1 ≠ field := by
      intro heq
      have hmem := List.mem_map_of_mem (f := Prod.fst) hoption
      rw [heq] at hmem
      exact hgiven.1 hmem
    have hbeq : (option.1 == field) = false := by simpa using hother
    rw [List.lookup_append, hrest option hoption, Option.none_or, List.lookup_cons, hbeq]
    rfl

lemma checkRequired_eq_ok_iff {values : OptionValues} {fields : List OptionField} :
    checkRequired values fields = .ok () ↔
      ∀ field ∈ fields, ∃ value, values.lookup field = some value ∧ value ≠ [] := by
  induction fields with
  | nil => exact iff_of_true rfl fun field hfield => absurd hfield List.not_mem_nil
  | cons field fields ih =>
    rw [checkRequired, List.forall_mem_cons]
    rcases values.lookup field with - | - | ⟨b, value⟩
    · exact iff_of_false nofun fun h => nomatch h.1
    · refine iff_of_false nofun fun h => ?_
      obtain ⟨value, hvalue, hne⟩ := h.1
      exact hne (Option.some.inj hvalue).symm
    · rw [ih]
      exact ⟨fun h => ⟨⟨_, rfl, List.cons_ne_nil _ _⟩, h⟩, And.right⟩

lemma checkNumeric_eq_ok_iff {values : OptionValues} {fields : List OptionField} :
    checkNumeric values fields = .ok () ↔
      ∀ field ∈ fields, ∀ value, values.lookup field = some value → Lua.isPositive value = true := by
  induction fields with
  | nil => exact iff_of_true rfl fun field hfield => absurd hfield List.not_mem_nil
  | cons field fields ih =>
    rw [checkNumeric, List.forall_mem_cons]
    rcases values.lookup field with - | value
    · rw [ih]
      exact ⟨fun h => ⟨nofun, h⟩, And.right⟩
    · dsimp only
      by_cases hvalue : Lua.isPositive value = true
      · rw [if_pos hvalue, ih]
        exact ⟨fun h => ⟨fun other hother => Option.some.inj hother ▸ hvalue, h⟩, And.right⟩
      · rw [if_neg hvalue]
        exact iff_of_false nofun fun h => hvalue (h.1 value rfl)

/-- The names are mapped when each of them is a word, known and allowed, and no service occurs
twice. -/
lemma mapNames_eq_ok_iff {policy : Policy} {partition : Option (List UInt8)}
    {mapped names result : List (List UInt8)} :
    mapNames policy partition mapped names = .ok result ↔
      ∃ services, result = mapped ++ services ∧
        List.Forall₂ (fun name serviceId => Lua.isWord name = true ∧
          policy.resources name = some serviceId ∧ policy.allows partition name = true)
          names services ∧ services.Nodup ∧ ∀ serviceId ∈ services, serviceId ∉ mapped := by
  induction names generalizing mapped with
  | nil =>
    rw [mapNames, Except.ok.injEq, eq_comm]
    constructor
    · intro h
      exact ⟨[], by rw [List.append_nil]; exact h, .nil, List.nodup_nil,
        fun serviceId h => absurd h List.not_mem_nil⟩
    · rintro ⟨services, hresult, hforall, -⟩
      obtain rfl := List.forall₂_nil_left_iff.mp hforall
      rw [hresult, List.append_nil]
  | cons name names ih =>
    rw [mapNames]
    have hfail {message : List UInt8} (hbad : ∀ serviceId, Lua.isWord name = true →
        policy.resources name = some serviceId → policy.allows partition name = true →
        serviceId ∈ mapped) :
        (.error message : Except (List UInt8) (List (List UInt8))) = .ok result ↔
          ∃ services, result = mapped ++ services ∧
            List.Forall₂ (fun name serviceId => Lua.isWord name = true ∧
              policy.resources name = some serviceId ∧ policy.allows partition name = true)
              (name :: names) services ∧ services.Nodup ∧
              ∀ serviceId ∈ services, serviceId ∉ mapped := by
      refine iff_of_false nofun ?_
      rintro ⟨services, -, hforall, -, hnew⟩
      obtain ⟨serviceId, rest, ⟨hword, hknown, hallowed⟩, -, rfl⟩ :=
        List.forall₂_cons_left_iff.mp hforall
      exact hnew serviceId List.mem_cons_self (hbad serviceId hword hknown hallowed)
    by_cases hword : Lua.isWord name = true
    · rw [if_neg (not_not.mpr hword)]
      rcases hknown : policy.resources name with - | serviceId
      · exact hfail fun serviceId _ h => by rw [hknown] at h; cases h
      · dsimp only
        by_cases hallowed : policy.allows partition name = true
        · rw [if_neg (not_not.mpr hallowed)]
          by_cases hmem : serviceId ∈ mapped
          · rw [if_pos hmem]
            exact hfail fun other _ h _ => by rw [hknown] at h; exact Option.some.inj h ▸ hmem
          · rw [if_neg hmem, ih]
            constructor
            · rintro ⟨services, rfl, hforall, hnodup, hnew⟩
              refine ⟨serviceId :: services, by simp, .cons ⟨hword, hknown, hallowed⟩ hforall,
                List.nodup_cons.mpr ⟨fun hagain => hnew serviceId hagain (by simp), hnodup⟩,
                List.forall_mem_cons.mpr ⟨hmem, fun other hother hbefore =>
                  hnew other hother (List.mem_append_left _ hbefore)⟩⟩
            · rintro ⟨services, rfl, hforall, hnodup, hnew⟩
              obtain ⟨other, rest, ⟨-, hother, -⟩, hrest, rfl⟩ :=
                List.forall₂_cons_left_iff.mp hforall
              rw [hknown] at hother
              obtain rfl := Option.some.inj hother
              obtain ⟨hfresh, hnodup⟩ := List.nodup_cons.mp hnodup
              refine ⟨rest, by simp, hrest, hnodup, fun other hother hbefore => ?_⟩
              rcases List.mem_append.mp hbefore with hbefore | hbefore
              · exact hnew other (List.mem_cons_of_mem _ hother) hbefore
              · exact hfresh (List.mem_singleton.mp hbefore ▸ hother)
        · rw [if_pos hallowed]
          exact hfail fun other _ _ h => absurd h hallowed
    · rw [if_pos hword]
      exact hfail fun other h _ _ => absurd h hword

/-- What `directive` requires of the options before it writes them, with the services that it
finds for them. -/
structure Submits (policy : Policy) (partition : Option (List UInt8)) (given : OptionValues)
    (services : List (List UInt8)) : Prop where
  required : ∀ field ∈ requiredOptions, ∃ value, given.lookup field = some value ∧ value ≠ []
  numeric : ∀ field ∈ numericOptions, ∀ value, given.lookup field = some value →
    Lua.isPositive value = true
  workloadKind : (given.lookup .workloadKind).getD [] = utf8 "quantum" ∨
    (given.lookup .workloadKind).getD [] = utf8 "hybrid"
  services : mapQpus policy partition ((given.lookup .qpu).getD []) = .ok services

section Directive

variable {policy : Policy} {partition : Option (List UInt8)} {given : OptionValues}

/-- What is required of the options is checked in the order of `Submits`. -/
lemma directive_of_submits (hgiven : (given.map Prod.fst).Nodup) (hne : given ≠ [])
    {services : List (List UInt8)} (h : Submits policy partition given services) :
    directive policy ⟨some (given.map spankEntry), partition⟩ =
      if 2048 < (directiveLine given (Lua.concat services (utf8 ","))).length then
        .error directiveTooLong
      else .ok (directiveLine given (Lua.concat services (utf8 ","))) := by
  have hcollect : collectOptions [] (given.map spankEntry) = .ok given :=
    collectOptions_spankEntry hgiven fun _ _ => rfl
  have hkind : ¬ ((given.lookup .workloadKind).getD [] ≠ utf8 "quantum" ∧
      (given.lookup .workloadKind).getD [] ≠ utf8 "hybrid") := by
    rintro ⟨hquantum, hhybrid⟩
    exact h.workloadKind.elim hquantum hhybrid
  have hbind {α β : Type} {a : α} {next : α → Except (List UInt8) β} :
      ((.ok a : Except (List UInt8) α) >>= next) = next a := rfl
  unfold directive
  rw [Option.getD_some, hcollect, hbind, if_neg hne, checkRequired_eq_ok_iff.mpr h.required, hbind,
    checkNumeric_eq_ok_iff.mpr h.numeric, hbind]
  dsimp only
  rw [if_neg hkind, h.services, hbind]

/-- The options that are accepted, and what is written for them. -/
theorem directive_eq_ok_iff (hgiven : (given.map Prod.fst).Nodup) {output : List UInt8} :
    directive policy ⟨some (given.map spankEntry), partition⟩ = .ok output ↔
      (given = [] ∧ output = []) ∨ given ≠ [] ∧ ∃ services, Submits policy partition given services ∧
        output = directiveLine given (Lua.concat services (utf8 ",")) ∧ output.length ≤ 2048 := by
  constructor
  · intro h
    obtain ⟨values, hvalues, h⟩ := bind_eq_ok_iff.mp h
    obtain rfl : values = given := by
      have hcollect : collectOptions [] (given.map spankEntry) = .ok given :=
        collectOptions_spankEntry hgiven fun _ _ => rfl
      exact Except.ok.inj (hvalues.symm.trans hcollect)
    split at h
    · rename_i hnil
      exact .inl ⟨hnil, (Except.ok.inj h).symm⟩
    rename_i hnil
    obtain ⟨_, hrequired, h⟩ := bind_eq_ok_iff.mp h
    obtain ⟨_, hnumeric, h⟩ := bind_eq_ok_iff.mp h
    dsimp only at h
    split at h
    · cases h
    rename_i hkind
    obtain ⟨services, hservices, h⟩ := bind_eq_ok_iff.mp h
    split at h
    · cases h
    rename_i hlength
    obtain rfl := Except.ok.inj h
    refine .inr ⟨hnil, services, ⟨checkRequired_eq_ok_iff.mp hrequired,
      checkNumeric_eq_ok_iff.mp hnumeric, ?_, hservices⟩, rfl, not_lt.mp hlength⟩
    exact or_iff_not_imp_left.mpr fun hquantum => not_not.mp fun hhybrid =>
      hkind ⟨hquantum, hhybrid⟩
  · rintro (⟨rfl, rfl⟩ | ⟨hne, services, hsubmits, rfl, hlength⟩)
    · rfl
    · rw [directive_of_submits hgiven hne hsubmits, if_neg (not_lt.mpr hlength)]

end Directive

end QfwSlurm
