import QfwSlurm.Sequence.Groups
import QfwSlurm.Slurm.DriverCommand
import QfwSlurm.Slurm.ParsedDirective
import QfwSlurm.Slurm.SubmissionChecks

/-!
# From the submission to the driver

The options of a submission are written into a directive, which is found in the job script, read,
and written again as the options of the driver.  `pipeline_carries` says that they arrive: the
driver has the services of the resources in their order, and the other values as they were given.
-/

namespace QfwSlurm

open Native

/-! ### ASCII texts -/

/-- The character of an ASCII byte. -/
def asciiChar (b : UInt8) : Char := Char.ofNat b.toNat

/-- The text of ASCII bytes. -/
def asciiText (bytes : List UInt8) : String := String.ofList (bytes.map asciiChar)

lemma toNat_asciiChar {b : UInt8} (hb : b.toNat < 128) : (asciiChar b).toNat = b.toNat := by
  have hvalid : b.toNat.isValidChar := .inl (by omega)
  rw [asciiChar, Char.ofNat, dif_pos hvalid]
  rfl

/-- A text of ASCII bytes is coded by these bytes. -/
lemma bytesOf_asciiChar {bytes : List UInt8} (h : ∀ b ∈ bytes, b.toNat < 128) :
    bytesOf (bytes.map asciiChar) = bytes := by
  have hascii : ∀ c ∈ bytes.map asciiChar, c.toNat < 128 := by
    intro c hc
    obtain ⟨b, hb, rfl⟩ := List.mem_map.mp hc
    rw [toNat_asciiChar (h b hb)]
    exact h b hb
  rw [Helper.bytesOf_ascii hascii, List.map_map]
  refine (List.map_congr_left fun b hb => ?_).trans (List.map_id bytes)
  rw [Function.comp_apply, toNat_asciiChar (h b hb)]
  exact UInt8.ofNat_toNat

lemma utf8_asciiText {bytes : List UInt8} (h : ∀ b ∈ bytes, b.toNat < 128) :
    utf8 (asciiText bytes) = bytes := by
  rw [asciiText, ← bytesOf_toList, String.toList_ofList, bytesOf_asciiChar h]

/-- The bytes of a directive's value: of a name, or a comma between two of them. -/
def IsFieldByte (b : UInt8) : Prop := isNameByte b = true ∨ b = 44

lemma IsFieldByte.ascii {b : UInt8} (h : IsFieldByte b) : b.toNat < 128 := by
  rcases h with h | rfl
  · simp only [isNameByte, Bool.or_eq_true, Bool.and_eq_true, decide_eq_true_eq] at h
    rcases h with ((((h | h) | h) | rfl) | rfl) | rfl
    · omega
    · omega
    · omega
    · decide
    · decide
    · decide
  · decide

/-- A character of such a value is not white space. -/
lemma IsFieldByte.isSpace {b : UInt8} (h : IsFieldByte b) :
    Python.isSpace (asciiChar b) = false := by
  have hnat := toNat_asciiChar h.ascii
  have hrange : 33 ≤ b.toNat ∧ b.toNat < 128 := by
    refine ⟨?_, h.ascii⟩
    rcases h with h | rfl
    · simp only [isNameByte, Bool.or_eq_true, Bool.and_eq_true, decide_eq_true_eq] at h
      rcases h with ((((h | h) | h) | rfl) | rfl) | rfl
      · omega
      · omega
      · omega
      · decide
      · decide
      · decide
    · decide
  rw [Python.isSpace]
  simp only [List.mem_cons, List.not_mem_nil, or_false, decide_eq_false_iff_not]
  omega

/-! ### The written fields -/

/-- The fields of the directive, with the services in the place of the resource names. -/
def writtenFields (given : OptionValues) (services : List UInt8) : OptionValues :=
  canonicalOrder.filterMap fun field =>
    ((given.lookup field).map fun value => if field = .qpu then services else value).map (field, ·)

/-- The fields as the helper reads them. -/
def namedFields (written : OptionValues) : Helper.Directive :=
  written.map fun option => (directiveName option.1, asciiText option.2)

lemma mem_canonicalOrder (field : OptionField) : field ∈ canonicalOrder := by
  cases field <;> decide

lemma directiveName_injective : Function.Injective directiveName := by
  intro field other h
  have hall : ∀ field ∈ canonicalOrder, ∀ other ∈ canonicalOrder,
      directiveName field = directiveName other → field = other := by decide
  exact hall field (mem_canonicalOrder field) other (mem_canonicalOrder other) h

section Written

variable {given : OptionValues} {services : List UInt8}

lemma lookup_writtenFields (field : OptionField) : (writtenFields given services).lookup field =
    (given.lookup field).map fun value => if field = .qpu then services else value := by
  rw [writtenFields, Sequence.lookup_filterMap]
  exact if_pos (mem_canonicalOrder field)

lemma lookup_namedFields (written : OptionValues) (field : OptionField) :
    (namedFields written).lookup (directiveName field) = (written.lookup field).map asciiText :=
  Sequence.lookup_map directiveName_injective asciiText written field

/-- No field is written twice. -/
lemma nodup_writtenFields : ((writtenFields given services).map Prod.fst).Nodup := by
  rw [writtenFields, Sequence.keys_filterMap]
  exact List.Nodup.filter _ (by decide)

lemma nodup_namedFields {written : OptionValues} (h : (written.map Prod.fst).Nodup) :
    ((namedFields written).map Prod.fst).Nodup := by
  have hmap := h.map directiveName_injective
  rw [List.map_map] at hmap
  rw [namedFields, List.map_map]
  exact hmap

/-- The helper finds the fields again. -/
lemma directiveSettings_namedFields {written : OptionValues}
    (hascii : ∀ option ∈ written, ∀ b ∈ option.2, b.toNat < 128) :
    Helper.directiveSettings (namedFields written) =
      canonicalOrder.filterMap fun field => (written.lookup field).map (field, ·) := by
  have hfields : Helper.directiveFields =
      canonicalOrder.map fun field => (directiveName field, field) := rfl
  rw [Helper.directiveSettings, hfields, List.flatMap_map, List.filterMap_eq_flatMap_toList]
  refine List.flatMap_congr fun field _ => ?_
  dsimp only
  rw [lookup_namedFields]
  rcases hvalue : written.lookup field with - | value
  · rfl
  · have hmem : (field, value) ∈ written := mem_of_lookup hvalue
    simp only [Option.map_some, Option.toList_some, utf8_asciiText (hascii _ hmem)]

lemma filterMap_lookup_writtenFields :
    (canonicalOrder.filterMap fun field =>
      ((writtenFields given services).lookup field).map (field, ·)) =
      writtenFields given services := by
  refine List.filterMap_congr fun field _ => ?_
  rw [lookup_writtenFields]

/-- The directive is the line of the fields. -/
lemma bytesOf_directiveText
    (hascii : ∀ option ∈ writtenFields given services, ∀ b ∈ option.2, b.toNat < 128) :
    bytesOf (Helper.directiveText (namedFields (writtenFields given services))) =
      directiveLine given services := by
  have hfields : directiveFields given services = (writtenFields given services).map fun option =>
      utf8 (directiveName option.1) ++ 61 :: option.2 := by
    rw [directiveFields, writtenFields, List.map_filterMap]
    refine List.filterMap_congr fun field _ => ?_
    rw [Option.map_map, Option.map_map]
    rfl
  have htokens : ((namedFields (writtenFields given services)).map Helper.fieldToken).map bytesOf =
      directiveFields given services := by
    rw [hfields, namedFields, List.map_map, List.map_map]
    refine List.map_congr_left fun option hoption => ?_
    have hequals : bytesOf ['='] = [61] := by decide +kernel
    rw [Function.comp_apply, Function.comp_apply, Helper.fieldToken, ← List.singleton_append,
      bytesOf_append, bytesOf_append, bytesOf_toList, bytesOf_toList,
      utf8_asciiText (hascii option hoption), hequals]
    rfl
  have hpieces : (("#QFW".toList :: "v=1".toList ::
      (namedFields (writtenFields given services)).map Helper.fieldToken).map
        fun piece => piece.flatMap String.utf8EncodeChar) =
      utf8 "#QFW" :: utf8 "v=1" :: directiveFields given services := by
    rw [← htokens, ← bytesOf_toList, ← bytesOf_toList]
    rfl
  rw [Helper.directiveText, bytesOf, Sequence.flatMap_intercalate, hpieces, directiveLine,
    Lua.concat]
  rfl

end Written

/-! ### The services -/

/-- Service identifiers that the driver takes as a list. -/
structure ServiceList (services : List (List UInt8)) : Prop where
  ne_nil : services ≠ []
  word : ∀ service ∈ services, Lua.isWord service = true
  length_le : ∀ service ∈ services, service.length ≤ maxResourceName
  nodup : services.Nodup
  count : services.length ≤ maxServices

/-- The services of the names, in their order. -/
lemma services_of_mapQpus {policy : Policy} {partition : Option (List UInt8)} {value : List UInt8}
    {services : List (List UInt8)} (h : mapQpus policy partition value = .ok services)
    (hpolicy : ∀ name service, policy.resources name = some service →
      Lua.isWord service = true ∧ service.length ≤ maxResourceName)
    (hcount : (Lua.commaFields value).length ≤ maxServices) :
    ServiceList services ∧ (Lua.commaFields value).map policy.resources = services.map some := by
  obtain ⟨mapped, hmapped, hresult⟩ := bind_eq_ok_iff.mp h
  obtain ⟨found, hfound, hforall, hnodup, -⟩ := mapNames_eq_ok_iff.mp hmapped
  rw [List.nil_append] at hfound
  subst hfound
  have hne : ¬ mapped.length = 0 := by
    intro hzero
    rw [if_pos hzero] at hresult
    cases hresult
  rw [if_neg hne] at hresult
  obtain rfl := Except.ok.inj hresult
  have hmap : (Lua.commaFields value).map policy.resources = mapped.map some := by
    rw [← List.forall₂_eq_eq_eq, List.forall₂_map_left_iff, List.forall₂_map_right_iff]
    exact hforall.imp fun _ _ hname => hname.2.1
  have hid : ∀ service ∈ mapped, Lua.isWord service = true ∧ service.length ≤ maxResourceName := by
    intro service hservice
    have hmem := List.mem_map_of_mem (f := some) hservice
    rw [← hmap] at hmem
    obtain ⟨name, -, hname⟩ := List.mem_map.mp hmem
    exact hpolicy name service hname
  refine ⟨⟨?_, fun service hservice => (hid service hservice).1,
    fun service hservice => (hid service hservice).2, hnodup, ?_⟩, hmap⟩
  · rintro rfl
    exact hne rfl
  · rw [← hforall.length_eq]
    exact hcount

/-- The services as one value. -/
def joinedServices (services : List (List UInt8)) : List UInt8 := Lua.concat services (utf8 ",")

section Services

variable {services : List (List UInt8)}

lemma joinedServices_eq (services : List (List UInt8)) :
    joinedServices services = [44].intercalate services := by
  have hcomma : utf8 "," = [44] := by decide +kernel
  rw [joinedServices, Lua.concat, hcomma]

lemma ServiceList.bytes (h : ServiceList services) :
    ∀ service ∈ services, service ≠ [] ∧ ∀ b ∈ service, isNameByte b = true := by
  intro service hservice
  obtain ⟨hne, hbytes⟩ := isWord_iff.mp (h.word service hservice)
  exact ⟨hne, List.all_eq_true.mp hbytes⟩

/-- The driver finds the services again. -/
lemma ServiceList.linesOf (h : ServiceList services) :
    Sequence.linesOf (· = 44) (joinedServices services) = services := by
  have hpieces : ∀ service ∈ services, service ≠ [] ∧ ∀ b ∈ service, decide (b = 44) = false := by
    refine fun service hservice =>
      ⟨(h.bytes service hservice).1, fun b hb => decide_eq_false ?_⟩
    rintro rfl
    exact absurd ((h.bytes service hservice).2 44 hb) (by decide)
  rw [joinedServices_eq]
  refine Sequence.linesOf_intercalate ?_ h.ne_nil hpieces
  rfl

lemma ServiceList.validNames (h : ServiceList services) : ValidNames (joinedServices services) where
  ne_nil := by
    intro hnil
    have hlines := h.linesOf
    rw [hnil] at hlines
    exact h.ne_nil hlines.symm
  count := by
    rw [h.linesOf]
    exact h.count
  name := by
    rw [h.linesOf]
    exact fun service hservice => ⟨(h.bytes service hservice).1, h.length_le service hservice,
      List.all_eq_true.mpr (h.bytes service hservice).2⟩
  nodup := by
    rw [h.linesOf]
    exact h.nodup

lemma ServiceList.fieldBytes (h : ServiceList services) :
    ∀ b ∈ joinedServices services, IsFieldByte b := by
  intro b hb
  rw [joinedServices_eq] at hb
  rcases Sequence.mem_intercalate hb with hcomma | ⟨service, hservice, hb⟩
  · exact .inr hcomma
  · exact .inl ((h.bytes service hservice).2 b hb)

end Services

/-! ### The values -/

section Values

variable {policy : Policy} {partition : Option (List UInt8)} {given : OptionValues}
  {services : List (List UInt8)}

/-- The fields that are written for the options of a submission. -/
def submittedFields (given : OptionValues) (services : List (List UInt8)) : OptionValues :=
  writtenFields given (joinedServices services)

lemma lookup_submittedFields (field : OptionField) :
    (submittedFields given services).lookup field =
      (given.lookup field).map fun value =>
        if field = .qpu then joinedServices services else value :=
  lookup_writtenFields field

/-- A field has the form of its value: the services, a word, or a number that begins with no zero. -/
lemma mem_submittedFields (hsubmits : Submits policy partition given services)
    {option : OptionField × List UInt8} (h : option ∈ submittedFields given services) :
    (option.1 = .qpu ∧ option.2 = joinedServices services) ∨
    (option.1 = .workloadKind ∧ (option.2 = utf8 "quantum" ∨ option.2 = utf8 "hybrid")) ∨
    (option.1 ∈ numericOptions ∧ given.lookup option.1 = some option.2 ∧
      Lua.isPositive option.2 = true) := by
  have hlookup := lookup_of_mem nodup_writtenFields h
  rw [lookup_writtenFields, Option.map_eq_some_iff] at hlookup
  obtain ⟨value, hvalue, hoption⟩ := hlookup
  by_cases hqpu : option.1 = .qpu
  · rw [if_pos hqpu] at hoption
    exact .inl ⟨hqpu, hoption.symm⟩
  rw [if_neg hqpu] at hoption
  subst hoption
  by_cases hkind : option.1 = .workloadKind
  · have hword := hsubmits.workloadKind
    rw [← hkind, hvalue] at hword
    exact .inr (.inl ⟨hkind, hword⟩)
  · have hnumeric : option.1 ∈ numericOptions := by
      have hall : ∀ field ∈ canonicalOrder, field ≠ .qpu → field ≠ .workloadKind →
          field ∈ numericOptions := by decide
      exact hall option.1 (mem_canonicalOrder option.1) hqpu hkind
    exact .inr (.inr ⟨hnumeric, hvalue, hsubmits.numeric option.1 hnumeric option.2 hvalue⟩)

lemma fieldBytes_submittedFields (hsubmits : Submits policy partition given services)
    (hservices : ServiceList services) :
    ∀ option ∈ submittedFields given services, option.2 ≠ [] ∧ ∀ b ∈ option.2, IsFieldByte b := by
  have hwords : ∀ word ∈ [utf8 "quantum", utf8 "hybrid"],
      word ≠ [] ∧ word.all isNameByte = true := by decide +kernel
  intro option hoption
  rcases mem_submittedFields hsubmits hoption with
    ⟨-, hvalue⟩ | ⟨-, hvalue⟩ | ⟨-, -, hpositive⟩
  · rw [hvalue]
    exact ⟨hservices.validNames.ne_nil, hservices.fieldBytes⟩
  · obtain ⟨hne, hbytes⟩ := hwords option.2 (by simpa using hvalue)
    exact ⟨hne, fun b hb => .inl (List.all_eq_true.mp hbytes b hb)⟩
  · obtain ⟨⟨hne, hdigits⟩, -⟩ := isPositive_iff.mp hpositive
    refine ⟨hne, fun b hb => .inl ?_⟩
    have hdigit := List.all_eq_true.mp hdigits b hb
    rw [isDigitByte] at hdigit
    rw [isNameByte_eq, hdigit]
    simp

/-- The setters of the driver accept every field, if the numbers are within the bounds. -/
lemma accepts_submittedFields (hsubmits : Submits policy partition given services)
    (hservices : ServiceList services)
    (hbounds : ∀ option ∈ given, option.1 ∈ numericOptions → InBounds option.1 option.2) :
    ∀ option ∈ submittedFields given services, option.1.Accepts option.2 := by
  rintro ⟨field, value⟩ hoption
  rcases mem_submittedFields hsubmits hoption with
    ⟨hfield, hvalue⟩ | ⟨hfield, hvalue⟩ | ⟨hfield, hvalue, hpositive⟩
  · obtain rfl : field = .qpu := hfield
    obtain rfl : value = joinedServices services := hvalue
    exact hservices.validNames
  · obtain rfl : field = .workloadKind := hfield
    exact hvalue
  · have hnumber := (isPositive_iff.mp hpositive).1
    have hbound := hbounds _ (mem_of_lookup hvalue) hfield
    have hform (hqpu : field ≠ .qpu) (hkind : field ≠ .workloadKind) : HasForm field value := by
      cases field with
      | qpu => exact absurd rfl hqpu
      | workloadKind => exact absurd rfl hkind
      | _ => exact hnumber
    have hother : .qpu ∉ numericOptions ∧ .workloadKind ∉ numericOptions := by decide
    exact accepts_iff.mpr ⟨hform (fun h => hother.1 (h ▸ hfield)) fun h => hother.2 (h ▸ hfield),
      hbound⟩

lemma exists_submittedFields (hsubmits : Submits policy partition given services)
    {field : OptionField} (hfield : field ∈ requiredOptions) :
    ∃ value, (submittedFields given services).lookup field = some value := by
  obtain ⟨value, hvalue, -⟩ := hsubmits.required field hfield
  exact ⟨_, by rw [lookup_submittedFields, hvalue, Option.map_some]⟩

/-- What is required is there. -/
lemma complete_submittedFields (hsubmits : Submits policy partition given services) :
    Complete (submittedFields given services) := by
  intro field hfield
  obtain ⟨value, hvalue⟩ := exists_submittedFields hsubmits hfield
  refine ⟨value, hvalue, fun hqpu hkind => ?_⟩
  rcases mem_submittedFields hsubmits (mem_of_lookup hvalue) with
    ⟨hother, -⟩ | ⟨hother, -⟩ | ⟨-, -, hpositive⟩
  · exact absurd hother hqpu
  · exact absurd hother hkind
  · exact decimalValue_ne_zero hpositive

end Values

/-! ### What the helper reads -/

lemma isIdentifier_asciiText {service : List UInt8} (h : Lua.isWord service = true) :
    Helper.isIdentifier (asciiText service) = true := by
  obtain ⟨hne, hbytes⟩ := isWord_iff.mp h
  have hletter : ∀ n < 128, isNameByte (UInt8.ofNat n) = true →
      ((Char.ofNat n).isAlphanum || Char.ofNat n = '_' || Char.ofNat n = '.' ||
        Char.ofNat n = '-') = true := by decide +kernel
  have hletters : ∀ c ∈ service.map asciiChar,
      (c.isAlphanum || c = '_' || c = '.' || c = '-') = true := by
    intro c hc
    obtain ⟨b, hb, rfl⟩ := List.mem_map.mp hc
    have hname := List.all_eq_true.mp hbytes b hb
    refine hletter b.toNat (IsFieldByte.ascii (.inl hname)) ?_
    rw [UInt8.ofNat_toNat]
    exact hname
  have htext : asciiText service ≠ "" := by
    intro hempty
    have hchars := congrArg String.toList hempty
    rw [asciiText, String.toList_ofList] at hchars
    exact hne (List.map_eq_nil_iff.mp hchars)
  rw [Helper.isIdentifier, decide_eq_true htext, Bool.true_and, asciiText, String.toList_ofList]
  exact List.all_eq_true.mpr hletters

lemma isNonzero_asciiText {value : List UInt8} (h : Lua.isPositive value = true) :
    Helper.isNonzero (asciiText value) = true := by
  obtain ⟨⟨hne, hdigits⟩, -⟩ := isPositive_iff.mp h
  have hrange : ∀ b ∈ value, 48 ≤ b.toNat ∧ b.toNat ≤ 57 := by
    intro b hb
    simpa [isDigitByte] using List.all_eq_true.mp hdigits b hb
  have hchars : ∀ c ∈ value.map asciiChar, Python.isJsonDigit c = true := by
    intro c hc
    obtain ⟨b, hb, rfl⟩ := List.mem_map.mp hc
    obtain ⟨hlow, hhigh⟩ := hrange b hb
    have hnat := toNat_asciiChar (show b.toNat < 128 by omega)
    rw [Python.isJsonDigit]
    simp only [decide_eq_true_eq, Bool.and_eq_true]
    omega
  have hnumber := (Helper.decimalValue_bytesOf hchars).2
  rw [bytesOf_asciiChar fun b hb => by have hb := hrange b hb; omega] at hnumber
  have htext : asciiText value ≠ "" := by
    intro hempty
    have hnil := congrArg String.toList hempty
    rw [asciiText, String.toList_ofList] at hnil
    exact hne (List.map_eq_nil_iff.mp hnil)
  rw [Helper.isNonzero, decide_eq_true htext, Bool.true_and, asciiText, String.toList_ofList,
    List.all_eq_true.mpr hchars, ← hnumber, Bool.true_and]
  exact decide_eq_true (decimalValue_ne_zero h)

section Reading

variable {policy : Policy} {partition : Option (List UInt8)} {given : OptionValues}
  {services : List (List UInt8)}

lemma legible_submittedFields (hsubmits : Submits policy partition given services)
    (hservices : ServiceList services) :
    Helper.Legible (namedFields (submittedFields given services)) := by
  intro field hfield
  obtain ⟨option, hoption, rfl⟩ := List.mem_map.mp hfield
  obtain ⟨hne, hbytes⟩ := fieldBytes_submittedFields hsubmits hservices option hoption
  refine ⟨?_, fun hempty => ?_, fun c hc => ?_⟩
  · have hall : ∀ field ∈ canonicalOrder, directiveName field ∈ Helper.fieldNames := by decide
    exact hall option.1 (mem_canonicalOrder option.1)
  · have hnil := congrArg String.toList hempty
    rw [asciiText, String.toList_ofList] at hnil
    exact hne (List.map_eq_nil_iff.mp hnil)
  · rw [asciiText, String.toList_ofList] at hc
    obtain ⟨b, hb, rfl⟩ := List.mem_map.mp hc
    exact (hbytes b hb).isSpace

/-- The services that the helper sees. -/
lemma servicesOf_submittedFields (hsubmits : Submits policy partition given services)
    (hservices : ServiceList services) :
    Helper.servicesOf (namedFields (submittedFields given services)) =
      services.map (·.map asciiChar) := by
  obtain ⟨value, hvalue, -⟩ := hsubmits.required .qpu (by decide)
  have hlookup : (namedFields (submittedFields given services)).lookup "qpu" =
      some (asciiText (joinedServices services)) := by
    have hnamed := lookup_namedFields (submittedFields given services) .qpu
    rw [lookup_submittedFields, hvalue, Option.map_some, if_pos rfl, Option.map_some] at hnamed
    exact hnamed
  have hchars : (asciiText (joinedServices services)).toList =
      [','].intercalate (services.map (·.map asciiChar)) := by
    have hflat := Sequence.flatMap_intercalate (fun b => [asciiChar b]) [44] services
    have hmap (bytes : List UInt8) : bytes.flatMap (fun b => [asciiChar b]) = bytes.map asciiChar :=
      List.map_eq_flatMap.symm
    simp only [hmap] at hflat
    rw [asciiText, String.toList_ofList, joinedServices_eq, hflat]
    rfl
  have hpieces : ∀ piece ∈ services.map (·.map asciiChar), ∀ c ∈ piece,
      decide (c = ',') = false := by
    rintro piece hpiece c hc
    obtain ⟨service, hservice, rfl⟩ := List.mem_map.mp hpiece
    obtain ⟨b, hb, rfl⟩ := List.mem_map.mp hc
    have hname := (hservices.bytes service hservice).2 b hb
    refine decide_eq_false fun hcomma => ?_
    have hnat := toNat_asciiChar (IsFieldByte.ascii (.inl hname))
    rw [hcomma] at hnat
    obtain rfl : b = 44 := UInt8.toNat_inj.mp hnat.symm
    exact absurd hname (by decide)
  have hne : services.map (·.map asciiChar) ≠ [] := by
    rw [ne_eq, List.map_eq_nil_iff]
    exact hservices.ne_nil
  rw [Helper.servicesOf, hlookup, Option.getD_some, hchars]
  refine Sequence.splitOnP_intercalate ?_ hne hpieces
  rfl

/-- The helper can use the fields. -/
lemma usable_submittedFields (hsubmits : Submits policy partition given services)
    (hservices : ServiceList services) :
    Helper.Usable (namedFields (submittedFields given services)) where
  required := by
    have hall : ∀ name ∈ Helper.requiredNames, ∃ field ∈ requiredOptions,
        directiveName field = name := by decide
    intro name hname
    obtain ⟨field, hfield, rfl⟩ := hall name hname
    obtain ⟨value, hvalue⟩ := exists_submittedFields hsubmits hfield
    rw [lookup_namedFields, hvalue]
    rfl
  workload := by
    obtain ⟨value, hvalue, -⟩ := hsubmits.required .workloadKind (by decide)
    have hkind := hsubmits.workloadKind
    have hlookup := lookup_namedFields (submittedFields given services) .workloadKind
    rw [lookup_submittedFields, hvalue, Option.map_some, if_neg (by decide),
      Option.map_some] at hlookup
    have hname : directiveName .workloadKind = "workload" := rfl
    rw [hvalue, Option.getD_some] at hkind
    rw [← hname, hlookup, Option.getD_some]
    refine hkind.imp (fun hvalue => ?_) fun hvalue => ?_
    · rw [hvalue]
      decide +kernel
    · rw [hvalue]
      decide +kernel
  nodup := by
    rw [servicesOf_submittedFields hsubmits hservices]
    have hascii {service : List UInt8} (h : service ∈ services) : ∀ b ∈ service, b.toNat < 128 :=
      fun b hb => IsFieldByte.ascii (.inl ((hservices.bytes service h).2 b hb))
    refine List.Nodup.map_on (fun first hfirst second hsecond heq => ?_) hservices.nodup
    rw [← bytesOf_asciiChar (hascii hfirst), heq, bytesOf_asciiChar (hascii hsecond)]
  identifiers := by
    rw [servicesOf_submittedFields hsubmits hservices, List.forall_mem_map]
    exact fun service hservice => isIdentifier_asciiText (hservices.word service hservice)
  numbers := by
    have hall : ∀ name ∈ Helper.numericNames, ∃ field ∈ numericOptions,
        directiveName field = name := by decide
    intro name hname text htext
    obtain ⟨field, hfield, rfl⟩ := hall name hname
    rw [lookup_namedFields, Option.map_eq_some_iff] at htext
    obtain ⟨value, hvalue, rfl⟩ := htext
    have hother : .qpu ∉ numericOptions ∧ .workloadKind ∉ numericOptions := by decide
    rcases mem_submittedFields hsubmits (mem_of_lookup hvalue) with
      ⟨hqpu, -⟩ | ⟨hkind, -⟩ | ⟨-, -, hpositive⟩
    · obtain rfl : field = .qpu := hqpu
      exact absurd hfield hother.1
    · obtain rfl : field = .workloadKind := hkind
      exact absurd hfield hother.2
    · exact isNonzero_asciiText hpositive

end Reading

/-! ### The job script -/

/-- A script with one line for the quantum options: no other line begins like one, for the
submission or for the helper. -/
def OnlyQfwLine (script line : List Char) : Prop :=
  ∃ before after, Sequence.linesOf (· = '\n') script = before ++ line :: after ∧
    ∀ other ∈ before ++ after, ¬ "#QFW ".toList <+: other ∧ ¬ HidesDirective other

/-- The submission finds the only line. -/
lemma scanDirective_found {before after : List (List UInt8)} {line : List UInt8}
    (hline : utf8 "#QFW " <+: line) (hothers : ∀ other ∈ before ++ after, ¬ utf8 "#QFW " <+: other) :
    scanDirective none (before ++ line :: after) = .ok (some line) := by
  have hrest {found : Option (List UInt8)} {lines : List (List UInt8)}
      (h : ∀ other ∈ lines, ¬ utf8 "#QFW " <+: other) : scanDirective found lines = .ok found := by
    induction lines with
    | nil => rfl
    | cons other lines ih =>
      obtain ⟨hother, hlater⟩ := List.forall_mem_cons.mp h
      rw [scanDirective, if_neg hother, ih hlater]
  induction before with
  | nil =>
    rw [List.nil_append, scanDirective, if_pos hline]
    exact hrest hothers
  | cons other before ih =>
    obtain ⟨hother, hlater⟩ := List.forall_mem_cons.mp hothers
    rw [List.cons_append, scanDirective, if_neg hother, ih hlater]

section Script

variable {fields : Helper.Directive} {script : String}

/-- A directive begins with its version, and a field follows. -/
lemma directiveText_eq (hfields : fields ≠ []) :
    ∃ rest, Helper.directiveText fields = "#QFW v=1 ".toList ++ rest := by
  obtain ⟨field, fields, rfl⟩ := List.exists_cons_of_ne_nil hfields
  refine ⟨[' '].intercalate ((field :: fields).map Helper.fieldToken), ?_⟩
  have hne : (field :: fields).map Helper.fieldToken ≠ [] := List.cons_ne_nil _ _
  rw [Helper.directiveText, List.intercalate_cons_of_ne_nil (List.cons_ne_nil _ _),
    List.intercalate_cons_of_ne_nil hne]
  rfl

/-- The submission returns the only line. -/
lemma slurmBbJobProcess_directiveText (hfields : fields ≠ [])
    (hlength : (bytesOf (Helper.directiveText fields)).length ≤ 2048)
    (hscript : OnlyQfwLine script.toList (Helper.directiveText fields)) :
    slurmBbJobProcess (some (utf8 script)) =
      .ok (bytesOf (Helper.directiveText fields) ++ utf8 "\n") := by
  obtain ⟨before, after, hlines, hothers⟩ := hscript
  obtain ⟨rest, hrest⟩ := directiveText_eq hfields
  have hbytes : bytesOf (Helper.directiveText fields) = utf8 "#QFW v=1 " ++ bytesOf rest := by
    rw [hrest, bytesOf_append, bytesOf_toList]
  have hbegins : utf8 "#QFW " <+: bytesOf (Helper.directiveText fields) := by
    have hversion : utf8 "#QFW v=1 " = utf8 "#QFW " ++ utf8 "v=1 " := by decide
    rw [hbytes, hversion, List.append_assoc]
    exact List.prefix_append _ _
  have hcontains : utf8 "#QFW v=1 " <:+: bytesOf (Helper.directiveText fields) := by
    rw [hbytes]
    exact (List.prefix_append _ _).isInfix
  have hscan : scanDirective none (Lua.lines (utf8 script)) =
      .ok (some (bytesOf (Helper.directiveText fields))) := by
    rw [lines_utf8, hlines, List.map_append, List.map_cons]
    refine scanDirective_found hbegins fun other hother => ?_
    rw [← List.map_append] at hother
    obtain ⟨line, hline, rfl⟩ := List.mem_map.mp hother
    intro hprefix
    rw [← bytesOf_toList] at hprefix
    exact (hothers line hline).1
      (prefix_of_bytesOf (List.forall_iff_forall_mem.mp (by decide)) hprefix)
  refine bind_eq_ok_iff.mpr ⟨_, hscan, ?_⟩
  dsimp only
  exact if_neg fun h => h.elim (not_lt.mpr hlength) fun h => h hcontains

/-- The helper reads the fields of the only line. -/
lemma parseDirective_directiveText (hlegible : Helper.Legible fields)
    (hnodup : (fields.map Prod.fst).Nodup) (husable : Helper.Usable fields) (hfields : fields ≠ [])
    (hlength : (bytesOf (Helper.directiveText fields)).length ≤ 2048)
    (hscript : OnlyQfwLine script.toList (Helper.directiveText fields)) :
    Helper.parseDirective (utf8 script) = .ok fields := by
  obtain ⟨hstrip, hline⟩ := hlegible.line
  obtain ⟨rest, hrest⟩ := directiveText_eq hfields
  obtain ⟨before, after, hlines, hothers⟩ := hscript
  have hversion : "#QFW v=1 ".toList = "#QFW ".toList ++ "v=1 ".toList := by decide
  have hbegins : Helper.directiveText fields = "#QFW ".toList ++ ("v=1 ".toList ++ rest) := by
    rw [hrest, hversion, List.append_assoc]
  have hsubmitted : Submitted script.toList (Helper.directiveText fields) := by
    refine ⟨⟨before, after, hlines, fun hmem => ?_⟩, ⟨_, hbegins, ?_⟩,
      (length_le_bytesOf _).trans hlength⟩
    · refine (hothers _ hmem).1 ?_
      rw [hbegins]
      exact List.prefix_append _ _
    · exact List.mem_append_left _ (by decide)
  have hselected : Helper.selectDirective script.toList = .ok (Helper.directiveText fields) := by
    rw [← hstrip]
    refine (selectDirective_iff hsubmitted).mpr ⟨?_, fun line hmem hne => ?_⟩
    · intro first c last hsplit hbreak
      have hmem : c ∈ Helper.directiveText fields := by
        rw [hsplit]
        exact List.mem_append_right _ List.mem_cons_self
      rw [hline c hmem] at hbreak
      cases hbreak
    · rw [hlines, List.mem_append, List.mem_cons] at hmem
      have hother : line ∈ before ++ after := by
        rw [List.mem_append]
        tauto
      exact (hothers line hother).2
  rw [Helper.parseDirective, decodeUtf8_eq_some_iff.mpr rfl]
  exact bind_eq_ok_iff.mpr
    ⟨_, hselected, Helper.readDirective_directiveText hlegible hnodup husable⟩

end Script

/-! ### The whole way -/

/-- Options of the driver that are those of the submission: the services of the resources in their
order, the same values, and no more fields. -/
structure Carries (policy : Policy) (given : OptionValues) (quantum : QuantumOptions) : Prop where
  services : ∀ value, given.lookup .qpu = some value →
    (Lua.commaFields value).map policy.resources = quantum.qpuNames.map some
  kind : ∀ value, given.lookup .workloadKind = some value →
    parseWorkloadKind value = some quantum.workload.kind
  number : ∀ field ∈ numericOptions, ∀ value, given.lookup field = some value →
    quantum.workload.number field = Native.decimalValue value
  present : ∀ field, field ∈ quantum.presentFields ↔ (given.lookup field).isSome = true
  hasMaxOneQGates : quantum.workload.hasMaxOneQGates = (given.lookup .maxOneQGates).isSome
  hasMaxTwoQGates : quantum.workload.hasMaxTwoQGates = (given.lookup .maxTwoQGates).isSome
  hasMaxMeasurements : quantum.workload.hasMaxMeasurements = (given.lookup .maxMeasurements).isSome

/-- What the driver stores for the written fields. -/
lemma carries_putAll {policy : Policy} {partition : Option (List UInt8)} {given : OptionValues}
    {services : List (List UInt8)} (hsubmits : Submits policy partition given services)
    (hservices : ServiceList services)
    (hmap : ∀ value, given.lookup .qpu = some value →
      (Lua.commaFields value).map policy.resources = services.map some) :
    Carries policy given (QuantumOptions.putAll {} (submittedFields given services)) := by
  have hnodup : ((submittedFields given services).map Prod.fst).Nodup := nodup_writtenFields
  have hsome (field : OptionField) : ((submittedFields given services).lookup field).isSome =
      (given.lookup field).isSome := by
    rw [lookup_submittedFields, Option.isSome_map]
  have hflag (field : OptionField) (get : QuantumOptions → Bool) (hfalse : get {} = false)
      (hput : ∀ options other value, get (QuantumOptions.put options other value) =
        if other = field then true else get options) :
      get (QuantumOptions.putAll {} (submittedFields given services)) =
        (given.lookup field).isSome := by
    have hget : get (QuantumOptions.putAll {} (submittedFields given services)) =
        (((submittedFields given services).lookup field).map fun _ => true).getD (get {}) :=
      putAll_get get hput {} hnodup
    rw [hget, hfalse, ← hsome]
    rcases (submittedFields given services).lookup field with - | value
    · rfl
    · rfl
  have hother : .qpu ∉ numericOptions ∧ .workloadKind ∉ numericOptions := by decide
  refine ⟨fun value hvalue => ?_, fun value hvalue => ?_, fun field hfield value hvalue => ?_,
    fun field => ?_, hflag _ (fun options => options.workload.hasMaxOneQGates) rfl ?_,
    hflag _ (fun options => options.workload.hasMaxTwoQGates) rfl ?_,
    hflag _ (fun options => options.workload.hasMaxMeasurements) rfl ?_⟩
  · rw [qpuNames_putAll hnodup, lookup_submittedFields, hvalue, Option.map_some, if_pos rfl,
      Option.map_some, Option.getD_some, hservices.linesOf]
    exact hmap value hvalue
  · have hword := hsubmits.workloadKind
    rw [hvalue, Option.getD_some] at hword
    rw [kind_putAll hnodup, lookup_submittedFields, hvalue, Option.map_some, if_neg (by decide),
      Option.map_some, Option.getD_some]
    exact parseWorkloadKind_eq_some_iff.mpr ⟨hword, rfl⟩
  · have hqpu : field ≠ .qpu := fun h => hother.1 (h ▸ hfield)
    have hkind : field ≠ .workloadKind := fun h => hother.2 (h ▸ hfield)
    rw [number_putAll field ⟨hqpu, hkind⟩ hnodup, lookup_submittedFields, hvalue, Option.map_some,
      if_neg hqpu, Option.map_some, Option.getD_some]
  · rw [mem_presentFields_putAll, or_iff_left (Finset.notMem_empty field), ← hsome,
      Option.isSome_iff_exists, lookup_isSome_iff]
  all_goals
    intro options other value
    cases other <;> rfl

/-- The options of a submission arrive at the driver: the submission returns its directive from a
script in which it is the only one, the helper reads it, and the driver accepts the command of the
helper, if the allocation is in range, with the values of the submission. -/
theorem pipeline_carries (policy : Policy) (partition : Option (List UInt8)) (given : OptionValues)
    (line script : String) (hgiven : (given.map Prod.fst).Nodup)
    (hpolicy : ∀ name service, policy.resources name = some service →
      Lua.isWord service = true ∧ service.length ≤ maxResourceName)
    (hcount : ∀ value, given.lookup .qpu = some value →
      (Lua.commaFields value).length ≤ maxServices)
    (hbounds : ∀ option ∈ given, option.1 ∈ numericOptions → InBounds option.1 option.2)
    (hdirective : directive policy ⟨some (given.map spankEntry), partition⟩ = .ok (utf8 line))
    (hline : line ≠ "") (hscript : OnlyQfwLine script.toList line.toList) :
    slurmBbJobProcess (some (utf8 script)) = .ok (utf8 line ++ utf8 "\n") ∧
      ∃ fields quantum, Helper.parseDirective (utf8 script) = .ok fields ∧
        Carries policy given quantum ∧
        ∀ args operation command epoch, operation ≠ .release →
          Helper.driverCommand args operation (some fields) = .ok (command, epoch) →
          ∀ options, Driver.parseOptions (command.tail.map utf8) = .ok options ↔
            (Helper.Commanded args ∧ 0 < args.walltimeSeconds ∧
              args.walltimeSeconds ≤ Driver.maxWalltimeSeconds) ∧
            options = Helper.optionsOf args epoch operation quantum := by
  have hempty : utf8 line ≠ [] := fun hnil => hline (utf8_eq_nil_iff.mp hnil)
  rcases (directive_eq_ok_iff hgiven).mp hdirective with
    ⟨-, hnil⟩ | ⟨hne, services, hsubmits, houtput, hlength⟩
  · exact absurd hnil hempty
  obtain ⟨names, hnames, -⟩ := hsubmits.required .qpu (by decide)
  obtain ⟨hservices, hmap⟩ : ServiceList services ∧
      (Lua.commaFields names).map policy.resources = services.map some := by
    have hmapped := hsubmits.services
    rw [hnames] at hmapped
    exact services_of_mapQpus hmapped hpolicy (hcount names hnames)
  -- The fields that are written, and that the helper reads.
  have hbytes := fieldBytes_submittedFields hsubmits hservices
  have hascii : ∀ option ∈ submittedFields given services, ∀ b ∈ option.2, b.toNat < 128 :=
    fun option hoption b hb => ((hbytes option hoption).2 b hb).ascii
  have hnodup : ((submittedFields given services).map Prod.fst).Nodup := nodup_writtenFields
  have hfields : namedFields (submittedFields given services) ≠ [] := by
    obtain ⟨value, hvalue⟩ := exists_submittedFields hsubmits
      (show OptionField.qpu ∈ requiredOptions by decide)
    have hmem := mem_of_lookup hvalue
    exact List.ne_nil_of_mem (List.mem_map_of_mem hmem)
  have hchars : utf8 line =
      bytesOf (Helper.directiveText (namedFields (submittedFields given services))) :=
    houtput.trans (bytesOf_directiveText hascii).symm
  have htext : line.toList = Helper.directiveText (namedFields (submittedFields given services)) := by
    have hsame : line = String.ofList
        (Helper.directiveText (namedFields (submittedFields given services))) := by
      refine utf8_injective ?_
      rw [hchars, ← bytesOf_toList, String.toList_ofList]
    rw [hsame, String.toList_ofList]
  rw [htext] at hscript
  rw [hchars] at hlength
  -- The options that the driver stores.
  have hsettings : Helper.directiveSettings (namedFields (submittedFields given services)) =
      submittedFields given services := by
    rw [directiveSettings_namedFields hascii]
    exact filterMap_lookup_writtenFields
  have haccepts := accepts_submittedFields hsubmits hservices hbounds
  have hset (quantum : QuantumOptions) : setOptions {} (submittedFields given services) =
      .ok quantum ↔ quantum = QuantumOptions.putAll {} (submittedFields given services) :=
    (setOptions_eq_ok_iff hnodup fun _ _ => Finset.notMem_empty _).trans (and_iff_right haccepts)
  have hactive : (QuantumOptions.putAll {} (submittedFields given services)).active = true := by
    have hwritten : submittedFields given services ≠ [] := fun hnil => hfields (by rw [hnil]; rfl)
    rw [active_putAll, decide_eq_true hwritten, Bool.or_true]
  have hvalidate : qfwQuantumOptionsValidate
      (QuantumOptions.putAll {} (submittedFields given services)) = .ok () :=
    (validate_putAll_iff hnodup haccepts).mpr (.inr (complete_submittedFields hsubmits))
  rw [hchars]
  refine ⟨slurmBbJobProcess_directiveText hfields hlength hscript, _,
    QuantumOptions.putAll {} (submittedFields given services),
    parseDirective_directiveText (legible_submittedFields hsubmits hservices)
      (nodup_namedFields hnodup) (usable_submittedFields hsubmits hservices) hfields hlength hscript,
    carries_putAll hsubmits hservices fun value hvalue => ?_, ?_⟩
  · obtain rfl : value = names := Option.some.inj (hvalue.symm.trans hnames)
    exact hmap
  · intro args operation command epoch hoperation hcommand options
    rw [Helper.parse_driverCommand hcommand hoperation options, hsettings]
    refine and_congr_right fun _ => ⟨?_, ?_⟩
    · rintro ⟨quantum, hquantum, -, -, hoptions⟩
      rw [(hset quantum).mp hquantum] at hoptions
      exact hoptions
    · intro hoptions
      exact ⟨_, (hset _).mpr rfl, hactive, hvalidate, hoptions⟩

/-- A policy with one resource. -/
def onePolicy : Policy where
  resources name := if name = utf8 "a" then some (utf8 "qpm-a") else none
  partitions _ := none

/-- The directive of the sample options under this policy. -/
def sampleLine : String :=
  "#QFW v=1 qpu=qpm-a workload=quantum circuits=1 qubits=5 depth=1 shots=1 oneq=7"

lemma services_onePolicy : ∀ name service, onePolicy.resources name = some service →
    Lua.isWord service = true ∧ service.length ≤ maxResourceName := by
  intro name service h
  obtain rfl : service = utf8 "qpm-a" := by
    have hname : (if name = utf8 "a" then some (utf8 "qpm-a") else none) = some service := h
    split at hname
    · exact (Option.some.inj hname).symm
    · cases hname
  decide +kernel

lemma count_sampleOptions : ∀ value, (sampleOptions "7").lookup .qpu = some value →
    (Lua.commaFields value).length ≤ maxServices := by
  intro value h
  obtain rfl : value = utf8 "a" := (Option.some.inj h).symm
  decide +kernel

lemma inBounds_sampleOptions : ∀ option ∈ sampleOptions "7", option.1 ∈ numericOptions →
    InBounds option.1 option.2 := by
  have hbounds : ∀ option ∈ sampleOptions "7", option.1 ∈ numericOptions →
      Native.decimalValue option.2 < 2 ^ 32 := by decide +kernel
  rintro ⟨field, value⟩ hmem hfield
  have hbound : Native.decimalValue value < 2 ^ 32 := hbounds _ hmem hfield
  have hwide : Native.decimalValue value < 2 ^ 64 := hbound.trans (by decide)
  cases field with
  | qpu =>
    have hnone : OptionField.qpu ∉ numericOptions := by decide
    exact absurd hfield hnone
  | workloadKind => trivial
  | maxQubits => exact hbound
  | _ => exact hwide

lemma directive_sampleOptions :
    directive onePolicy ⟨some ((sampleOptions "7").map spankEntry), none⟩ = .ok (utf8 sampleLine) := by
  decide +kernel

/-- The way of the sample options. -/
theorem pipeline_carries_sample :
    slurmBbJobProcess (some (utf8 ("#!/bin/sh
" ++ sampleLine ++ "
"))) =
        .ok (utf8 sampleLine ++ utf8 "
") ∧
      ∃ fields quantum,
        Helper.parseDirective (utf8 ("#!/bin/sh
" ++ sampleLine ++ "
")) = .ok fields ∧
        Carries onePolicy (sampleOptions "7") quantum ∧
        ∀ args operation command epoch, operation ≠ .release →
          Helper.driverCommand args operation (some fields) = .ok (command, epoch) →
          ∀ options, Driver.parseOptions (command.tail.map utf8) = .ok options ↔
            (Helper.Commanded args ∧ 0 < args.walltimeSeconds ∧
              args.walltimeSeconds ≤ Driver.maxWalltimeSeconds) ∧
            options = Helper.optionsOf args epoch operation quantum := by
  refine pipeline_carries onePolicy none (sampleOptions "7") sampleLine
    ("#!/bin/sh
" ++ sampleLine ++ "
") (by decide) services_onePolicy count_sampleOptions
    inBounds_sampleOptions directive_sampleOptions (by decide +kernel)
    ⟨["#!/bin/sh".toList], [], by decide +kernel, ?_⟩
  rw [List.append_nil, List.forall_mem_singleton, ← strippedPieces_eq_nil_iff]
  decide +kernel

/-- An allocation of the sample options. -/
def sampleArgs (uid : ℤ) : Helper.Args where
  cluster := "cluster"
  jobId := 7
  canonicalJobId := 7
  uid := uid
  gid := 100
  submitTime := 1

/-- A script that is not UTF-8 is not read, and no user is beyond 32 bits for the driver. -/
theorem pipeline_exceptions :
    (¬ ∀ (policy : Policy) (partition : Option (List UInt8)) (given : OptionValues)
      (output content : List UInt8), (given.map Prod.fst).Nodup →
      (∀ name service, policy.resources name = some service →
        Lua.isWord service = true ∧ service.length ≤ maxResourceName) →
      (∀ value, given.lookup .qpu = some value →
        (Lua.commaFields value).length ≤ maxServices) →
      (∀ option ∈ given, option.1 ∈ numericOptions → InBounds option.1 option.2) →
      directive policy ⟨some (given.map spankEntry), partition⟩ = .ok output → output ≠ [] →
      (∃ before after, Lua.lines content = before ++ output :: after ∧
        ∀ other ∈ before ++ after, ¬ utf8 "#QFW" <:+: other) →
      ∃ fields, Helper.parseDirective content = .ok fields) ∧
    ¬ ∀ (args : Helper.Args) (fields : Helper.Directive) (command : List String) (epoch : ℤ),
      Helper.parseDirective (utf8 (sampleLine ++ "
")) = .ok fields →
      0 < args.walltimeSeconds ∧ args.walltimeSeconds ≤ Driver.maxWalltimeSeconds →
      Helper.driverCommand args .reserve (some fields) = .ok (command, epoch) →
      ∃ options, Driver.parseOptions (command.tail.map utf8) = .ok options := by
  constructor
  · intro hclaim
    obtain ⟨fields, hfields⟩ := hclaim onePolicy none (sampleOptions "7") (utf8 sampleLine)
      ([255, 10] ++ utf8 sampleLine) (by decide) services_onePolicy count_sampleOptions
      inBounds_sampleOptions directive_sampleOptions (by decide +kernel)
      ⟨[[255]], [], by decide +kernel, by decide +kernel⟩
    have hfails : (Helper.parseDirective ([255, 10] ++ utf8 sampleLine)).isOk = false := by
      decide +kernel
    rw [hfields] at hfails
    cases hfails
  · intro hclaim
    have hrun : (Helper.parseDirective (utf8 (sampleLine ++ "
")) >>= fun fields =>
        Helper.driverCommand (sampleArgs (2 ^ 32)) .reserve (some fields) >>= fun answer =>
          .ok (Driver.parseOptions (answer.1.tail.map utf8)).isOk) = .ok false := by
      decide +kernel
    obtain ⟨fields, hfields, hrun⟩ := bind_eq_ok_iff.mp hrun
    obtain ⟨⟨command, epoch⟩, hcommand, hfails⟩ := bind_eq_ok_iff.mp hrun
    obtain ⟨options, hoptions⟩ := hclaim (sampleArgs (2 ^ 32)) fields command epoch hfields
      (by decide) hcommand
    have hfails := Except.ok.inj hfails
    rw [hoptions] at hfails
    cases hfails

end QfwSlurm
