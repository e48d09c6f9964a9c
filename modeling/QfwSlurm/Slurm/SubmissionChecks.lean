import QfwSlurm.Slurm.Directive

/-!
# The checks of a submission

The options of a job are checked twice before it is queued: by the plugin of the user's command, in
C, and by `job_submit.lua`.  Both accept the options that are well formed, the first within the
bounds of its types and lists, the second where no number begins with a zero.  So they agree on
well-formed options within the bounds and without leading zeros, and on those that have both faults.
-/

namespace QfwSlurm

open Native

/-- The check of the user's command: every option is set, and all of them are valid together. -/
def AllocatorAccepts (given : OptionValues) : Prop :=
  ∃ options, setOptions {} given = .ok options ∧ qfwQuantumOptionsValidate options = .ok ()

/-- The check of `job_submit.lua`. -/
def SubmissionAccepts (policy : Policy) (partition : Option (List UInt8)) (given : OptionValues) :
    Prop :=
  ∃ output, directive policy ⟨some (given.map spankEntry), partition⟩ = .ok output

/-- The policy maps the names one to one, and allows them in the partition. -/
structure Mapped (policy : Policy) (partition : Option (List UInt8)) (names : List (List UInt8)) :
    Prop where
  known : ∀ name ∈ names, (policy.resources name).isSome = true
  injective : ∀ first ∈ names, ∀ second ∈ names,
    policy.resources first = policy.resources second → first = second
  allowed : ∀ name ∈ names, policy.allows partition name = true

/-! ### What both checks require -/

/-- A value of the right form: different names with empty pieces between them at most, one of two
words, or digits. -/
def HasForm : OptionField → List UInt8 → Prop
  | .qpu, value => Lua.commaFields value ≠ [] ∧
      (∀ name ∈ Lua.commaFields value, Lua.isWord name = true) ∧ (Lua.commaFields value).Nodup
  | .workloadKind, value => value = utf8 "quantum" ∨ value = utf8 "hybrid"
  | _, value => IsNumber value

/-- Well-formed options: the required ones are there and not zero, and every value has its form. -/
structure WellFormedOptions (given : OptionValues) : Prop where
  complete : Complete given
  hasForm : ∀ option ∈ given, HasForm option.1 option.2

/-- The bounds of the types in C, and of the list of names. -/
def InBounds : OptionField → List UInt8 → Prop
  | .qpu, value => [] ∉ Sequence.linesOf (· = 44) value ∧
      (Sequence.linesOf (· = 44) value).length ≤ maxServices ∧
      ∀ name ∈ Sequence.linesOf (· = 44) value, name.length ≤ maxResourceName
  | .workloadKind, _ => True
  | .maxQubits, value => Native.decimalValue value < 2 ^ 32
  | _, value => Native.decimalValue value < 2 ^ 64

/-- A number does not begin with a zero. -/
def NoLeadingZero : OptionField → List UInt8 → Prop
  | .qpu, _ => True
  | .workloadKind, _ => True
  | _, value => value.head? ≠ some 48

/-! ### The allocator -/

lemma isNameByte_eq (b : UInt8) : isNameByte b =
    ((65 ≤ b.toNat && b.toNat ≤ 90) || (97 ≤ b.toNat && b.toNat ≤ 122) ||
      (48 ≤ b.toNat && b.toNat ≤ 57) || b = 95 || b = 46 || b = 45) := by
  unfold isNameByte
  rw [Bool.eq_iff_iff]
  simp only [Bool.or_eq_true, Bool.and_eq_true, decide_eq_true_eq]
  tauto

lemma isWord_iff {name : List UInt8} :
    Lua.isWord name = true ↔ name ≠ [] ∧ name.all isNameByte = true := by
  have hbytes : isNameByte = fun b => (65 ≤ b.toNat && b.toNat ≤ 90) ||
      (97 ≤ b.toNat && b.toNat ≤ 122) || (48 ≤ b.toNat && b.toNat ≤ 57) || b = 95 || b = 46 ||
        b = 45 := funext isNameByte_eq
  rw [hbytes, Lua.isWord, Bool.and_eq_true, decide_eq_true_eq]

/-- Without empty pieces both languages see the same names. -/
lemma commaFields_eq {value : List UInt8} (h : [] ∉ Sequence.linesOf (· = 44) value) :
    Lua.commaFields value = Sequence.linesOf (· = 44) value := by
  have hkeep : ((fun name : List UInt8 => decide (name ≠ [])) []) = false := by decide
  rw [Lua.commaFields, ← Sequence.filter_linesOf hkeep]
  exact List.filter_eq_self.mpr fun name hname => decide_eq_true fun hnil => h (hnil ▸ hname)

/-- The names are valid when they have the right form within the bounds. -/
lemma validNames_iff {value : List UInt8} :
    ValidNames value ↔ HasForm .qpu value ∧ InBounds .qpu value := by
  constructor
  · intro h
    have hempty : [] ∉ Sequence.linesOf (· = 44) value := fun hmem => (h.name [] hmem).1 rfl
    have hfields := commaFields_eq hempty
    refine ⟨⟨?_, fun name hname => ?_, ?_⟩, hempty, h.count, fun name hname =>
      (h.name name hname).2.1⟩
    · rw [hfields]
      exact linesOf_ne_nil h.ne_nil
    · rw [hfields] at hname
      exact isWord_iff.mpr ⟨(h.name name hname).1, (h.name name hname).2.2⟩
    · rw [hfields]
      exact h.nodup
  · rintro ⟨⟨hne, hword, hnodup⟩, hempty, hcount, hlength⟩
    have hfields := commaFields_eq hempty
    rw [hfields] at hne hword hnodup
    refine ⟨fun hnil => hne (by rw [hnil]; rfl), hcount, fun name hname => ?_, hnodup⟩
    obtain ⟨hname', hbytes⟩ := isWord_iff.mp (hword name hname)
    exact ⟨hname', hlength name hname, hbytes⟩

lemma accepts_iff {field : OptionField} {value : List UInt8} :
    field.Accepts value ↔ HasForm field value ∧ InBounds field value := by
  cases field with
  | qpu => exact validNames_iff
  | workloadKind => exact ⟨fun h => ⟨h, trivial⟩, And.left⟩
  | _ => exact Iff.rfl

/-- The allocator accepts well-formed options within the bounds. -/
lemma allocatorAccepts_iff {given : OptionValues} (hgiven : (given.map Prod.fst).Nodup) :
    AllocatorAccepts given ↔ given = [] ∨
      WellFormedOptions given ∧ ∀ option ∈ given, InBounds option.1 option.2 := by
  have hset (options : QuantumOptions) : setOptions {} given = .ok options ↔
      (∀ option ∈ given, option.1.Accepts option.2) ∧ options = QuantumOptions.putAll {} given :=
    setOptions_eq_ok_iff hgiven fun _ _ => Finset.notMem_empty _
  constructor
  · rintro ⟨options, hoptions, hvalidate⟩
    obtain ⟨haccepts, rfl⟩ := (hset options).mp hoptions
    refine ((validate_putAll_iff hgiven haccepts).mp hvalidate).imp id fun hcomplete => ?_
    exact ⟨⟨hcomplete, fun option hoption => (accepts_iff.mp (haccepts option hoption)).1⟩,
      fun option hoption => (accepts_iff.mp (haccepts option hoption)).2⟩
  · rintro (rfl | ⟨hform, hbounds⟩)
    · exact ⟨{}, rfl, rfl⟩
    · have haccepts : ∀ option ∈ given, option.1.Accepts option.2 := fun option hoption =>
        accepts_iff.mpr ⟨hform.hasForm option hoption, hbounds option hoption⟩
      exact ⟨_, (hset _).mpr ⟨haccepts, rfl⟩,
        (validate_putAll_iff hgiven haccepts).mpr (.inr hform.complete)⟩

/-! ### The submission -/

lemma isPositive_iff {value : List UInt8} :
    Lua.isPositive value = true ↔ IsNumber value ∧ value.head? ≠ some 48 := by
  cases value with
  | nil => exact iff_of_false Bool.false_ne_true fun h => h.1.1 rfl
  | cons first rest =>
    have hzero : first = 48 ↔ first.toNat = 48 := UInt8.toNat_inj.symm
    rw [Lua.isPositive, IsNumber, List.head?_cons, List.all_cons]
    unfold isDigitByte
    simp only [Bool.and_eq_true, decide_eq_true_eq, ne_eq, Option.some.injEq, hzero, reduceCtorEq,
      not_false_eq_true, true_and]
    constructor
    · rintro ⟨⟨hlow, hhigh⟩, hrest⟩
      exact ⟨⟨⟨by omega, hhigh⟩, hrest⟩, by omega⟩
    · rintro ⟨⟨⟨hlow, hhigh⟩, hrest⟩, hne⟩
      exact ⟨⟨by omega, hhigh⟩, hrest⟩

/-- A number without a leading zero is not zero. -/
lemma decimalValue_ne_zero {value : List UInt8} (h : Lua.isPositive value = true) :
    Native.decimalValue value ≠ 0 := by
  have hgrows (digits : List UInt8) (n : ℕ) (hn : n ≠ 0) :
      digits.foldl (fun n b => n * 10 + (b.toNat - 48)) n ≠ 0 := by
    induction digits generalizing n with
    | nil => exact hn
    | cons digit digits ih => exact ih (n * 10 + (digit.toNat - 48)) (by omega)
  cases value with
  | nil => exact absurd h Bool.false_ne_true
  | cons first rest =>
    rw [Lua.isPositive, Bool.and_eq_true, Bool.and_eq_true] at h
    have hlow : 49 ≤ first.toNat := of_decide_eq_true h.1.1
    exact hgrows rest (0 * 10 + (first.toNat - 48)) (by omega)

lemma lookup_of_mem {given : OptionValues} (hgiven : (given.map Prod.fst).Nodup)
    {option : OptionField × List UInt8} (h : option ∈ given) :
    given.lookup option.1 = some option.2 := by
  induction given with
  | nil => exact absurd h List.not_mem_nil
  | cons first given ih =>
    rw [List.map_cons, List.nodup_cons] at hgiven
    rw [List.lookup_cons]
    rcases List.mem_cons.mp h with rfl | h
    · rw [beq_self_eq_true]
    · have hne : option.1 ≠ first.1 := by
        intro heq
        have hmem := List.mem_map_of_mem (f := Prod.fst) h
        rw [heq] at hmem
        exact hgiven.1 hmem
      have hbeq : (option.1 == first.1) = false := by simpa using hne
      rw [hbeq]
      exact ih hgiven.2 h

lemma mem_of_lookup {given : OptionValues} {field : OptionField} {value : List UInt8}
    (h : given.lookup field = some value) : (field, value) ∈ given := by
  obtain ⟨before, after, rfl, -⟩ := List.lookup_eq_some_iff.mp h
  exact List.mem_append_right _ List.mem_cons_self

section Mapping

variable {policy : Policy} {partition : Option (List UInt8)}

/-- Names that are mapped one to one are mapped when they are different words. -/
lemma mapQpus_iff {value : List UInt8} (h : Mapped policy partition (Lua.commaFields value)) :
    (∃ services, mapQpus policy partition value = .ok services) ↔ HasForm .qpu value := by
  let service (name : List UInt8) : List UInt8 := (policy.resources name).getD []
  have hservice (name : List UInt8) (hname : name ∈ Lua.commaFields value) :
      policy.resources name = some (service name) := by
    obtain ⟨serviceId, hknown⟩ := Option.isSome_iff_exists.mp (h.known name hname)
    simp only [service, hknown, Option.getD_some]
  constructor
  · rintro ⟨services, hservices⟩
    obtain ⟨mapped, hmapped, hresult⟩ := bind_eq_ok_iff.mp hservices
    obtain ⟨found, hfound, hforall, hnodup, -⟩ := mapNames_eq_ok_iff.mp hmapped
    rw [List.nil_append] at hfound
    subst hfound
    have hmap : List.Forall₂ (· = ·) ((Lua.commaFields value).map service) mapped := by
      refine List.forall₂_map_left_iff.mpr (hforall.imp fun name serviceId hname => ?_)
      simp only [service, hname.2.1, Option.getD_some]
    rw [List.forall₂_eq_eq_eq] at hmap
    refine ⟨fun hnil => ?_, ((List.forall₂_and_left _ _).mp hforall).1, ?_⟩
    · rw [← hmap, hnil, List.map_nil, if_pos List.length_nil] at hresult
      cases hresult
    · rw [← hmap] at hnodup
      exact hnodup.of_map service
  · rintro ⟨hne, hword, hnodup⟩
    have hinjective : ∀ first ∈ Lua.commaFields value, ∀ second ∈ Lua.commaFields value,
        service first = service second → first = second := by
      intro first hfirst second hsecond heq
      exact h.injective first hfirst second hsecond
        (by rw [hservice first hfirst, hservice second hsecond, heq])
    have hmapped : mapNames policy partition [] (Lua.commaFields value) =
        .ok ((Lua.commaFields value).map service) := by
      refine mapNames_eq_ok_iff.mpr ⟨(Lua.commaFields value).map service, rfl, ?_,
        List.Nodup.map_on hinjective hnodup, fun _ _ => List.not_mem_nil⟩
      exact List.forall₂_map_right_iff.mpr (List.forall₂_same.mpr fun name hname =>
        ⟨hword name hname, hservice name hname, h.allowed name hname⟩)
    have hlength : ¬ ((Lua.commaFields value).map service).length = 0 := by
      rw [List.length_map]
      exact fun hzero => hne (List.eq_nil_of_length_eq_zero hzero)
    exact ⟨_, bind_eq_ok_iff.mpr ⟨_, hmapped, if_neg hlength⟩⟩

end Mapping

/-- The submission accepts well-formed options without leading zeros. -/
lemma submissionAccepts_iff {policy : Policy} {partition : Option (List UInt8)}
    {given : OptionValues} (hgiven : (given.map Prod.fst).Nodup)
    (hmapped : ∀ value, given.lookup .qpu = some value →
      Mapped policy partition (Lua.commaFields value))
    (hlength : directive policy ⟨some (given.map spankEntry), partition⟩ ≠ .error directiveTooLong) :
    SubmissionAccepts policy partition given ↔ given = [] ∨
      WellFormedOptions given ∧ ∀ option ∈ given, NoLeadingZero option.1 option.2 := by
  constructor
  · rintro ⟨output, houtput⟩
    rcases (directive_eq_ok_iff hgiven).mp houtput with ⟨hnil, -⟩ | ⟨-, services, hsubmits, -, -⟩
    · exact .inl hnil
    have hnumber {field : OptionField} {value : List UInt8} (hfield : field ∈ numericOptions)
        (hmem : (field, value) ∈ given) : IsNumber value ∧ value.head? ≠ some 48 :=
      isPositive_iff.mp (hsubmits.numeric field hfield value (lookup_of_mem hgiven hmem))
    refine .inr ⟨⟨fun field hfield => ?_, ?_⟩, ?_⟩
    · obtain ⟨value, hvalue, -⟩ := hsubmits.required field hfield
      refine ⟨value, hvalue, fun hqpu hkind => decimalValue_ne_zero ?_⟩
      refine hsubmits.numeric field ?_ value hvalue
      cases field <;> first | exact absurd rfl hqpu | exact absurd rfl hkind | decide
    · rintro ⟨field, value⟩ hmem
      have hlookup : given.lookup field = some value := lookup_of_mem hgiven hmem
      cases field with
      | qpu =>
        have hservices := hsubmits.services
        rw [hlookup] at hservices
        exact (mapQpus_iff (hmapped value hlookup)).mp ⟨services, hservices⟩
      | workloadKind =>
        have hkind := hsubmits.workloadKind
        rw [hlookup] at hkind
        exact hkind
      | _ => exact (hnumber (by decide) hmem).1
    · rintro ⟨field, value⟩ hmem
      cases field with
      | qpu => trivial
      | workloadKind => trivial
      | _ => exact (hnumber (by decide) hmem).2
  · rintro (hnil | ⟨hform, hzero⟩)
    · exact ⟨[], (directive_eq_ok_iff hgiven).mpr (.inl ⟨hnil, rfl⟩)⟩
    have hne : given ≠ [] := by
      rintro rfl
      obtain ⟨value, hvalue, -⟩ := hform.complete .qpu (by decide)
      cases hvalue
    have hnumber (field : OptionField) (hfield : field ∈ numericOptions) (value : List UInt8)
        (hvalue : given.lookup field = some value) : Lua.isPositive value = true := by
      have hmem := mem_of_lookup hvalue
      have hnumeric := hform.hasForm _ hmem
      have hhead := hzero _ hmem
      refine isPositive_iff.mpr ?_
      cases field with
      | qpu => exact absurd hfield (by decide)
      | workloadKind => exact absurd hfield (by decide)
      | _ => exact ⟨hnumeric, hhead⟩
    obtain ⟨names, hnames, -⟩ := hform.complete .qpu (by decide)
    have hnamesForm : HasForm .qpu names := hform.hasForm _ (mem_of_lookup hnames)
    obtain ⟨services, hservices⟩ := (mapQpus_iff (hmapped names hnames)).mpr hnamesForm
    obtain ⟨kind, hkind, -⟩ := hform.complete .workloadKind (by decide)
    have hkindForm : kind = utf8 "quantum" ∨ kind = utf8 "hybrid" :=
      hform.hasForm _ (mem_of_lookup hkind)
    have hsubmits : Submits policy partition given services := by
      refine ⟨fun field hfield => ?_, hnumber, ?_, ?_⟩
      · obtain ⟨value, hvalue, -⟩ := hform.complete field hfield
        refine ⟨value, hvalue, ?_⟩
        have hvalueForm := hform.hasForm _ (mem_of_lookup hvalue)
        cases field with
        | qpu =>
          rintro rfl
          exact hvalueForm.1 rfl
        | workloadKind =>
          rintro rfl
          exact hvalueForm.elim (by decide +kernel) (by decide +kernel)
        | _ => exact hvalueForm.1
      · rw [hkind]
        exact hkindForm
      · rw [hnames]
        exact hservices
    have hdirective := directive_of_submits hgiven hne hsubmits
    split at hdirective
    · exact absurd hdirective hlength
    · exact ⟨_, hdirective⟩

/-! ### Agreement -/

/-- Both checks agree on options that are mapped one to one and give no directive that is too long,
if and only if well-formed options are within the bounds exactly when no number begins with a
zero. -/
theorem checks_agree_iff (policy : Policy) (partition : Option (List UInt8)) (given : OptionValues)
    (hgiven : (given.map Prod.fst).Nodup)
    (hmapped : ∀ value, given.lookup .qpu = some value →
      Mapped policy partition (Lua.commaFields value))
    (hlength : directive policy ⟨some (given.map spankEntry), partition⟩ ≠ .error directiveTooLong) :
    (AllocatorAccepts given ↔ SubmissionAccepts policy partition given) ↔
      (WellFormedOptions given → ((∀ option ∈ given, InBounds option.1 option.2) ↔
        ∀ option ∈ given, NoLeadingZero option.1 option.2)) := by
  rw [allocatorAccepts_iff hgiven, submissionAccepts_iff hgiven hmapped hlength]
  have hne (hform : WellFormedOptions given) : given ≠ [] := by
    rintro rfl
    obtain ⟨value, hvalue, -⟩ := hform.complete .qpu (by decide)
    cases hvalue
  tauto

/-- A policy under which every resource is the service of the same name. -/
def samePolicy : Policy where
  resources name := some name
  partitions _ := none

lemma mapped_samePolicy (partition : Option (List UInt8)) (names : List (List UInt8)) :
    Mapped samePolicy partition names where
  known _ _ := rfl
  injective _ _ _ _ h := Option.some.inj h
  allowed name _ := by
    unfold Policy.allows samePolicy
    cases partition <;> rfl

/-- All the required options, and an optional one. -/
def sampleOptions (oneQGates : String) : OptionValues :=
  [(.qpu, utf8 "a"), (.workloadKind, utf8 "quantum"), (.circuitCount, utf8 "1"),
    (.maxQubits, utf8 "5"), (.maxDepth, utf8 "1"), (.maxShots, utf8 "1"),
    (.maxOneQGates, utf8 oneQGates)]

/-- The checks on options that both accept. -/
theorem checks_agree_iff_sample :
    (AllocatorAccepts (sampleOptions "7") ↔
        SubmissionAccepts samePolicy none (sampleOptions "7")) ↔
      (WellFormedOptions (sampleOptions "7") →
        ((∀ option ∈ sampleOptions "7", InBounds option.1 option.2) ↔
          ∀ option ∈ sampleOptions "7", NoLeadingZero option.1 option.2)) :=
  checks_agree_iff samePolicy none (sampleOptions "7") (by decide)
    (fun _ _ => mapped_samePolicy none _) (by decide +kernel)

/-- The user's command accepts an optional bound of zero, the submission does not. -/
theorem zero_bound_differs :
    ¬ ∀ (policy : Policy) (partition : Option (List UInt8)) (given : OptionValues),
      (given.map Prod.fst).Nodup →
      (∀ value, given.lookup .qpu = some value →
        Mapped policy partition (Lua.commaFields value)) →
      directive policy ⟨some (given.map spankEntry), partition⟩ ≠ .error directiveTooLong →
      (AllocatorAccepts given ↔ SubmissionAccepts policy partition given) := by
  intro hclaim
  have hagree := hclaim samePolicy none (sampleOptions "0") (by decide)
    (fun _ _ => mapped_samePolicy none _) (by decide +kernel)
  have hboth : (setOptions {} (sampleOptions "0") >>= qfwQuantumOptionsValidate) = .ok () := by
    decide +kernel
  obtain ⟨options, hset, hvalidate⟩ := bind_eq_ok_iff.mp hboth
  obtain ⟨output, houtput⟩ := hagree.mp ⟨options, hset, hvalidate⟩
  have hfails : (directive samePolicy ⟨some ((sampleOptions "0").map spankEntry), none⟩).isOk =
      false := by decide +kernel
  rw [houtput] at hfails
  cases hfails

end QfwSlurm
