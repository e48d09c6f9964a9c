import QfwSlurm.Native.Operations
import QfwSlurm.Protocol.RoundTrip

/-!
# The loops of the native decoders

The decoders of `src/protocol/qsgp_decode.c` fill in a message while they read its fields, in the
order in which the fields come.  What they end with depends on the values of the fields alone: the
cursor reads the same fields as the gateway's reader (`reads_cursorNext`), and a loop ends well
exactly when the gateway's `_collect` accepts the payload, every field can be read and every
container can be decoded (`Fills.run_iff`, `FillsMessage.run_iff`).

A loop `Fills` a message: there is a function from the values seen so far to the message filled in
so far, and a readable field changes the message as it changes the values.
-/

namespace QfwSlurm.Native

open Wire

/-! ### The cursor -/

/-- The known types are the codes of the fields. -/
lemma knownTlv_eq_isSome (type : ℕ) : knownTlv type = (Field.ofCode type).isSome := by
  rw [Bool.eq_iff_iff, knownTlv_iff]
  constructor
  · rintro ⟨hlow, hhigh⟩
    interval_cases type <;> rfl
  · intro h
    obtain ⟨field, hfield⟩ := Option.isSome_iff_exists.mp h
    have hcode := Field.code_of_ofCode hfield
    have hbounds := field.code_bounds
    omega

/-- The cursor and the gateway read the same fields. -/
lemma readable_iff_legible {tlv : Tlv} : Readable tlv ↔ Legible tlv := by
  constructor
  · rintro ⟨hfits, hflags⟩
    exact ⟨hfits, by rwa [← knownTlv_eq_isSome]⟩
  · rintro ⟨hfits, hflags⟩
    exact ⟨hfits, by rwa [knownTlv_eq_isSome]⟩

/-- Flags of two bytes are supported when they are the required bit or none. -/
lemma native_flags_iff {flags : ℕ} (h : flags < 256 ^ 2) :
    flags &&& (2 ^ 32 - 1 - tlvRequired) = 0 ↔ flags = 0 ∨ flags = tlvRequired := by
  rw [← flags_supported_iff h]
  -- the masks agree on the low sixteen bits
  have hmask : 2 ^ 16 - 1 - tlvRequired = (2 ^ 32 - 1 - tlvRequired) &&& (2 ^ 16 - 1) := by decide
  have hlow : flags &&& (2 ^ 16 - 1) = flags := by
    rw [Nat.and_two_pow_sub_one_eq_mod, Nat.mod_eq_of_lt (by omega)]
  rw [hmask, Nat.and_comm (2 ^ 32 - 1 - tlvRequired), ← Nat.and_assoc, hlow]

/-- The cursor reads the readable fields and nothing else. -/
lemma reads_cursorNext : Reads cursorNext Readable where
  toAccepts := accepts_cursorNext
  empty {bytes} h := by
    by_contra hne
    simp only [cursorNext, if_neg hne] at h
    split_ifs at h
    exact absurd h (by simp)
  exact {bytes tlv rest} h := by
    simp only [cursorNext] at h
    split_ifs at h with hempty hheader hsize hroom hpadding hflags hknown
    · exact absurd h (by simp)
    rw [not_not] at hflags
    simp only [Except.ok.injEq, Option.some.injEq, Prod.mk.injEq] at h
    obtain ⟨rfl, rfl⟩ := h
    have hshort (offset width : ℕ) : ofBigEndian (slice offset width bytes) < 256 ^ width :=
      (ofBigEndian_lt _).trans_le (Nat.pow_le_pow_right (by norm_num) (by simp [slice]))
    refine ⟨⟨⟨hshort 0 2, hshort 2 2, ?_⟩, ?_⟩, ?_⟩
    · exact lt_of_le_of_lt (by simp) (hshort 4 4)
    · rcases (native_flags_iff (hshort 2 2)).mp hflags with hzero | hrequired
      · exact .inl hzero
      · refine .inr ⟨hrequired, ?_⟩
        by_contra hunknown
        refine hknown ⟨by simpa using hunknown, ?_⟩
        rw [hrequired]
        decide
    · refine eq_encode_of_read (not_lt.mp hheader) rfl (not_lt.mp hroom) ?_
      simpa using hpadding

/-! ### Loops that run side by side -/

section Side

variable {ε ε' σ τ : Type} {step : σ → Tlv → Except ε σ} {step' : τ → Tlv → Except ε' τ}
  {related : σ → τ → Prop}

/-- A loop whose rounds are matched by those of another loop is matched by it. -/
lemma foldlM_matched (h : ∀ s t tlv s', related s t → step s tlv = .ok s' →
      ∃ t', step' t tlv = .ok t' ∧ related s' t')
    {tlvs : List Tlv} {s s' : σ} {t : τ} (hrelated : related s t)
    (hloop : tlvs.foldlM step s = .ok s') :
    ∃ t', tlvs.foldlM step' t = .ok t' ∧ related s' t' := by
  induction tlvs generalizing s t with
  | nil =>
    obtain rfl := Except.ok.inj hloop
    exact ⟨t, rfl, hrelated⟩
  | cons tlv tlvs ih =>
    rw [List.foldlM_cons, bind_eq_ok_iff] at hloop
    obtain ⟨next, hnext, hloop⟩ := hloop
    obtain ⟨next', hnext', hrelated'⟩ := h s t tlv next hrelated hnext
    obtain ⟨t', hloop', hfinal⟩ := ih hrelated' hloop
    refine ⟨t', ?_, hfinal⟩
    rw [List.foldlM_cons, hnext']
    exact hloop'

/-- What holds at the end of a loop and is inherited by the state before each round held at the
start. -/
lemma foldlM_backward {good : σ → Prop}
    (hgood : ∀ s tlv s', step s tlv = .ok s' → good s' → good s)
    {tlvs : List Tlv} {s s' : σ} (hloop : tlvs.foldlM step s = .ok s') (hfinal : good s') :
    good s := by
  induction tlvs generalizing s with
  | nil =>
    obtain rfl := Except.ok.inj hloop
    exact hfinal
  | cons tlv tlvs ih =>
    rw [List.foldlM_cons, bind_eq_ok_iff] at hloop
    obtain ⟨next, hnext, hloop⟩ := hloop
    exact hgood s tlv next hnext (ih hloop)

/-- A loop whose rounds are matched as long as such a condition holds is matched by the other loop
when it ends with the condition. -/
lemma foldlM_matched_of {good : σ → Prop}
    (hgood : ∀ s tlv s', step s tlv = .ok s' → good s' → good s)
    (h : ∀ s t tlv s', related s t → step s tlv = .ok s' → good s' →
      ∃ t', step' t tlv = .ok t' ∧ related s' t')
    {tlvs : List Tlv} {s s' : σ} {t : τ} (hrelated : related s t)
    (hloop : tlvs.foldlM step s = .ok s') (hfinal : good s') :
    ∃ t', tlvs.foldlM step' t = .ok t' ∧ related s' t' := by
  induction tlvs generalizing s t with
  | nil =>
    obtain rfl := Except.ok.inj hloop
    exact ⟨t, rfl, hrelated⟩
  | cons tlv tlvs ih =>
    rw [List.foldlM_cons, bind_eq_ok_iff] at hloop
    obtain ⟨next, hnext, hloop⟩ := hloop
    obtain ⟨next', hnext', hrelated'⟩ :=
      h s t tlv next hrelated hnext (foldlM_backward hgood hloop hfinal)
    obtain ⟨t', hloop', hend⟩ := ih hrelated' hloop
    refine ⟨t', ?_, hend⟩
    rw [List.foldlM_cons, hnext']
    exact hloop'

end Side

/-! ### Filling in a message -/

/-- How a field is represented: a number of four or eight bytes, or a text with a bound. -/
inductive Shape where
  | u32
  | u64
  | text (maximum : ℕ)

/-- A text that is nonempty, within its bound and without NUL. -/
structure CharsFit (value : List UInt8) (maximum : ℕ) : Prop where
  nonempty : value ≠ []
  bounded : value.length ≤ maximum
  plain : 0 ∉ value

/-- The values that can be read with a shape. -/
def Shape.Reads (value : List UInt8) : Shape → Prop
  | .u32 => value.length = 4
  | .u64 => value.length = 8
  | .text maximum => CharsFit value maximum

/-- The values that a message with this layout has room for. -/
def Fitting (layout : Field → Option Shape) (field : Field) (value : List UInt8) : Prop :=
  ∃ shape, layout field = some shape ∧ shape.Reads value

/-- Every value present can be read. -/
def AllFitting (layout : Field → Option Shape) (scalars : Scalars) : Prop :=
  ∀ field value, scalars field = some value → Fitting layout field value

/-- Marks for the fields that have a value. -/
def Marks (fields : ℕ) (scalars : Scalars) : Prop :=
  ∀ field, fieldPresent fields field = (scalars field).isSome

lemma tlvU32_eq_ok_iff {tlv : Tlv} {value : ℕ} :
    tlvU32 tlv = .ok value ↔ tlv.value.length = 4 ∧ value = ofBigEndian tlv.value := by
  by_cases h : tlv.value.length = 4 <;> simp [tlvU32, h, eq_comm]

lemma tlvU64_eq_ok_iff {tlv : Tlv} {value : ℕ} :
    tlvU64 tlv = .ok value ↔ tlv.value.length = 8 ∧ value = ofBigEndian tlv.value := by
  by_cases h : tlv.value.length = 8 <;> simp [tlvU64, h, eq_comm]

lemma tlvString_eq_ok_iff {tlv : Tlv} {maximum : ℕ} {value : List UInt8} :
    tlvString tlv (maximum + 1) = .ok value ↔ CharsFit tlv.value maximum ∧ value = tlv.value := by
  unfold tlvString
  split_ifs with h
  · simp only [false_iff, not_and]
    rintro ⟨hne, hbound, hplain⟩
    rcases h with hempty | hlong | hzero
    · exact absurd (List.length_eq_zero_iff.mp hempty) hne
    · omega
    · exact absurd hzero hplain
  · push Not at h
    obtain ⟨hne, hbound, hplain⟩ := h
    have hfit : CharsFit tlv.value maximum :=
      ⟨fun hnil => hne (by rw [hnil]; rfl), by omega, hplain⟩
    simp [hfit, eq_comm]

lemma throw_bind {ε α β : Type} (error : ε) (next : α → Except ε β) :
    ((throw error : Except ε α) >>= next) = .error error := rfl

lemma map_eq_ok_iff {ε α β : Type} {f : α → β} {m : Except ε α} {result : β} :
    f <$> m = .ok result ↔ ∃ value, m = .ok value ∧ result = f value := by
  cases m <;> simp [Functor.map, Except.map, eq_comm]

/-- Reading a number into a message. -/
lemma read_u32_iff {α : Type} {tlv : Tlv} {put : ℕ → α} {message : α} :
    put <$> tlvU32 tlv = .ok message ↔
      tlv.value.length = 4 ∧ message = put (ofBigEndian tlv.value) := by
  simp only [map_eq_ok_iff, tlvU32_eq_ok_iff, and_assoc, exists_and_left, exists_eq_left]

/-- Reading a number into a message. -/
lemma read_u64_iff {α : Type} {tlv : Tlv} {put : ℕ → α} {message : α} :
    put <$> tlvU64 tlv = .ok message ↔
      tlv.value.length = 8 ∧ message = put (ofBigEndian tlv.value) := by
  simp only [map_eq_ok_iff, tlvU64_eq_ok_iff, and_assoc, exists_and_left, exists_eq_left]

/-- Reading a text into a message. -/
lemma read_text_iff {α : Type} {tlv : Tlv} {maximum : ℕ} {put : List UInt8 → α} {message : α} :
    put <$> tlvString tlv (maximum + 1) = .ok message ↔
      CharsFit tlv.value maximum ∧ message = put tlv.value := by
  simp only [map_eq_ok_iff, tlvString_eq_ok_iff, and_assoc, exists_and_left, exists_eq_left]

/-- No field is marked at first. -/
lemma marks_zero : Marks 0 fun _ => none := by
  intro field
  simp [fieldPresent]

/-- Marking a field that gets a value. -/
lemma Marks.update {fields : ℕ} {scalars : Scalars} (h : Marks fields scalars) (field : Field)
    (value : List UInt8) :
    Marks (fields ||| 1 <<< field.code) (Function.update scalars field (some value)) := by
  intro other
  have hother := h other
  have hbound : other.code < 64 := by have := other.code_bounds; omega
  simp only [fieldPresent, hbound, true_and, Bool.decide_eq_true] at hother ⊢
  rw [Nat.testBit_or, Nat.one_shiftLeft, Nat.testBit_two_pow, hother]
  rcases eq_or_ne other field with rfl | hne
  · simp
  · have hcode : ¬ field.code = other.code := by simpa using hne.symm
    simp [Function.update_of_ne hne, hcode]

/-- A field is marked when it has no value yet. -/
lemma Marks.markOnce_iff {fields : ℕ} {scalars : Scalars} (h : Marks fields scalars)
    {field : Field} {marked : ℕ} :
    markOnce fields field.code = .ok marked ↔
      scalars field = none ∧ marked = fields ||| 1 <<< field.code := by
  have hmark := h field
  have hbound : field.code < 64 := by have := field.code_bounds; omega
  simp only [fieldPresent, hbound, true_and, Bool.decide_eq_true] at hmark
  rw [markOnce, if_neg (not_le.mpr hbound), hmark]
  cases scalars field <;> simp [eq_comm]

/-- Readers of scalar fields: `assign` is the message filled in with the values seen so far, and a
field is read when it has a fitting value, which becomes its value. -/
structure Fills {α : Type} (read : α → Tlv → Except Status α) (layout : Field → Option Shape)
    (assign : Scalars → α) : Prop where
  reads : ∀ scalars field flags bytes value,
    read (assign scalars) ⟨field.code, flags, bytes⟩ = .ok value ↔
      Fitting layout field bytes ∧ value = assign (Function.update scalars field (some bytes))

/-- The state of a loop over scalar fields after the values of `collected`. -/
structure Filled {α : Type} (layout : Field → Option Shape) (assign : Scalars → α)
    (state : Decoding α) (collected : Collected) : Prop where
  value : state.value = assign collected.scalar
  marks : Marks state.fields collected.scalar
  fitting : AllFitting layout collected.scalar

/-- A value that is added to fitting values has to fit. -/
lemma allFitting_update_iff {layout : Field → Option Shape} {scalars : Scalars} {field : Field}
    {value : List UInt8} (hnone : scalars field = none) :
    AllFitting layout (Function.update scalars field (some value)) ↔
      AllFitting layout scalars ∧ Fitting layout field value := by
  constructor
  · intro h
    refine ⟨fun other content hcontent => ?_, h field value (by simp)⟩
    have hne : other ≠ field := by
      rintro rfl
      rw [hnone] at hcontent
      exact absurd hcontent (by simp)
    exact h other content (by rw [Function.update_of_ne hne, hcontent])
  · rintro ⟨hall, hfit⟩ other content hcontent
    rcases eq_or_ne other field with rfl | hne
    · rw [Function.update_self] at hcontent
      obtain rfl := Option.some.inj hcontent
      exact hfit
    · rw [Function.update_of_ne hne] at hcontent
      exact hall other content hcontent

section Scalar

variable {α : Type} {read : α → Tlv → Except Status α} {layout : Field → Option Shape}
  {assign : Scalars → α}

/-- A known field is read when it has no value yet and the value fits. -/
lemma Fills.fieldStep_iff (h : Fills read layout assign) {state : Decoding α} {scalars : Scalars}
    (hvalue : state.value = assign scalars) (hmarks : Marks state.fields scalars) {tlv : Tlv}
    {field : Field} (htype : Field.ofCode tlv.type = some field) {next : Decoding α} :
    fieldStep read state tlv = .ok next ↔
      scalars field = none ∧ Fitting layout field tlv.value ∧
        next = ⟨state.fields ||| 1 <<< field.code,
          assign (Function.update scalars field (some tlv.value))⟩ := by
  obtain ⟨type, flags, bytes⟩ := tlv
  obtain rfl : field.code = type := Field.code_of_ofCode htype
  rw [fieldStep, if_neg (by simp), bind_eq_ok_iff]
  simp only [bind_eq_ok_iff, hmarks.markOnce_iff, hvalue, h.reads]
  constructor
  · rintro ⟨_, ⟨hnone, rfl⟩, _, ⟨hfit, rfl⟩, hnext⟩
    exact ⟨hnone, hfit, (Except.ok.inj hnext).symm⟩
  · rintro ⟨hnone, hfit, rfl⟩
    exact ⟨_, ⟨hnone, rfl⟩, _, ⟨hfit, rfl⟩, rfl⟩

lemma fieldStep_unknown {state : Decoding α} {tlv : Tlv} (h : Field.ofCode tlv.type = none) :
    fieldStep read state tlv = .ok state := by
  rw [fieldStep, if_pos (by rw [knownTlv_eq_isSome, h]; simp)]

lemma collectStep_unknown {repeated : List Field} {collected : Collected} {tlv : Tlv}
    (h : Field.ofCode tlv.type = none) : collectStep repeated collected tlv = .ok collected := by
  simp only [collectStep, h]

/-- A scalar field is collected when it has no value yet. -/
lemma collectStep_scalar_iff {repeated : List Field} {collected next : Collected} {tlv : Tlv}
    {field : Field} (htype : Field.ofCode tlv.type = some field) (hscalar : field ∉ repeated) :
    collectStep repeated collected tlv = .ok next ↔
      collected.scalar field = none ∧
        next = { collected with
          scalar := Function.update collected.scalar field (some tlv.value) } := by
  simp only [collectStep, htype, if_neg hscalar]
  cases hseen : collected.scalar field <;> simp [eq_comm]

/-- One round of a loop over scalar fields is matched by one of `_collect`. -/
lemma Fills.step_sound (h : Fills read layout assign) {state next : Decoding α}
    {collected : Collected} {tlv : Tlv} (hfilled : Filled layout assign state collected)
    (hstep : fieldStep read state tlv = .ok next) :
    ∃ collected', collectStep [] collected tlv = .ok collected' ∧
      Filled layout assign next collected' := by
  cases htype : Field.ofCode tlv.type with
  | none =>
    rw [fieldStep_unknown htype] at hstep
    obtain rfl := Except.ok.inj hstep
    exact ⟨collected, collectStep_unknown htype, hfilled⟩
  | some field =>
    obtain ⟨hnone, hfit, rfl⟩ := (h.fieldStep_iff hfilled.value hfilled.marks htype).mp hstep
    refine ⟨_, (collectStep_scalar_iff htype List.not_mem_nil).mpr ⟨hnone, rfl⟩, rfl, ?_, ?_⟩
    · exact hfilled.marks.update field tlv.value
    · exact (allFitting_update_iff hnone).mpr ⟨hfilled.fitting, hfit⟩

/-- One round of `_collect` is matched by one of the loop when the values fit. -/
lemma Fills.step_complete (h : Fills read layout assign) {state : Decoding α}
    {collected next : Collected} {tlv : Tlv} (hfilled : Filled layout assign state collected)
    (hstep : collectStep [] collected tlv = .ok next) (hfitting : AllFitting layout next.scalar) :
    ∃ state', fieldStep read state tlv = .ok state' ∧ Filled layout assign state' next := by
  cases htype : Field.ofCode tlv.type with
  | none =>
    rw [collectStep_unknown htype] at hstep
    obtain rfl := Except.ok.inj hstep
    exact ⟨state, fieldStep_unknown htype, hfilled⟩
  | some field =>
    obtain ⟨hnone, rfl⟩ := (collectStep_scalar_iff htype List.not_mem_nil).mp hstep
    obtain ⟨-, hfit⟩ := (allFitting_update_iff hnone).mp hfitting
    refine ⟨_, (h.fieldStep_iff hfilled.value hfilled.marks htype).mpr ⟨hnone, hfit, rfl⟩, rfl,
      hfilled.marks.update field tlv.value, hfitting⟩

/-- The values collected before a round fit if those after it do. -/
lemma fitting_backward {repeated : List Field} {collected next : Collected} {tlv : Tlv}
    (hstep : collectStep repeated collected tlv = .ok next)
    (hfitting : AllFitting layout next.scalar) : AllFitting layout collected.scalar := by
  cases htype : Field.ofCode tlv.type with
  | none =>
    rw [collectStep_unknown htype] at hstep
    obtain rfl := Except.ok.inj hstep
    exact hfitting
  | some field =>
    by_cases hrepeated : field ∈ repeated
    · simp only [collectStep, htype, if_pos hrepeated, Except.ok.injEq] at hstep
      obtain rfl := hstep
      exact hfitting
    · obtain ⟨hnone, rfl⟩ := (collectStep_scalar_iff htype hrepeated).mp hstep
      exact ((allFitting_update_iff hnone).mp hfitting).1

/-- The state of a loop before it starts. -/
lemma filled_start (layout : Field → Option Shape) (assign : Scalars → α) :
    Filled layout assign ⟨0, assign fun _ => none⟩ {} :=
  ⟨rfl, marks_zero, fun _ _ h => absurd h (by simp)⟩

/-- A loop over scalar fields that ends well has read the values that `_collect` finds. -/
theorem Fills.scan_sound (h : Fills read layout assign) {payload : List UInt8}
    {final : Decoding α}
    (hscan : scan cursorNext (fieldStep read) payload ⟨0, assign fun _ => none⟩ = .ok final) :
    ∃ collected, collect payload [] = .ok collected ∧ Filled layout assign final collected := by
  obtain ⟨tlvs, hreadable, hbytes, hloop⟩ := (reads_cursorNext.scan_eq_ok_iff _).mp hscan
  obtain ⟨collected, hcollect, hfilled⟩ :=
    foldlM_matched (fun _ _ _ _ => h.step_sound) (filled_start layout assign) hloop
  exact ⟨collected, (reads_tlvNext.scan_eq_ok_iff _).mpr ⟨tlvs, fun tlv htlv =>
    readable_iff_legible.mp (hreadable tlv htlv), hbytes, hcollect⟩, hfilled⟩

/-- A loop over scalar fields ends well when `_collect` finds values that fit. -/
theorem Fills.scan_complete (h : Fills read layout assign) {payload : List UInt8}
    {collected : Collected} (hcollect : collect payload [] = .ok collected)
    (hfitting : AllFitting layout collected.scalar) :
    ∃ final, scan cursorNext (fieldStep read) payload ⟨0, assign fun _ => none⟩ = .ok final ∧
      Filled layout assign final collected := by
  obtain ⟨tlvs, hlegible, hbytes, hloop⟩ := (reads_tlvNext.scan_eq_ok_iff _).mp hcollect
  have hbackward (s : Collected) (tlv : Tlv) (s' : Collected) :
      collectStep [] s tlv = .ok s' → AllFitting layout s'.scalar → AllFitting layout s.scalar :=
    fitting_backward
  have hround (s : Collected) (t : Decoding α) (tlv : Tlv) (s' : Collected) :
      Filled layout assign t s → collectStep [] s tlv = .ok s' → AllFitting layout s'.scalar →
        ∃ t', fieldStep read t tlv = .ok t' ∧ Filled layout assign t' s' :=
    h.step_complete
  obtain ⟨final, hfinal, hfilled⟩ :=
    foldlM_matched_of hbackward hround (filled_start layout assign) hloop hfitting
  exact ⟨final, (reads_cursorNext.scan_eq_ok_iff _).mpr ⟨tlvs, fun tlv htlv =>
    readable_iff_legible.mpr (hlegible tlv htlv), hbytes, hfinal⟩, hfilled⟩

end Scalar

/-! ### Filling in a message with containers -/

/-- Readers of a message with a container of its own: `assign` is the message filled in with the
values and the items seen so far, and a container is decoded and appended while there is room. -/
structure FillsMessage {α β : Type} (container : Field) (append read : α → Tlv → Except Status α)
    (layout : Field → Option Shape) (element : List UInt8 → Except Status β)
    (assign : Scalars → List β → α) : Prop where
  reads : ∀ scalars items field flags bytes value, field ≠ container →
    (read (assign scalars items) ⟨field.code, flags, bytes⟩ = .ok value ↔
      Fitting layout field bytes ∧
        value = assign (Function.update scalars field (some bytes)) items)
  appends : ∀ scalars items tlv value, append (assign scalars items) tlv = .ok value ↔
    items.length < maxServices ∧ ∃ item, element tlv.value = .ok item ∧
      value = assign scalars (items ++ [item])

/-- Items that are decoded in turn, no more than there may be services. -/
structure Decodes {β : Type} (element : List UInt8 → Except Status β)
    (values : List (List UInt8)) (items : List β) : Prop where
  each : List.Forall₂ (fun bytes item => element bytes = .ok item) values items
  count : items.length ≤ maxServices

/-- What is decoded is determined by the values. -/
lemma Decodes.unique {β : Type} {element : List UInt8 → Except Status β}
    {values : List (List UInt8)} {items items' : List β} (h : Decodes element values items)
    (h' : Decodes element values items') : items = items' := by
  refine List.right_unique_forall₂' (fun bytes item item' hitem hitem' => ?_) h.each h'.each
  exact Except.ok.inj (hitem.symm.trans hitem')

/-- Every item is decoded from one of the values. -/
lemma Decodes.exists_value {β : Type} {element : List UInt8 → Except Status β}
    {values : List (List UInt8)} {items : List β} (h : Decodes element values items) {item : β}
    (hmem : item ∈ items) : ∃ bytes, element bytes = .ok item := by
  obtain ⟨heach, -⟩ := h
  induction heach with
  | nil => exact absurd hmem List.not_mem_nil
  | cons hfirst _ ih =>
    rcases List.mem_cons.mp hmem with rfl | hrest
    · exact ⟨_, hfirst⟩
    · exact ih hrest

/-- Every value is decoded. -/
lemma Decodes.exists_item {β : Type} {element : List UInt8 → Except Status β}
    {values : List (List UInt8)} {items : List β} (h : Decodes element values items)
    {bytes : List UInt8} (hmem : bytes ∈ values) : ∃ item, element bytes = .ok item := by
  obtain ⟨heach, -⟩ := h
  induction heach with
  | nil => exact absurd hmem List.not_mem_nil
  | cons hfirst _ ih =>
    rcases List.mem_cons.mp hmem with rfl | hrest
    · exact ⟨_, hfirst⟩
    · exact ih hrest

/-- The state of a loop over a message after the values of `collected`. -/
structure FilledMessage {α β : Type} (container : Field) (layout : Field → Option Shape)
    (element : List UInt8 → Except Status β) (assign : Scalars → List β → α)
    (state : Decoding α) (collected : Collected) (items : List β) : Prop where
  value : state.value = assign collected.scalar items
  marks : Marks state.fields collected.scalar
  fitting : AllFitting layout collected.scalar
  decodes : Decodes element (collected.groups container) items

section Message

variable {α β : Type} {container : Field} {append read : α → Tlv → Except Status α}
  {layout : Field → Option Shape} {element : List UInt8 → Except Status β}
  {assign : Scalars → List β → α}

lemma messageStep_unknown {state : Decoding α} {tlv : Tlv} (h : Field.ofCode tlv.type = none) :
    messageStep container append read state tlv = .ok state := by
  rw [messageStep, if_pos (by rw [knownTlv_eq_isSome, h]; simp)]

/-- A scalar field of a message is read like any scalar field. -/
lemma FillsMessage.messageStep_scalar_iff
    (h : FillsMessage container append read layout element assign) {state : Decoding α}
    {scalars : Scalars} {items : List β} (hvalue : state.value = assign scalars items)
    (hmarks : Marks state.fields scalars) {tlv : Tlv} {field : Field}
    (htype : Field.ofCode tlv.type = some field) (hne : field ≠ container)
    {next : Decoding α} :
    messageStep container append read state tlv = .ok next ↔
      scalars field = none ∧ Fitting layout field tlv.value ∧
        next = ⟨state.fields ||| 1 <<< field.code,
          assign (Function.update scalars field (some tlv.value)) items⟩ := by
  obtain ⟨type, flags, bytes⟩ := tlv
  obtain rfl : field.code = type := Field.code_of_ofCode htype
  rw [messageStep, if_neg (by simp), if_neg (by simpa using hne), fieldStep, if_neg (by simp),
    bind_eq_ok_iff]
  simp only [bind_eq_ok_iff, hmarks.markOnce_iff, hvalue, h.reads _ _ _ _ _ _ hne]
  constructor
  · rintro ⟨_, ⟨hnone, rfl⟩, _, ⟨hfit, rfl⟩, hnext⟩
    exact ⟨hnone, hfit, (Except.ok.inj hnext).symm⟩
  · rintro ⟨hnone, hfit, rfl⟩
    exact ⟨_, ⟨hnone, rfl⟩, _, ⟨hfit, rfl⟩, rfl⟩

/-- A container is decoded and appended while there is room. -/
lemma FillsMessage.messageStep_container_iff
    (h : FillsMessage container append read layout element assign) {state : Decoding α}
    {scalars : Scalars} {items : List β} (hvalue : state.value = assign scalars items) {tlv : Tlv}
    (htype : Field.ofCode tlv.type = some container) {next : Decoding α} :
    messageStep container append read state tlv = .ok next ↔
      items.length < maxServices ∧ ∃ item, element tlv.value = .ok item ∧
        next = ⟨state.fields, assign scalars (items ++ [item])⟩ := by
  have hcode : tlv.type = container.code := (Field.code_of_ofCode htype).symm
  rw [messageStep, if_neg (by simp [hcode]), if_pos hcode, bind_eq_ok_iff]
  simp only [hvalue, h.appends]
  constructor
  · rintro ⟨_, ⟨hroom, item, hitem, rfl⟩, hnext⟩
    exact ⟨hroom, item, hitem, (Except.ok.inj hnext).symm⟩
  · rintro ⟨hroom, item, hitem, rfl⟩
    exact ⟨_, ⟨hroom, item, hitem, rfl⟩, rfl⟩

/-- A container is collected behind those before it. -/
lemma collectStep_container {collected : Collected} {tlv : Tlv}
    (htype : Field.ofCode tlv.type = some container) :
    collectStep [container] collected tlv = .ok { collected with
      groups := Function.update collected.groups container
        (collected.groups container ++ [tlv.value]) } := by
  simp only [collectStep, htype, if_pos List.mem_cons_self]

/-- One round of a loop over a message is matched by one of `_collect`. -/
lemma FillsMessage.step_sound (h : FillsMessage container append read layout element assign)
    {state next : Decoding α} {collected : Collected} {tlv : Tlv}
    (hfilled : ∃ items, FilledMessage container layout element assign state collected items)
    (hstep : messageStep container append read state tlv = .ok next) :
    ∃ collected', collectStep [container] collected tlv = .ok collected' ∧
      ∃ items, FilledMessage container layout element assign next collected' items := by
  obtain ⟨items, hfilled⟩ := hfilled
  cases htype : Field.ofCode tlv.type with
  | none =>
    rw [messageStep_unknown htype] at hstep
    obtain rfl := Except.ok.inj hstep
    exact ⟨collected, collectStep_unknown htype, items, hfilled⟩
  | some field =>
    rcases eq_or_ne field container with rfl | hne
    · obtain ⟨hroom, item, hitem, rfl⟩ :=
        (h.messageStep_container_iff hfilled.value htype).mp hstep
      refine ⟨_, collectStep_container htype, items ++ [item], rfl, hfilled.marks,
        hfilled.fitting, ?_, ?_⟩
      · simp only [Function.update_self]
        exact List.rel_append hfilled.decodes.each (.cons hitem .nil)
      · rw [List.length_append, List.length_singleton]
        exact hroom
    · obtain ⟨hnone, hfit, rfl⟩ :=
        (h.messageStep_scalar_iff hfilled.value hfilled.marks htype hne).mp hstep
      exact ⟨_, (collectStep_scalar_iff htype (by simpa using hne)).mpr ⟨hnone, rfl⟩, items, rfl,
        hfilled.marks.update field tlv.value,
        (allFitting_update_iff hnone).mpr ⟨hfilled.fitting, hfit⟩, hfilled.decodes⟩

/-- The contents of a message that can be read. -/
def CanFill (container : Field) (layout : Field → Option Shape)
    (element : List UInt8 → Except Status β) (collected : Collected) : Prop :=
  AllFitting layout collected.scalar ∧ ∃ items, Decodes element (collected.groups container) items

/-- What was collected before a round can be read if what is collected after it can. -/
lemma canFill_backward {collected next : Collected} {tlv : Tlv}
    (hstep : collectStep [container] collected tlv = .ok next)
    (hgood : CanFill container layout element next) :
    CanFill container layout element collected := by
  obtain ⟨hfitting, items, hdecodes⟩ := hgood
  refine ⟨fitting_backward hstep hfitting, ?_⟩
  cases htype : Field.ofCode tlv.type with
  | none =>
    rw [collectStep_unknown htype] at hstep
    obtain rfl := Except.ok.inj hstep
    exact ⟨items, hdecodes⟩
  | some field =>
    rcases eq_or_ne field container with rfl | hne
    · rw [collectStep_container htype] at hstep
      obtain rfl := Except.ok.inj hstep
      obtain ⟨heach, hcount⟩ := hdecodes
      simp only [Function.update_self] at heach
      have hlength := heach.length_eq
      refine ⟨items.take (collected.groups field).length, ?_, ?_⟩
      · have := List.forall₂_take (collected.groups field).length heach
        rwa [List.take_left' rfl] at this
      · rw [List.length_take]
        omega
    · obtain ⟨-, rfl⟩ := (collectStep_scalar_iff htype (by simpa using hne)).mp hstep
      exact ⟨items, hdecodes⟩

/-- One round of `_collect` is matched by one of the loop when what was collected can be read. -/
lemma FillsMessage.step_complete (h : FillsMessage container append read layout element assign)
    {state : Decoding α} {collected next : Collected} {tlv : Tlv}
    (hfilled : ∃ items, FilledMessage container layout element assign state collected items)
    (hstep : collectStep [container] collected tlv = .ok next)
    (hgood : CanFill container layout element next) :
    ∃ state', messageStep container append read state tlv = .ok state' ∧
      ∃ items, FilledMessage container layout element assign state' next items := by
  obtain ⟨items, hfilled⟩ := hfilled
  obtain ⟨hfitting, all, hdecodes⟩ := hgood
  cases htype : Field.ofCode tlv.type with
  | none =>
    rw [collectStep_unknown htype] at hstep
    obtain rfl := Except.ok.inj hstep
    exact ⟨state, messageStep_unknown htype, items, hfilled⟩
  | some field =>
    rcases eq_or_ne field container with rfl | hne
    · rw [collectStep_container htype] at hstep
      obtain rfl := Except.ok.inj hstep
      obtain ⟨heach, hcount⟩ := hdecodes
      simp only [Function.update_self] at heach
      have hlength := heach.length_eq
      have hbefore := hfilled.decodes.each.length_eq
      rw [List.length_append, List.length_singleton] at hlength
      -- the last item is the one of this round
      obtain ⟨item, hitem⟩ : ∃ item, element tlv.value = .ok item := by
        have hlast := List.forall₂_drop (collected.groups field).length heach
        rw [List.drop_left' rfl] at hlast
        obtain ⟨item, -, hitem, -, -⟩ := List.forall₂_cons_left_iff.mp hlast
        exact ⟨item, hitem⟩
      have hroom : items.length < maxServices := by omega
      refine ⟨_, (h.messageStep_container_iff hfilled.value htype).mpr
        ⟨hroom, item, hitem, rfl⟩, items ++ [item], rfl, hfilled.marks, hfilled.fitting, ?_, ?_⟩
      · simp only [Function.update_self]
        exact List.rel_append hfilled.decodes.each (.cons hitem .nil)
      · rw [List.length_append, List.length_singleton]
        exact hroom
    · obtain ⟨hnone, rfl⟩ := (collectStep_scalar_iff htype (by simpa using hne)).mp hstep
      obtain ⟨-, hfit⟩ := (allFitting_update_iff hnone).mp hfitting
      exact ⟨_, (h.messageStep_scalar_iff hfilled.value hfilled.marks htype hne).mpr
        ⟨hnone, hfit, rfl⟩, items, rfl, hfilled.marks.update field tlv.value, hfitting,
        hfilled.decodes⟩

/-- The state of a loop over a message before it starts. -/
lemma filledMessage_start (container : Field) (layout : Field → Option Shape)
    (element : List UInt8 → Except Status β) (assign : Scalars → List β → α) :
    ∃ items, FilledMessage container layout element assign ⟨0, assign (fun _ => none) []⟩ {}
      items :=
  ⟨[], rfl, marks_zero, fun _ _ h => absurd h (by simp), .nil, Nat.zero_le _⟩

/-- A loop over a message that ends well has read the values that `_collect` finds. -/
theorem FillsMessage.scan_sound (h : FillsMessage container append read layout element assign)
    {payload : List UInt8} {final : Decoding α}
    (hscan : scan cursorNext (messageStep container append read) payload
      ⟨0, assign (fun _ => none) []⟩ = .ok final) :
    ∃ collected items, collect payload [container] = .ok collected ∧
      FilledMessage container layout element assign final collected items := by
  obtain ⟨tlvs, hreadable, hbytes, hloop⟩ := (reads_cursorNext.scan_eq_ok_iff _).mp hscan
  have hround (s : Decoding α) (t : Collected) (tlv : Tlv) (s' : Decoding α) :
      (∃ items, FilledMessage container layout element assign s t items) →
        messageStep container append read s tlv = .ok s' →
          ∃ t', collectStep [container] t tlv = .ok t' ∧
            ∃ items, FilledMessage container layout element assign s' t' items := h.step_sound
  obtain ⟨collected, hcollect, items, hfilled⟩ :=
    foldlM_matched hround (filledMessage_start container layout element assign) hloop
  exact ⟨collected, items, (reads_tlvNext.scan_eq_ok_iff _).mpr ⟨tlvs, fun tlv htlv =>
    readable_iff_legible.mp (hreadable tlv htlv), hbytes, hcollect⟩, hfilled⟩

/-- A loop over a message ends well when `_collect` finds values and containers that can be
read. -/
theorem FillsMessage.scan_complete (h : FillsMessage container append read layout element assign)
    {payload : List UInt8} {collected : Collected} {items : List β}
    (hcollect : collect payload [container] = .ok collected)
    (hfitting : AllFitting layout collected.scalar)
    (hitems : Decodes element (collected.groups container) items) :
    ∃ final, scan cursorNext (messageStep container append read) payload
        ⟨0, assign (fun _ => none) []⟩ = .ok final ∧
      FilledMessage container layout element assign final collected items := by
  obtain ⟨tlvs, hlegible, hbytes, hloop⟩ := (reads_tlvNext.scan_eq_ok_iff _).mp hcollect
  have hbackward (s : Collected) (tlv : Tlv) (s' : Collected) :
      collectStep [container] s tlv = .ok s' → CanFill container layout element s' →
        CanFill container layout element s := canFill_backward
  have hround (s : Collected) (t : Decoding α) (tlv : Tlv) (s' : Collected) :
      (∃ items, FilledMessage container layout element assign t s items) →
        collectStep [container] s tlv = .ok s' → CanFill container layout element s' →
          ∃ t', messageStep container append read t tlv = .ok t' ∧
            ∃ items, FilledMessage container layout element assign t' s' items := h.step_complete
  obtain ⟨final, hfinal, items', hfilled⟩ := foldlM_matched_of hbackward hround
    (filledMessage_start container layout element assign) hloop ⟨hfitting, items, hitems⟩
  obtain rfl := hfilled.decodes.unique hitems
  exact ⟨final, (reads_cursorNext.scan_eq_ok_iff _).mpr ⟨tlvs, fun tlv htlv =>
    readable_iff_legible.mpr (hlegible tlv htlv), hbytes, hfinal⟩, hfilled⟩

end Message

/-! ### Checks after a loop -/

/-- A loop over scalar fields and the checks behind it, which look at the fields that were seen and
at the message: the checks are made on what `_collect` finds. -/
theorem Fills.run_iff {α γ : Type} {read : α → Tlv → Except Status α}
    {layout : Field → Option Shape} {assign : Scalars → α} (h : Fills read layout assign)
    (check : (Field → Bool) → α → Except Status γ) {payload : List UInt8} {result : γ} :
    (do
      let state ← scan cursorNext (fieldStep read) payload ⟨0, assign fun _ => none⟩
      check (fieldPresent state.fields) state.value) = .ok result ↔
      ∃ collected, collect payload [] = .ok collected ∧ AllFitting layout collected.scalar ∧
        check (fun field => (collected.scalar field).isSome) (assign collected.scalar) =
          .ok result := by
  constructor
  · intro hrun
    obtain ⟨state, hscan, hcheck⟩ := bind_eq_ok_iff.mp hrun
    obtain ⟨collected, hcollect, hvalue, hmarks, hfitting⟩ := h.scan_sound hscan
    rw [hvalue, funext hmarks] at hcheck
    exact ⟨collected, hcollect, hfitting, hcheck⟩
  · rintro ⟨collected, hcollect, hfitting, hcheck⟩
    obtain ⟨state, hscan, hvalue, hmarks, -⟩ := h.scan_complete hcollect hfitting
    refine bind_eq_ok_iff.mpr ⟨state, hscan, ?_⟩
    rw [hvalue, funext hmarks]
    exact hcheck

/-- A loop over a message with containers and the checks behind it. -/
theorem FillsMessage.run_iff {α β γ : Type} {container : Field}
    {append read : α → Tlv → Except Status α} {layout : Field → Option Shape}
    {element : List UInt8 → Except Status β} {assign : Scalars → List β → α}
    (h : FillsMessage container append read layout element assign)
    (check : (Field → Bool) → α → Except Status γ) {payload : List UInt8} {result : γ} :
    (do
      let state ← scan cursorNext (messageStep container append read) payload
        ⟨0, assign (fun _ => none) []⟩
      check (fieldPresent state.fields) state.value) = .ok result ↔
      ∃ collected items, collect payload [container] = .ok collected ∧
        AllFitting layout collected.scalar ∧
        Decodes element (collected.groups container) items ∧
        check (fun field => (collected.scalar field).isSome) (assign collected.scalar items) =
          .ok result := by
  constructor
  · intro hrun
    obtain ⟨state, hscan, hcheck⟩ := bind_eq_ok_iff.mp hrun
    obtain ⟨collected, items, hcollect, hvalue, hmarks, hfitting, hitems⟩ := h.scan_sound hscan
    rw [hvalue, funext hmarks] at hcheck
    exact ⟨collected, items, hcollect, hfitting, hitems, hcheck⟩
  · rintro ⟨collected, items, hcollect, hfitting, hitems, hcheck⟩
    obtain ⟨state, hscan, hvalue, hmarks, -, -⟩ := h.scan_complete hcollect hfitting hitems
    refine bind_eq_ok_iff.mpr ⟨state, hscan, ?_⟩
    rw [hvalue, funext hmarks]
    exact hcheck

/-! ### Values -/

/-- The number a field stands for, zero if it is absent. -/
def number (value : Option (List UInt8)) : ℕ := (value.map ofBigEndian).getD 0

/-- The text of a field, empty if it is absent. -/
def chars (value : Option (List UInt8)) : List UInt8 := value.getD []

/-- The value of a field that is there if `has` says so. -/
def present (has : Bool) (value : List UInt8) : Option (List UInt8) :=
  if has then some value else none

@[simp] lemma present_true (value : List UInt8) : present true value = some value := rfl

@[simp] lemma present_false (value : List UInt8) : present false value = none := rfl

@[simp] lemma isSome_present (has : Bool) (value : List UInt8) :
    (present has value).isSome = has := by
  cases has <;> rfl

lemma present_eq_some_iff {has : Bool} {value bytes : List UInt8} :
    present has value = some bytes ↔ has = true ∧ value = bytes := by
  cases has <;> simp

@[simp] lemma number_none : number none = 0 := rfl

@[simp] lemma chars_none : chars none = [] := rfl

@[simp] lemma number_some (value : List UInt8) : number (some value) = ofBigEndian value := rfl

@[simp] lemma chars_some (value : List UInt8) : chars (some value) = value := rfl

lemma number_u64 {value : ℕ} (h : value < 2 ^ 64) : ofBigEndian (bigEndian 8 value) = value :=
  ofBigEndian_bigEndian (by omega)

lemma number_u32 {value : ℕ} (h : value < 2 ^ 32) : ofBigEndian (bigEndian 4 value) = value :=
  ofBigEndian_bigEndian (by omega)

/-- A value that is there if `has` says so, and `absent` otherwise. -/
def kept {α : Type} (absent : α) (has : Bool) (value : α) : α := if has then value else absent

@[simp] lemma kept_true {α : Type} (absent value : α) : kept absent true value = value := rfl

@[simp] lemma kept_false {α : Type} (absent value : α) : kept absent false value = absent := rfl

/-- Keeping a value twice is keeping it once. -/
@[simp] lemma kept_kept {α : Type} (absent : α) (has : Bool) (value : α) :
    kept absent has (kept absent has value) = kept absent has value := by
  cases has <;> rfl

/-- An absent field stands for zero. -/
lemma kept_number (value : Option (List UInt8)) : kept 0 value.isSome (number value) = number value := by
  cases value <;> rfl

/-- An absent field stands for the empty text. -/
lemma kept_chars (value : Option (List UInt8)) : kept [] value.isSome (chars value) = chars value := by
  cases value <;> rfl

/-- The number of a field that may be absent. -/
lemma number_present_u64 {has : Bool} {value : ℕ} (h : has = true → value < 2 ^ 64) :
    number (present has (bigEndian 8 value)) = kept 0 has value := by
  cases has with
  | true => rw [present_true, number_some, number_u64 (h rfl), kept_true]
  | false => rfl

/-- The number of a field that may be absent. -/
lemma number_present_u32 {has : Bool} {value : ℕ} (h : has = true → value < 2 ^ 32) :
    number (present has (bigEndian 4 value)) = kept 0 has value := by
  cases has with
  | true => rw [present_true, number_some, number_u32 (h rfl), kept_true]
  | false => rfl

/-- The text of a field that may be absent. -/
lemma chars_present (has : Bool) (value : List UInt8) :
    chars (present has value) = kept [] has value := by
  cases has <;> rfl

section Fitting

variable {layout : Field → Option Shape} {scalars : Scalars} {field : Field}

/-- A field that the message has no room for is absent. -/
lemma AllFitting.absent (h : AllFitting layout scalars) (hfield : layout field = none) :
    scalars field = none := by
  by_contra hne
  obtain ⟨value, hvalue⟩ := Option.ne_none_iff_exists'.mp hne
  obtain ⟨shape, hshape, -⟩ := h field value hvalue
  rw [hfield] at hshape
  exact absurd hshape (by simp)

lemma AllFitting.shape (h : AllFitting layout scalars) {shape : Shape}
    (hfield : layout field = some shape) {value : List UInt8} (hvalue : scalars field = some value) :
    shape.Reads value := by
  obtain ⟨shape', hshape, hreads⟩ := h field value hvalue
  rw [hfield] at hshape
  exact Option.some.inj hshape ▸ hreads

/-- A field of eight bytes is determined by its number. -/
lemma AllFitting.u64 (h : AllFitting layout scalars) (hfield : layout field = some .u64) :
    number (scalars field) < 2 ^ 64 ∧
      scalars field = present (scalars field).isSome (bigEndian 8 (number (scalars field))) := by
  cases hvalue : scalars field with
  | none => simp
  | some value =>
    have hlength : value.length = 8 := h.shape hfield hvalue
    have hlt := ofBigEndian_lt value
    have hbytes := bigEndian_ofBigEndian value
    rw [hlength] at hlt hbytes
    simp only [number_some, Option.isSome_some, present_true, hbytes, and_true]
    omega

/-- A field of four bytes is determined by its number. -/
lemma AllFitting.u32 (h : AllFitting layout scalars) (hfield : layout field = some .u32) :
    number (scalars field) < 2 ^ 32 ∧
      scalars field = present (scalars field).isSome (bigEndian 4 (number (scalars field))) := by
  cases hvalue : scalars field with
  | none => simp
  | some value =>
    have hlength : value.length = 4 := h.shape hfield hvalue
    have hlt := ofBigEndian_lt value
    have hbytes := bigEndian_ofBigEndian value
    rw [hlength] at hlt hbytes
    simp only [number_some, Option.isSome_some, present_true, hbytes, and_true]
    omega

/-- A text field is determined by its text. -/
lemma AllFitting.text (h : AllFitting layout scalars) {maximum : ℕ}
    (hfield : layout field = some (.text maximum)) :
    ((scalars field).isSome → CharsFit (chars (scalars field)) maximum) ∧
      scalars field = present (scalars field).isSome (chars (scalars field)) := by
  cases hvalue : scalars field with
  | none => simp
  | some value =>
    have hfits : CharsFit value maximum := h.shape hfield hvalue
    simp [hfits]

lemma AllFitting.u64_of_present (h : AllFitting layout scalars) (hfield : layout field = some .u64)
    (hpresent : (scalars field).isSome) : number (scalars field) < 2 ^ 64 ∧
      scalars field = some (bigEndian 8 (number (scalars field))) := by
  obtain ⟨hlt, heq⟩ := h.u64 hfield
  rw [hpresent] at heq
  exact ⟨hlt, heq⟩

lemma AllFitting.u32_of_present (h : AllFitting layout scalars) (hfield : layout field = some .u32)
    (hpresent : (scalars field).isSome) : number (scalars field) < 2 ^ 32 ∧
      scalars field = some (bigEndian 4 (number (scalars field))) := by
  obtain ⟨hlt, heq⟩ := h.u32 hfield
  rw [hpresent] at heq
  exact ⟨hlt, heq⟩

lemma AllFitting.text_of_present (h : AllFitting layout scalars) {maximum : ℕ}
    (hfield : layout field = some (.text maximum)) (hpresent : (scalars field).isSome) :
    CharsFit (chars (scalars field)) maximum ∧
      scalars field = some (chars (scalars field)) := by
  obtain ⟨hfits, heq⟩ := h.text hfield
  rw [hpresent] at heq
  exact ⟨hfits hpresent, heq⟩

lemma fitting_u64 (hfield : layout field = some .u64) (value : ℕ) :
    Fitting layout field (bigEndian 8 value) :=
  ⟨.u64, hfield, length_bigEndian 8 value⟩

lemma fitting_u32 (hfield : layout field = some .u32) (value : ℕ) :
    Fitting layout field (bigEndian 4 value) :=
  ⟨.u32, hfield, length_bigEndian 4 value⟩

lemma fitting_text {maximum : ℕ} (hfield : layout field = some (.text maximum))
    {value : List UInt8} (h : CharsFit value maximum) : Fitting layout field value :=
  ⟨.text maximum, hfield, h⟩

end Fitting

/-! ### The header -/

/-- The header the native decoders return for a frame. -/
def QsgpHeader.read (messageType : MessageType) (correlationId : ℕ) (payload : List UInt8) :
    QsgpHeader :=
  ⟨versionMajor, versionMinor, messageType.code, 0, correlationId, payload.length⟩

/-- A native decoder starts with the header of a well formed frame of the expected type. -/
theorem decodeStart_eq_ok_iff {data payload : List UInt8} {messageType : MessageType}
    {header : QsgpHeader} :
    decodeStart data messageType = .ok (header, payload) ↔
      ∃ correlationId, Framed messageType correlationId payload data ∧
        header = QsgpHeader.read messageType correlationId payload := by
  constructor
  · intro h
    obtain ⟨read, hread, h⟩ := bind_eq_ok_iff.mp h
    by_cases htype : read.messageType ≠ messageType.code
    · rw [if_pos htype] at h
      exact (nomatch h)
    rw [if_neg htype] at h
    obtain ⟨rfl, rfl⟩ := Prod.mk.inj (Except.ok.inj h)
    rw [not_not] at htype
    simp only [qsgpDecodeHeader] at hread
    split_ifs at hread with hsize hmagic hversion hfields hpayload
    obtain rfl := Except.ok.inj hread
    push Not at hsize hmagic hversion hfields hpayload
    simp only at htype
    have hparts : HeaderParts messageType.code (ofBigEndian (slice 16 8 data))
        (data.length - headerSize) data :=
      ⟨hmagic, hversion.1, by have := hversion.2; rw [versionMinor] at *; omega, htype, hfields.1,
        hfields.2.1, rfl, hpayload, hfields.2.2.2⟩
    have hframed := hparts.framed hsize hfields.2.2.1
    refine ⟨_, hframed, ?_⟩
    simp only [QsgpHeader.read, hversion.1, hparts.minor, htype, hfields.1, hpayload,
      List.length_drop]
  · rintro ⟨correlationId, hframed, rfl⟩
    rw [hframed.bytes]
    exact decodeStart_frameBytes messageType hframed.correlation hframed.size

/-- A decoder of messages with scalar fields only: the header, the loop, and the checks behind it. -/
theorem Fills.decode_iff {α γ : Type} {read : α → Tlv → Except Status α}
    {layout : Field → Option Shape} {assign : Scalars → α} (h : Fills read layout assign)
    (check : QsgpHeader → (Field → Bool) → α → Except Status γ) {data : List UInt8}
    {messageType : MessageType} {result : γ} :
    (do
      let (header, payload) ← decodeStart data messageType
      let state ← scan cursorNext (fieldStep read) payload ⟨0, assign fun _ => none⟩
      check header (fieldPresent state.fields) state.value) = .ok result ↔
      ∃ correlationId payload collected, Framed messageType correlationId payload data ∧
        collect payload [] = .ok collected ∧ AllFitting layout collected.scalar ∧
        check (.read messageType correlationId payload)
          (fun field => (collected.scalar field).isSome) (assign collected.scalar) =
            .ok result := by
  constructor
  · intro hdecode
    obtain ⟨⟨header, payload⟩, hstart, hrun⟩ := bind_eq_ok_iff.mp hdecode
    obtain ⟨correlationId, hframed, rfl⟩ := decodeStart_eq_ok_iff.mp hstart
    obtain ⟨collected, hcollect, hfitting, hcheck⟩ := (h.run_iff (check _)).mp hrun
    exact ⟨correlationId, payload, collected, hframed, hcollect, hfitting, hcheck⟩
  · rintro ⟨correlationId, payload, collected, hframed, hcollect, hfitting, hcheck⟩
    have hstart := decodeStart_eq_ok_iff.mpr ⟨correlationId, hframed, rfl⟩
    refine bind_eq_ok_iff.mpr ⟨_, hstart, ?_⟩
    exact (h.run_iff (check _)).mpr ⟨collected, hcollect, hfitting, hcheck⟩

/-- A decoder of messages with containers. -/
theorem FillsMessage.decode_iff {α β γ : Type} {container : Field}
    {append read : α → Tlv → Except Status α} {layout : Field → Option Shape}
    {element : List UInt8 → Except Status β} {assign : Scalars → List β → α}
    (h : FillsMessage container append read layout element assign)
    (check : QsgpHeader → (Field → Bool) → α → Except Status γ) {data : List UInt8}
    {messageType : MessageType} {result : γ} :
    (do
      let (header, payload) ← decodeStart data messageType
      let state ← scan cursorNext (messageStep container append read) payload
        ⟨0, assign (fun _ => none) []⟩
      check header (fieldPresent state.fields) state.value) = .ok result ↔
      ∃ correlationId payload collected items,
        Framed messageType correlationId payload data ∧
        collect payload [container] = .ok collected ∧ AllFitting layout collected.scalar ∧
        Decodes element (collected.groups container) items ∧
        check (.read messageType correlationId payload)
          (fun field => (collected.scalar field).isSome) (assign collected.scalar items) =
            .ok result := by
  constructor
  · intro hdecode
    obtain ⟨⟨header, payload⟩, hstart, hrun⟩ := bind_eq_ok_iff.mp hdecode
    obtain ⟨correlationId, hframed, rfl⟩ := decodeStart_eq_ok_iff.mp hstart
    obtain ⟨collected, items, hcollect, hfitting, hitems, hcheck⟩ :=
      (h.run_iff (check _)).mp hrun
    exact ⟨correlationId, payload, collected, items, hframed, hcollect, hfitting, hitems, hcheck⟩
  · rintro ⟨correlationId, payload, collected, items, hframed, hcollect, hfitting, hitems, hcheck⟩
    have hstart := decodeStart_eq_ok_iff.mpr ⟨correlationId, hframed, rfl⟩
    refine bind_eq_ok_iff.mpr ⟨_, hstart, ?_⟩
    exact (h.run_iff (check _)).mpr ⟨collected, items, hcollect, hfitting, hitems, hcheck⟩

end QfwSlurm.Native
