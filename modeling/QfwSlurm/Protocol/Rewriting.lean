import QfwSlurm.Protocol.Requests

/-!
# Rewriting a frame in the ways a later version may

A later version of the protocol may put optional fields of unknown types anywhere and write the
fields of a message in another order.  `Rewritten` relates a frame to what becomes of it: its fields
are permuted, the repeated containers staying in order, and unknown optional fields are inserted
between them and inside the containers.

Such a change does not show in what is collected from a payload (`Modified.collect`): the scalar
fields have the same values, and the containers, in order, have the same contents.
-/

namespace QfwSlurm

open Wire

/-! ### Legible fields -/

instance (tlv : Tlv) : Decidable (Legible tlv) :=
  decidable_of_iff ((tlv.type < 256 ^ 2 ∧ tlv.flags < 256 ^ 2 ∧ tlv.value.length < 256 ^ 4) ∧
    (tlv.flags = 0 ∨ tlv.flags = tlvRequired ∧ (Field.ofCode tlv.type).isSome = true))
    ⟨fun ⟨⟨h₁, h₂, h₃⟩, h₄⟩ => ⟨⟨h₁, h₂, h₃⟩, h₄⟩,
      fun h => ⟨⟨h.fits.type, h.fits.flags, h.fits.length⟩, h.flags⟩⟩

/-- A byte string that encodes legible fields. -/
def Encodes (bytes : List UInt8) (tlvs : List Tlv) : Prop :=
  (∀ tlv ∈ tlvs, Legible tlv) ∧ encodeAll tlvs = bytes

/-- A byte string encodes legible fields in at most one way. -/
lemma Encodes.unique {bytes : List UInt8} {tlvs tlvs' : List Tlv} (h : Encodes bytes tlvs)
    (h' : Encodes bytes tlvs') : tlvs = tlvs' := by
  have hread {fields : List Tlv} (hfields : Encodes bytes fields) :
      scan tlvNext (fun read tlv => .ok (read ++ [tlv])) bytes [] = .ok fields := by
    have hfold (rest read : List Tlv) : rest.foldlM (fun read tlv => (.ok (read ++ [tlv]) :
        Except PyError (List Tlv))) read = .ok (read ++ rest) := by
      induction rest generalizing read with
      | nil => simp [pure, Except.pure]
      | cons tlv rest ih =>
        rw [List.foldlM_cons]
        exact (ih (read ++ [tlv])).trans (by simp)
    rw [← hfields.2, scan_encodeAll _ reads_tlvNext.toAccepts fields hfields.1, hfold]
    rfl
  exact Except.ok.inj ((hread h).symm.trans (hread h'))

/-- The fields whose values are fields in turn. -/
def containerFields : List Field := [.serviceRequest, .serviceResult, .releaseResult, .reservation]

/-- A type whose values are fields in turn. -/
def IsContainer (type : ℕ) : Prop := ∃ container ∈ containerFields, container.code = type

/-- An optional field of a type that is not known. -/
structure Unknown (tlv : Tlv) : Prop where
  fits : tlv.Fits
  optional : tlv.flags = 0
  unknown : Field.ofCode tlv.type = none

lemma Unknown.legible {tlv : Tlv} (h : Unknown tlv) : Legible tlv := ⟨h.fits, .inl h.optional⟩

lemma Unknown.type_ne {tlv : Tlv} (h : Unknown tlv) (field : Field) : tlv.type ≠ field.code := by
  intro htype
  have hunknown := h.unknown
  rw [htype, Field.ofCode_code] at hunknown
  exact (nomatch hunknown)

/-- Unknown optional fields are inserted, also in containers. -/
abbrev ExtendedFields : List Tlv → List Tlv → Prop := Extended Unknown Legible IsContainer

lemma ExtendedFields.legible {tlvs tlvs' : List Tlv} (h : ExtendedFields tlvs tlvs')
    (hlegible : ∀ tlv ∈ tlvs, Legible tlv) (hlength : (encodeAll tlvs').length < 256 ^ 4) :
    ∀ tlv ∈ tlvs', Legible tlv := by
  refine h.forall_good (fun _ hunknown => hunknown.legible) (fun tlv value htlv hvalue => ?_)
    hlegible hlength
  exact ⟨⟨htlv.fits.type, htlv.fits.flags, hvalue⟩, htlv.flags⟩

/-! ### What is collected -/

/-- Payloads from which the same scalar fields are collected, none of them containers. -/
def SameScalars (payload payload' : List UInt8) : Prop :=
  ∀ scalars : Scalars, (∀ container ∈ containerFields, scalars container = none) →
    ((∃ collected, collect payload [] = .ok collected ∧ collected.scalar = scalars) ↔
      ∃ collected, collect payload' [] = .ok collected ∧ collected.scalar = scalars)

lemma SameScalars.refl (payload : List UInt8) : SameScalars payload payload := fun _ _ => Iff.rfl

lemma SameScalars.symm {payload payload' : List UInt8} (h : SameScalars payload payload') :
    SameScalars payload' payload := fun scalars hscalars => (h scalars hscalars).symm

/-- Fields that say the same: the scalar fields have the same values up to their order, and so have,
in order, the `repeated` containers. -/
structure SameContents (repeated : List Field) (tlvs tlvs' : List Tlv) : Prop where
  scalar : ∀ field ∉ containerFields,
    (occurrences tlvs field.code).Perm (occurrences tlvs' field.code)
  count : ∀ container ∈ containerFields,
    (occurrences tlvs container.code).length = (occurrences tlvs' container.code).length
  groups : ∀ container ∈ repeated,
    List.Forall₂ SameScalars (occurrences tlvs container.code)
      (occurrences tlvs' container.code)

lemma SameContents.symm {repeated : List Field} {tlvs tlvs' : List Tlv}
    (h : SameContents repeated tlvs tlvs') : SameContents repeated tlvs' tlvs where
  scalar field hfield := (h.scalar field hfield).symm
  count container hcontainer := (h.count container hcontainer).symm
  groups container hcontainer :=
    ((h.groups container hcontainer).imp fun _ _ hsame => hsame.symm).flip

/-- Fields with the same values of which there is at most one have the same value. -/
lemma head?_eq_of_perm {values values' : List (List UInt8)} (h : values.Perm values')
    (hcount : values.length ≤ 1) : values.head? = values'.head? := by
  rcases values with _ | ⟨value, _ | ⟨second, rest⟩⟩
  · rw [List.nil_perm.mp h]
  · rw [List.singleton_perm.mp h]
  · exact absurd hcount (by simp)

/-- From fields that say the same, the same is collected. -/
lemma SameContents.collect {repeated : List Field} {payload payload' : List UInt8}
    {tlvs tlvs' : List Tlv} (h : SameContents repeated tlvs tlvs') (hencodes : Encodes payload tlvs)
    (hencodes' : Encodes payload' tlvs')
    {collected : Collected} (hcollect : QfwSlurm.collect payload repeated = .ok collected)
    (hnone : ∀ container ∈ containerFields, collected.scalar container = none) :
    ∃ collected', QfwSlurm.collect payload' repeated = .ok collected' ∧
      collected'.scalar = collected.scalar ∧ ∀ container ∈ repeated,
        List.Forall₂ SameScalars (collected.groups container) (collected'.groups container) := by
  obtain ⟨found, hlegible, hpayload, hcount, rfl⟩ := collect_eq_ok_iff.mp hcollect
  obtain rfl := hencodes.unique ⟨hlegible, hpayload⟩
  have hcount' : ∀ field ∉ repeated, (occurrences tlvs' field.code).length ≤ 1 := by
    intro field hfield
    by_cases hcontainer : field ∈ containerFields
    · rw [← h.count field hcontainer]
      exact hcount field hfield
    · rw [← (h.scalar field hcontainer).length_eq]
      exact hcount field hfield
  refine ⟨_, collect_eq_ok_iff.mpr ⟨tlvs', hencodes'.1, hencodes'.2, hcount', rfl⟩,
    funext fun field => ?_, fun container hcontainer => ?_⟩
  · by_cases hmem : field ∈ repeated
    · simp [gathered, hmem]
    simp only [gathered, if_neg hmem]
    by_cases hcontainer : field ∈ containerFields
    · have hempty := hnone field hcontainer
      simp only [gathered, if_neg hmem, List.head?_eq_none_iff] at hempty
      have hempty' := h.count field hcontainer
      rw [hempty, List.length_nil, eq_comm, List.length_eq_zero_iff] at hempty'
      rw [hempty, hempty']
    · exact (head?_eq_of_perm (h.scalar field hcontainer) (hcount field hmem)).symm
  · simpa only [gathered, if_pos hcontainer] using h.groups container hcontainer

/-- Byte strings that encode fields that say the same have the same scalar fields. -/
lemma SameContents.sameScalars {payload payload' : List UInt8} {tlvs tlvs' : List Tlv}
    (h : SameContents [] tlvs tlvs') (hencodes : Encodes payload tlvs)
    (hencodes' : Encodes payload' tlvs') : SameScalars payload payload' := by
  intro scalars hnone
  constructor
  · rintro ⟨collected, hcollect, rfl⟩
    obtain ⟨collected', hcollect', hscalar, -⟩ :=
      h.collect hencodes hencodes' hcollect hnone
    exact ⟨collected', hcollect', hscalar⟩
  · rintro ⟨collected, hcollect, rfl⟩
    obtain ⟨collected', hcollect', hscalar, -⟩ :=
      h.symm.collect hencodes' hencodes hcollect hnone
    exact ⟨collected', hcollect', hscalar⟩

/-! ### Rewritten payloads -/

lemma not_isContainer_of_notMem {field : Field} (h : field ∉ containerFields) :
    ¬ IsContainer field.code := by
  rintro ⟨container, hcontainer, hcode⟩
  exact h (Field.code_injective hcode ▸ hcontainer)

/-- Inserting unknown fields leaves the scalar fields as they are. -/
lemma ExtendedFields.sameContents {tlvs tlvs' : List Tlv} (h : ExtendedFields tlvs tlvs') :
    SameContents [] tlvs tlvs' where
  scalar field hfield := by
    rw [h.occurrences_eq (fun _ hunknown => hunknown.type_ne field)
      (not_isContainer_of_notMem hfield)]
  count container _ :=
    (h.occurrences_forall₂ fun _ hunknown => hunknown.type_ne container).length_eq
  groups := by simp

/-- Inserting unknown fields in a container leaves its scalar fields as they are. -/
lemma sameScalars_of_extendedValue {value value' : List UInt8}
    (h : ExtendedValue Unknown Legible IsContainer value value')
    (hlength : value'.length < 256 ^ 4) : SameScalars value value' := by
  rcases h with rfl | ⟨inner, inner', hlegible, rfl, rfl, hextended⟩
  · exact .refl _
  · exact (ExtendedFields.sameContents hextended).sameScalars ⟨hlegible, rfl⟩
      ⟨ExtendedFields.legible hextended hlegible hlength, rfl⟩

/-- The second payload is the first with its fields permuted, the `repeated` containers staying in
order, and unknown optional fields inserted. -/
inductive Modified (repeated : List Field) (payload payload' : List UInt8) : Prop
  | intro {tlvs permuted tlvs' : List Tlv} (encodes : Encodes payload tlvs)
      (perm : tlvs.Perm permuted)
      (order : ∀ container ∈ repeated,
        permuted.filter (·.type = container.code) = tlvs.filter (·.type = container.code))
      (extended : ExtendedFields permuted tlvs') (encodes' : encodeAll tlvs' = payload')

lemma length_encodeAll_perm {tlvs tlvs' : List Tlv} (h : tlvs.Perm tlvs') :
    (encodeAll tlvs).length = (encodeAll tlvs').length := by
  rw [encodeAll, encodeAll, List.length_flatMap, List.length_flatMap]
  exact (h.map _).sum_eq

/-- A payload does not get shorter. -/
lemma Modified.length_le {repeated : List Field} {payload payload' : List UInt8}
    (h : Modified repeated payload payload') : payload.length ≤ payload'.length := by
  obtain ⟨⟨-, rfl⟩, hperm, -, hextended, rfl⟩ := h
  rw [length_encodeAll_perm hperm]
  exact hextended.length_le

/-- A modified payload says the same. -/
lemma Modified.sameContents {repeated : List Field} {payload payload' : List UInt8}
    (h : Modified repeated payload payload') (hlength : payload'.length < 256 ^ 4) :
    ∃ tlvs tlvs', Encodes payload tlvs ∧ Encodes payload' tlvs' ∧
      SameContents repeated tlvs tlvs' := by
  obtain @⟨tlvs, permuted, tlvs', hencodes, hperm, horder, hextended, rfl⟩ := h
  have hlegible : ∀ tlv ∈ permuted, Legible tlv := fun tlv hmem =>
    hencodes.1 tlv (hperm.mem_iff.mpr hmem)
  have hsame := ExtendedFields.sameContents hextended
  refine ⟨tlvs, tlvs', hencodes, ⟨ExtendedFields.legible hextended hlegible hlength, rfl⟩,
    fun field hfield => ?_, fun container hcontainer => ?_, fun container hcontainer => ?_⟩
  · exact (occurrences_perm hperm field.code).trans (hsame.scalar field hfield)
  · exact (occurrences_perm hperm container.code).length_eq.trans (hsame.count container hcontainer)
  · have hkept : occurrences tlvs container.code = occurrences permuted container.code := by
      rw [occurrences, occurrences, horder container hcontainer]
    rw [hkept]
    have hvalues := hextended.occurrences_forall₂
      (fun _ hunknown => hunknown.type_ne container : ∀ tlv, Unknown tlv → _)
    refine List.forall₂_iff_zip.mpr ⟨hvalues.length_eq, fun {value value'} hzip => ?_⟩
    refine sameScalars_of_extendedValue ((List.forall₂_iff_zip.mp hvalues).2 hzip) ?_
    obtain ⟨tlv, htlv, -, rfl⟩ := mem_occurrences.mp (List.of_mem_zip hzip).2
    exact (length_value_le htlv).trans_lt hlength

/-- From a modified payload the same is collected. -/
theorem Modified.collect {repeated : List Field} {payload payload' : List UInt8}
    (h : Modified repeated payload payload') (hlength : payload'.length < 256 ^ 4)
    {scalars : Scalars}
    (hnone : ∀ container ∈ containerFields, scalars container = none)
    (good : (Field → List (List UInt8)) → Prop)
    (hgood : ∀ groups groups', (∀ container ∈ repeated,
      List.Forall₂ SameScalars (groups container) (groups' container)) → good groups →
        good groups') :
    (∃ collected, QfwSlurm.collect payload repeated = .ok collected ∧
      collected.scalar = scalars ∧ good collected.groups) ↔
    ∃ collected, QfwSlurm.collect payload' repeated = .ok collected ∧
      collected.scalar = scalars ∧ good collected.groups := by
  obtain ⟨tlvs, tlvs', hencodes, hencodes', hsame⟩ := h.sameContents hlength
  constructor
  · rintro ⟨collected, hcollect, rfl, hgroups⟩
    obtain ⟨collected', hcollect', hscalar, halike⟩ :=
      hsame.collect hencodes hencodes' hcollect hnone
    exact ⟨collected', hcollect', hscalar, hgood _ _ halike hgroups⟩
  · rintro ⟨collected, hcollect, rfl, hgroups⟩
    obtain ⟨collected', hcollect', hscalar, halike⟩ :=
      hsame.symm.collect hencodes' hencodes hcollect hnone
    exact ⟨collected', hcollect', hscalar, hgood _ _ halike hgroups⟩

/-! ### Rewritten frames -/

/-- A payload behind a header whose first 24 bytes are `front` and whose last four are `back`; the
size of the payload stands between them. -/
def reframe (front back payload : List UInt8) : List UInt8 :=
  front ++ (bigEndian 4 payload.length ++ (back ++ payload))

/-- The second byte string is the first with its payload modified, the size in the header adjusted
and the rest of the header, whatever it says, kept. -/
inductive Rewritten (repeated : List Field) (data data' : List UInt8) : Prop
  | intro {front back payload payload' : List UInt8} (hfront : front.length = 24)
      (hback : back.length = 4) (modified : Modified repeated payload payload')
      (framed : data = reframe front back payload) (framed' : data' = reframe front back payload')
      (room : data'.length ≤ maxFrameSize)

/-- The first 24 bytes of the header of a frame. -/
def headerFront (messageType : MessageType) (correlationId : ℕ) : List UInt8 :=
  magic ++ (bigEndian 2 versionMajor ++ (bigEndian 2 versionMinor ++
    (bigEndian 2 messageType.code ++ (bigEndian 2 0 ++ (bigEndian 4 headerSize ++
      bigEndian 8 correlationId)))))

lemma frameBytes_eq_reframe (messageType : MessageType) (correlationId : ℕ)
    (payload : List UInt8) : frameBytes messageType correlationId payload =
      reframe (headerFront messageType correlationId) (bigEndian 4 0) payload := by
  simp [frameBytes, headerBytes, reframe, headerFront, List.append_assoc]

lemma length_reframe {front back payload : List UInt8} (hfront : front.length = 24)
    (hback : back.length = 4) :
    (reframe front back payload).length = headerSize + payload.length := by
  simp only [reframe, List.length_append, length_bigEndian, hfront, hback, headerSize]
  omega

/-- What a byte string with a header is the frame of. -/
lemma framed_reframe_iff {front back payload content : List UInt8} (hfront : front.length = 24)
    (hback : back.length = 4) {messageType : MessageType} {correlationId : ℕ} :
    Framed messageType correlationId content (reframe front back payload) ↔
      (front = headerFront messageType correlationId ∧ back = bigEndian 4 0 ∧
        0 < correlationId ∧ correlationId < 2 ^ 64) ∧ content = payload ∧
          payload.length ≤ maxFrameSize - headerSize := by
  constructor
  · rintro ⟨hbytes, hcorrelation, hsize⟩
    rw [frameBytes_eq_reframe, reframe, reframe] at hbytes
    have hlength : (headerFront messageType correlationId).length = 24 := by
      simp [headerFront, magic]
    obtain ⟨hfirst, hbytes⟩ := List.append_inj hbytes (hfront.trans hlength.symm)
    obtain ⟨-, hbytes⟩ := List.append_inj hbytes (by simp)
    obtain ⟨hlast, rfl⟩ := List.append_inj hbytes (by simp [hback])
    exact ⟨⟨hfirst, hlast, hcorrelation⟩, rfl, hsize⟩
  · rintro ⟨⟨rfl, rfl, hcorrelation⟩, rfl, hsize⟩
    exact ⟨(frameBytes_eq_reframe _ _ _).symm, hcorrelation, hsize⟩

/-- A decoder that accepts the frames of the payloads that are `good` for a value accepts a frame
when it accepts the rewritten one, with the same value and, but for the size of the payload, the
same header. -/
theorem Rewritten.decode {α β : Type} {repeated : List Field} {data data' : List UInt8}
    (h : Rewritten repeated data data') (decode : List UInt8 → Option (α × β))
    (resize : ℕ → α → α) {messageType : MessageType} {read : ℕ → List UInt8 → α}
    {good : List UInt8 → β → Prop}
    (hdecode : ∀ data header value, decode data = some (header, value) ↔
      ∃ correlationId payload, Framed messageType correlationId payload data ∧
        header = read correlationId payload ∧ good payload value)
    (hread : ∀ correlationId payload payload',
      read correlationId payload' = resize payload'.length (read correlationId payload))
    (hgood : ∀ payload payload', Modified repeated payload payload' → payload'.length < 256 ^ 4 →
      ∀ value, good payload value ↔ good payload' value) :
    decode data' = (decode data).map fun (header, value) =>
      (resize (data'.length - headerSize) header, value) := by
  obtain @⟨front, back, payload, payload', hfront, hback, hmodified, rfl, rfl, hroom⟩ := h
  have hlength : (reframe front back payload').length = headerSize + payload'.length :=
    length_reframe hfront hback
  have hsize : payload'.length ≤ maxFrameSize - headerSize := by omega
  have hsize' : payload.length ≤ maxFrameSize - headerSize :=
    hmodified.length_le.trans hsize
  have hbound : payload'.length < 256 ^ 4 := by
    simp only [maxFrameSize, headerSize] at hsize
    omega
  refine Option.ext fun result => ?_
  obtain ⟨header, value⟩ := result
  rw [hdecode, Option.map_eq_some_iff]
  constructor
  · rintro ⟨correlationId, content, hframed, rfl, hvalue⟩
    obtain ⟨hheader, rfl, -⟩ := (framed_reframe_iff hfront hback).mp hframed
    refine ⟨(read correlationId payload, value), (hdecode _ _ _).mpr ⟨correlationId, payload,
      (framed_reframe_iff hfront hback).mpr ⟨hheader, rfl, hsize'⟩, rfl,
      (hgood _ _ hmodified hbound value).mpr hvalue⟩, ?_⟩
    rw [hlength, Nat.add_sub_cancel_left, hread correlationId payload content]
  · rintro ⟨⟨header, value⟩, hfound, hresult⟩
    obtain ⟨rfl, rfl⟩ := Prod.mk.inj hresult
    obtain ⟨correlationId, content, hframed, rfl, hvalue⟩ := (hdecode _ _ _).mp hfound
    obtain ⟨hheader, rfl, -⟩ := (framed_reframe_iff hfront hback).mp hframed
    refine ⟨correlationId, payload', (framed_reframe_iff hfront hback).mpr ⟨hheader, rfl, hsize⟩,
      ?_, (hgood _ _ hmodified hbound value).mp hvalue⟩
    rw [hlength, Nat.add_sub_cancel_left, ← hread]

end QfwSlurm
