import QfwSlurm.Protocol.Responses
import QfwSlurm.Protocol.Texts
import QfwSlurm.Python.Utf8

/-!
# Diagnostics made of any texts

`bounded_diagnostic` and `_string` on strings of Python, which may contain surrogates.  What
`bounded_diagnostic` returns is always the longest prefix that fits the field, of the text with its
surrogates replaced (`boundedDiagnostic_longest`), but the field takes no empty text and no NUL:
`fitsField_iff` says for which texts a response can carry the result.
-/

namespace QfwSlurm.Diagnostics

open Python Sequence

/-! ### The functions -/

/-- `bounded_diagnostic`, on the text that `str` makes of its argument. -/
def boundedDiagnostic (value : Str) : Except PyError Str :=
  let encoded := value.utf8Replace
  if encoded.length ≤ maxDiagnostic then
    match Str.ofUtf8 encoded with
    | some text => .ok text
    | none => .error ⟨.other, "'utf-8' codec can't decode bytes"⟩
  else .ok (Str.ofUtf8Ignore (encoded.take maxDiagnostic))

/-- `_string` -/
def string (value : Str) (maximum : ℕ) (label : String) : Except PyError (List UInt8) :=
  if value = [] then .error (protocolError s!"{label} must be a nonempty string")
  else
    match value.utf8 with
    | none => .error ⟨.other, "'utf-8' codec can't encode characters: surrogates not allowed"⟩
    | some encoded =>
      if maximum < encoded.length ∨ 0 ∈ encoded then
        .error (protocolError s!"{label} exceeds its wire bound")
      else .ok encoded

/-! ### What is expected of a diagnostic -/

/-- The response with this diagnostic in its results, or in the error. -/
def withDiagnostic (diagnostic : String) : Response → Response
  | .evaluate response => .evaluate { response with
      results := response.results.map fun item => { item with diagnostic := some diagnostic } }
  | .reserve response => .reserve { response with
      results := response.results.map fun item => { item with diagnostic := some diagnostic } }
  | .release response => .release { response with
      results := response.results.map fun item => { item with diagnostic := some diagnostic } }
  | .getReservations response => .getReservations response
  | .error response => .error { response with diagnostic := some diagnostic }

/-- The longest prefix within the bound, of the text with its surrogates replaced. -/
structure Longest (value diagnostic : Str) : Prop where
  size : ∃ encoded, diagnostic.utf8 = some encoded ∧ encoded.length ≤ maxDiagnostic
  initial : diagnostic <+: Str.replaced value
  longest : ∀ other encoded, other <+: Str.replaced value → Str.utf8 other = some encoded →
    encoded.length ≤ maxDiagnostic → other <+: diagnostic

/-- The check of the response encoders accepts the diagnostic, so that a response which can be sent
can be sent with it. -/
structure Carried (diagnostic : Str) : Prop where
  accepted : ∀ label, ∃ encoded, string diagnostic maxDiagnostic label = .ok encoded
  sendable : ∃ chars, Str.ofString chars = diagnostic ∧ ∀ response correlationId,
    (∃ bytes, encodeResponse response correlationId = .ok bytes) →
      ∃ bytes, encodeResponse (withDiagnostic chars response) correlationId = .ok bytes

/-- A text becomes a diagnostic that fits its field. -/
def FitsField (value : Str) : Prop :=
  ∃ diagnostic, boundedDiagnostic value = .ok diagnostic ∧ Longest value diagnostic ∧
    Carried diagnostic

/-! ### The diagnostic of a text -/

/-- The part of a text that fits the field. -/
def kept (value : Str) : Str :=
  fitting (fun p => (CodePoint.utf8 p).length) maxDiagnostic (Str.replaced value)

lemma length_flatMap_utf8 (text : Str) :
    (text.flatMap CodePoint.utf8).length = totalSize (fun p => (CodePoint.utf8 p).length) text :=
  List.length_flatMap

lemma encodable_kept (value : Str) : (kept value).Encodable := fun p hp =>
  encodable_replaced value p (fitting_isPrefix.subset hp)

/-- `bounded_diagnostic` never raises, and cuts the text off at the bound. -/
lemma boundedDiagnostic_eq (value : Str) : boundedDiagnostic value = .ok (kept value) := by
  have hencodable := encodable_replaced value
  rw [boundedDiagnostic, utf8Replace_eq]
  split_ifs with hbound
  · rw [length_flatMap_utf8] at hbound
    rw [ofUtf8_flatMap hencodable, kept, fitting_eq_self hbound]
  · rw [ofUtf8Ignore_take hencodable, kept]

/-- What `bounded_diagnostic` returns is the longest prefix that fits, for every text. -/
theorem boundedDiagnostic_longest (value : Str) : Longest value (kept value) where
  size := by
    refine ⟨_, utf8_of_encodable (encodable_kept value), ?_⟩
    rw [length_flatMap_utf8]
    exact totalSize_fitting_le
  initial := fitting_isPrefix
  longest := by
    intro other encoded hother hencoded hsize
    have hvalid : Str.Encodable other := fun p hp =>
      encodable_replaced value p (hother.subset hp)
    rw [utf8_of_encodable hvalid, Option.some.injEq] at hencoded
    rw [← hencoded, length_flatMap_utf8] at hsize
    exact isPrefix_fitting_iff.mpr ⟨hother, hsize⟩

/-! ### What the field takes -/

lemma string_eq_ok_iff {value : Str} {maximum : ℕ} {label : String} {encoded : List UInt8} :
    string value maximum label = .ok encoded ↔
      value ≠ [] ∧ value.utf8 = some encoded ∧ encoded.length ≤ maximum ∧ 0 ∉ encoded := by
  unfold string
  split_ifs with hnil
  · exact iff_of_false nofun fun h => h.1 hnil
  rcases hutf8 : value.utf8 with - | bytes
  · exact iff_of_false nofun fun h => nomatch h.2.1
  dsimp only
  split_ifs with hbound
  · refine iff_of_false nofun ?_
    rintro ⟨-, hsame, hlength, hzero⟩
    obtain rfl := Option.some.inj hsame
    exact hbound.elim (fun hlong => absurd hlength (not_le.mpr hlong)) hzero
  · rw [not_or, not_lt] at hbound
    rw [Except.ok.injEq, Option.some.injEq]
    constructor
    · rintro rfl
      exact ⟨hnil, rfl, hbound⟩
    · exact fun h => h.2.1

lemma zero_mem_flatMap_utf8 {text : Str} : 0 ∈ text.flatMap CodePoint.utf8 ↔ 0 ∈ text := by
  rw [List.mem_flatMap]
  constructor
  · rintro ⟨p, hp, hzero⟩
    rwa [← Python.zero_mem_utf8.mp hzero]
  · exact fun h => ⟨0, h, Python.zero_mem_utf8.mpr rfl⟩

/-- The bytes of a text of characters. -/
lemma utf8_ofString (chars : String) : (Str.ofString chars).utf8 = some (utf8 chars) := by
  rw [utf8_of_encodable (encodable_ofString chars), Str.ofString, List.flatMap_map,
    utf8_eq_flatMap]
  exact congrArg (fun code => some (chars.toList.flatMap code)) (funext utf8_ofChar)

/-- On texts of characters, `_string` is the one of the encoders. -/
theorem string_ofString (chars : String) (maximum : ℕ) (label : String) :
    string (Str.ofString chars) maximum label = QfwSlurm.string chars maximum label := by
  have hnil : Str.ofString chars = [] ↔ chars = "" := by
    rw [Str.ofString, List.map_eq_nil_iff, String.toList_eq_nil_iff]
  rw [string, QfwSlurm.string, utf8_ofString]
  simp only [hnil]

/-- A diagnostic that fits leaves a response sendable. -/
lemma sendable_withDiagnostic {response : Response} {diagnostic : String}
    (hfits : TextFits diagnostic maxDiagnostic) (h : response.Sendable) :
    (withDiagnostic diagnostic response).Sendable := by
  have hvalue : ∀ value ∈ some diagnostic, TextFits value maxDiagnostic := by
    rintro value hvalue
    rwa [← Option.some.inj hvalue]
  have hadmission {reserve : Bool} {response : ReserveResponse} (h : response.Sendable reserve) :
      ReserveResponse.Sendable reserve { response with
        results := response.results.map fun item => { item with diagnostic := some diagnostic } } :=
    { requestId := h.requestId
      count := by rw [List.length_map]; exact h.count
      distinct := by rw [List.map_map]; exact h.distinct
      results := by
        intro item hitem
        obtain ⟨first, hfirst, rfl⟩ := List.mem_map.mp hitem
        exact { h.results first hfirst with diagnostic := hvalue }
      agrees := by rw [List.map_map]; exact h.agrees }
  cases response with
  | evaluate response => exact hadmission h
  | reserve response => exact hadmission h
  | release response =>
    refine ⟨h.requestId, ?_, ?_, ?_⟩
    · rw [List.length_map]
      exact h.count
    · rw [List.map_map]
      exact h.distinct
    · intro item hitem
      obtain ⟨first, hfirst, rfl⟩ := List.mem_map.mp hitem
      exact { h.results first hfirst with diagnostic := hvalue }
  | getReservations response => exact h
  | error response => exact ⟨h.requestId, hvalue⟩

/-- A diagnostic is carried when it is a nonempty text without NUL, within the bound. -/
lemma carried_iff {diagnostic : Str} (h : diagnostic.Encodable)
    (hsize : (diagnostic.flatMap CodePoint.utf8).length ≤ maxDiagnostic) :
    Carried diagnostic ↔ diagnostic ≠ [] ∧ 0 ∉ diagnostic := by
  have hutf8 := utf8_of_encodable h
  constructor
  · intro hcarried
    obtain ⟨encoded, hencoded⟩ := hcarried.accepted "diagnostic"
    obtain ⟨hne, hsame, -, hzero⟩ := string_eq_ok_iff.mp hencoded
    rw [hutf8, Option.some.injEq] at hsame
    rw [← hsame, zero_mem_flatMap_utf8] at hzero
    exact ⟨hne, hzero⟩
  · rintro ⟨hne, hzero⟩
    have haccepted (label : String) : string diagnostic maxDiagnostic label =
        .ok (diagnostic.flatMap CodePoint.utf8) :=
      string_eq_ok_iff.mpr ⟨hne, hutf8, hsize, fun h => hzero (zero_mem_flatMap_utf8.mp h)⟩
    obtain ⟨chars, rfl⟩ := h.exists_ofString
    refine ⟨fun label => ⟨_, haccepted label⟩, chars, rfl, ?_⟩
    intro response correlationId hsent
    have hstring := haccepted "diagnostic"
    rw [string_ofString, QfwSlurm.string_eq_ok_iff] at hstring
    rw [encodeResponse_ok_iff] at hsent ⊢
    exact ⟨sendable_withDiagnostic hstring.1 hsent.1, hsent.2⟩

/-- Nothing is kept only of the empty text. -/
lemma kept_eq_nil_iff {value : Str} : kept value = [] ↔ value = [] := by
  constructor
  · intro h
    by_contra hne
    obtain ⟨p, rest, rfl⟩ := List.exists_cons_of_ne_nil hne
    have hfirst : p.replacedSize ≤ maxDiagnostic := by
      unfold CodePoint.replacedSize
      split_ifs <;> decide
    rw [kept, Str.replaced, List.map_cons, fitting, length_utf8_replaced, if_pos hfirst] at h
    cases h
  · rintro rfl
    rfl

lemma totalSize_replaced (text : Str) :
    totalSize (fun p => (CodePoint.utf8 p).length) (Str.replaced text) =
      totalSize CodePoint.replacedSize text := by
  rw [totalSize, Str.replaced, List.map_map]
  exact congrArg (fun size => (text.map size).sum) (funext length_utf8_replaced)

/-- A NUL is kept when it ends within the bound. -/
lemma zero_mem_kept_iff {value : Str} :
    0 ∈ kept value ↔ ∃ before after, value = before ++ 0 :: after ∧
      totalSize CodePoint.replacedSize before < maxDiagnostic := by
  rw [kept, mem_fitting_iff]
  constructor
  · rintro ⟨before, after, hsplit, hsize⟩
    obtain ⟨first, later, rfl, rfl, hlater⟩ := List.map_eq_append_iff.mp hsplit
    obtain ⟨p, rest, rfl, hp, -⟩ := List.map_eq_cons_iff.mp hlater
    have hzero : p = 0 := by
      split_ifs at hp with hsurrogate
      · cases hp
      · exact hp
    exact ⟨first, rest, by rw [hzero], (totalSize_replaced first).symm.trans_lt hsize⟩
  · rintro ⟨before, after, rfl, hsize⟩
    refine ⟨Str.replaced before, Str.replaced after, ?_, ?_⟩
    · rw [Str.replaced, List.map_append, List.map_cons]
      rfl
    · rw [totalSize_replaced]
      exact hsize

/-- A response can carry the diagnostic of a text exactly when the text is not empty and every NUL
of it is beyond the bound. -/
theorem fitsField_iff (value : Str) :
    FitsField value ↔ value ≠ [] ∧ ∀ before after, value = before ++ 0 :: after →
      maxDiagnostic ≤ totalSize CodePoint.replacedSize before := by
  have hlongest := boundedDiagnostic_longest value
  have hsize : ((kept value).flatMap CodePoint.utf8).length ≤ maxDiagnostic := by
    obtain ⟨encoded, hencoded, hsize⟩ := hlongest.size
    rw [utf8_of_encodable (encodable_kept value), Option.some.injEq] at hencoded
    rwa [hencoded]
  have hcarried := carried_iff (encodable_kept value) hsize
  have hnul : 0 ∉ kept value ↔ ∀ before after, value = before ++ 0 :: after →
      maxDiagnostic ≤ totalSize CodePoint.replacedSize before := by
    rw [zero_mem_kept_iff]
    push Not
    exact Iff.rfl
  rw [FitsField, boundedDiagnostic_eq, ← hnul, Ne, ← kept_eq_nil_iff, ← Ne, ← hcarried]
  constructor
  · rintro ⟨diagnostic, hreturned, -, hfits⟩
    rwa [Except.ok.inj hreturned]
  · exact fun hfits => ⟨kept value, rfl, hlongest, hfits⟩

/-- The message of an exception without arguments is empty, and no response can carry it. -/
theorem empty_message_refused :
    boundedDiagnostic [] = .ok [] ∧
      string [] maxDiagnostic "DIAGNOSTIC" =
        .error (protocolError "DIAGNOSTIC must be a nonempty string") ∧ ¬ FitsField [] := by
  refine ⟨by decide, rfl, ?_⟩
  rintro ⟨diagnostic, hreturned, -, hfits⟩
  obtain rfl : [] = diagnostic := Except.ok.inj hreturned
  obtain ⟨encoded, hencoded⟩ := hfits.accepted "DIAGNOSTIC"
  cases hencoded

/-! ### Texts of characters -/

lemma takeBytes_eq (budget : ℕ) (chars : List Char) :
    takeBytes budget chars = fitting Char.utf8Size budget chars := by
  induction chars generalizing budget with
  | nil => rfl
  | cons c rest ih => rw [takeBytes, fitting, ih]

/-- On texts of characters, this is the function that the gateway is modelled with. -/
theorem boundedDiagnostic_ofString (chars : String) :
    boundedDiagnostic (Str.ofString chars) =
      .ok (Str.ofString (QfwSlurm.boundedDiagnostic chars)) := by
  have hreplaced : Str.replaced (Str.ofString chars) = Str.ofString chars := by
    refine (List.map_congr_left fun p hp => ?_).trans (List.map_id _)
    rw [encodable_ofString chars p hp]
    rfl
  have hsize : (fun p => (CodePoint.utf8 p).length) ∘ (fun c : Char => Fin.ofNat _ c.toNat) =
      Char.utf8Size := by
    funext c
    rw [Function.comp_apply, utf8_ofChar, String.length_utf8EncodeChar]
  have hkept : kept (Str.ofString chars) =
      Str.ofString (String.ofList (takeBytes maxDiagnostic chars.toList)) := by
    rw [kept, hreplaced, Str.ofString, fitting_map, hsize, takeBytes_eq, Str.ofString,
      String.toList_ofList]
  rw [boundedDiagnostic_eq, hkept, QfwSlurm.boundedDiagnostic]
  split_ifs with hbound
  · have htotal : totalSize Char.utf8Size chars.toList ≤ maxDiagnostic := by
      rw [← length_utf8] at hbound
      rwa [totalSize, ← length_utf8_ofList, String.ofList_toList]
    rw [takeBytes_eq, fitting_eq_self htotal, String.ofList_toList]
  · rfl

end QfwSlurm.Diagnostics
