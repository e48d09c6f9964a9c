import QfwSlurm.C.Strings
import QfwSlurm.Native.Responses
import QfwSlurm.Protocol.Texts
import QfwSlurm.Python.Json
import QfwSlurm.Sorting.InPlace

/-!
# The reservation environment

`src/native/environment.c` writes the granted reservations as JSON, once from a reserve response and
once from a lookup response, each with its own insertion sort.  `environment_canonical` says that
both write the same document for the same set of reservations in any order, or both refuse: the
array of the pairs of service and reservation id, sorted by service id.
-/

namespace QfwSlurm.Native

open C Sorting

/-! ### Appending -/

/-- `append_text` -/
def appendText (size : ℕ) (text : List UInt8) (output : Output) : Except C.Stop Output :=
  if size ≤ output.offset ∨ size - output.offset ≤ text.length then
    .error (.refused output.buffer)
  else do
    let buffer ← store output.buffer output.offset text
    let buffer ← store buffer (output.offset + text.length) [0]
    return ⟨buffer, output.offset + text.length⟩

/-- A hexadecimal digit of `%04x`. -/
def hexByte (n : ℕ) : UInt8 := UInt8.ofNat (if n < 10 then 48 + n else 87 + n)

/-- The variable `escaped` of `append_json_string`. -/
def escapeByte (c : UInt8) : List UInt8 :=
  if c = 34 ∨ c = 92 then [92, c]
  else if c < 0x20 then [92, 117, 48, 48, hexByte (c.toNat / 16), hexByte (c.toNat % 16)]
  else [c]

/-- The loop of `append_json_string`. -/
def appendEscaped (size : ℕ) : List UInt8 → Output → Except C.Stop Output
  | [], output => .ok output
  | c :: value, output => do
    let output ← appendText size (escapeByte c) output
    appendEscaped size value output

/-- `append_json_string` -/
def appendJsonString (size : ℕ) (value : List UInt8) (output : Output) : Except C.Stop Output := do
  let output ← appendText size (utf8 "\"") output
  let output ← appendEscaped size value output
  appendText size (utf8 "\"") output

/-- The comma before every pair but the first. -/
def appendComma (size index : ℕ) (output : Output) : Except C.Stop Output :=
  if index ≠ 0 then appendText size (utf8 ",") output else .ok output

/-- The loop that writes the pairs, from this index on. -/
def appendPairs (size : ℕ) : ℕ → List (List UInt8 × ℕ) → Output → Except C.Stop Output
  | _, [], output => .ok output
  | index, (serviceId, reservationId) :: pairs, output => do
    let output ← appendComma size index output
    let output ← appendText size (utf8 "[") output
    let output ← appendJsonString size serviceId output
    let output ← appendText size (utf8 ",") output
    let output ← appendText size (utf8 ("\"" ++ toString reservationId ++ "\"")) output
    let output ← appendText size (utf8 "]") output
    appendPairs size (index + 1) pairs output

/-- The end of both functions: the array of the pairs, and its return value 0 with the buffer. -/
def appendArray (size : ℕ) (pairs : List (List UInt8 × ℕ)) (buffer : List UInt8) :
    Except C.Stop (List UInt8) := do
  let output ← appendText size (utf8 "[") ⟨buffer, 0⟩
  let output ← appendPairs size 0 pairs output
  let output ← appendText size (utf8 "]") output
  return output.buffer

/-! ### The two functions -/

/-- The loop that looks for equal neighbours. -/
def equalNeighbours : List (List UInt8) → Bool
  | first :: second :: rest => strcmp first second = 0 || equalNeighbours (second :: rest)
  | _ => false

/-- `compare_results` is positive. -/
def resultAbove (response : QsgpReserveResponse) (left right : ℕ) : Bool :=
  0 < strcmp (response.results.getD left {}).serviceId (response.results.getD right {}).serviceId

/-- `sort_indices` -/
def sortIndices (response : QsgpReserveResponse) (indices : List ℕ) : List ℕ :=
  sortFrom (resultAbove response) 1 (indices.length - 1) indices

/-- A result that is not a granted reservation. -/
def QsgpServiceResult.notGranted (result : QsgpServiceResult) : Bool :=
  result.decision ≠ admissionAccepted || !result.hasReservationId || result.reservationId = 0 ||
    result.serviceId = []

/-- `qfw_reservations_json` on a buffer of this size. -/
def qfwReservationsJson (response : QsgpReserveResponse) (buffer : List UInt8) (size : ℕ) :
    Except C.Stop (List UInt8) :=
  if size < 3 ∨ response.decision ≠ admissionAccepted ∨ response.results.length = 0 ∨
      maxServices < response.results.length then .error (.refused buffer)
  else do
    let buffer ← store buffer 0 [0]
    if response.results.any QsgpServiceResult.notGranted then .error (.refused buffer)
    else
      let indices := sortIndices response (List.range response.results.length)
      let sorted := indices.map fun index => response.results.getD index {}
      if equalNeighbours (sorted.map QsgpServiceResult.serviceId) then .error (.refused buffer)
      else
        appendArray size (sorted.map fun result => (result.serviceId, result.reservationId)) buffer

/-- The test of the loop that sorts the reservations is positive. -/
def reservationAbove (response : QsgpGetReservationsResponse) (left right : ℕ) : Bool :=
  0 < strcmp (response.reservations.getD left {}).serviceId
    (response.reservations.getD right {}).serviceId

/-- The first loop of `qfw_lookup_reservations_json`, with the indices so far and the reservations
that are left; `none` where it returns. -/
def lookupIndices (response : QsgpGetReservationsResponse) :
    List ℕ → List QsgpReservation → Option (List ℕ)
  | indices, [] => some indices
  | indices, reservation :: reservations =>
    if reservation.serviceId = [] ∨ reservation.reservationId = 0 then none
    else
      let index := indices.length
      lookupIndices response (swapDown (reservationAbove response) index (indices ++ [index]))
        reservations

/-- `qfw_lookup_reservations_json` on a buffer of this size. -/
def qfwLookupReservationsJson (response : QsgpGetReservationsResponse) (buffer : List UInt8)
    (size : ℕ) : Except C.Stop (List UInt8) :=
  if size < 3 ∨ response.canonicalJobId = 0 ∨ response.reservations.length = 0 ∨
      maxServices < response.reservations.length then .error (.refused buffer)
  else do
    let buffer ← store buffer 0 [0]
    match lookupIndices response [] response.reservations with
    | none => .error (.refused buffer)
    | some indices =>
      let sorted := indices.map fun index => response.reservations.getD index {}
      if equalNeighbours (sorted.map QsgpReservation.serviceId) then .error (.refused buffer)
      else
        appendArray size
          (sorted.map fun reservation => (reservation.serviceId, reservation.reservationId)) buffer

/-! ### What is appended -/

section Appending

variable {size : ℕ}

/-- `append_text` appends its argument. -/
lemma appends_appendText (size : ℕ) (text : List UInt8) :
    Appends size (appendText size text) text := by
  intro before output h
  obtain ⟨tail, htail⟩ := h.text_eq
  have hoffset := h.offset_eq
  have hlength : before.length + (tail.length + 1) = size := by
    rw [← h.length_eq, htail, List.length_append, List.length_cons]
  constructor
  · intro hfits
    have hroom : ¬ (size ≤ output.offset ∨ size - output.offset ≤ text.length) := by omega
    have hfirst := store_append before (0 :: tail) text
      (by rw [List.length_cons]; omega)
    obtain ⟨c, rest, hrest⟩ : ∃ c rest, (0 :: tail).drop text.length = c :: rest := by
      refine List.exists_cons_of_ne_nil fun hnil => ?_
      have hdrop := List.drop_eq_nil_iff.mp hnil
      rw [List.length_cons] at hdrop
      omega
    have hrestLength : text.length + (rest.length + 1) = tail.length + 1 := by
      have hcount := congrArg List.length hrest
      simp only [List.length_drop, List.length_cons] at hcount
      omega
    have hsecond := store_append (before ++ text) (c :: rest) [0] (by simp)
    rw [List.length_append] at hsecond
    refine ⟨⟨before ++ text ++ 0 :: rest, before.length + text.length⟩, ?_, ?_⟩
    · rw [appendText, if_neg hroom, hoffset, htail, hfirst, hrest]
      have hassoc : before ++ (text ++ c :: rest) = before ++ text ++ c :: rest := by simp
      show (store (before ++ (text ++ c :: rest)) _ _ >>= fun buffer =>
        pure (⟨buffer, before.length + text.length⟩ : Output)) = _
      rw [hassoc, hsecond]
      rfl
    · refine ⟨?_, by rw [List.length_append], rest, rfl⟩
      simp only [List.length_append, List.length_cons]
      omega
  · intro hfull
    have hover : size ≤ output.offset ∨ size - output.offset ≤ text.length := by omega
    exact ⟨output.buffer, by rw [appendText, if_pos hover], h.terminated⟩

lemma appends_appendEscaped (value : List UInt8) :
    Appends size (appendEscaped size value) (value.flatMap escapeByte) := by
  induction value with
  | nil => exact Appends.pure
  | cons c value ih => exact (appends_appendText size (escapeByte c)).bind ih

/-- A string as `append_json_string` writes it. -/
def quotedBytes (value : List UInt8) : List UInt8 :=
  utf8 "\"" ++ (value.flatMap escapeByte ++ utf8 "\"")

lemma appends_appendJsonString (value : List UInt8) :
    Appends size (appendJsonString size value) (quotedBytes value) :=
  (appends_appendText size _).bind ((appends_appendEscaped value).bind (appends_appendText size _))

/-- A pair as it is written. -/
def pairBytes (pair : List UInt8 × ℕ) : List UInt8 :=
  utf8 "[" ++ (quotedBytes pair.1 ++ (utf8 "," ++
    (utf8 ("\"" ++ toString pair.2 ++ "\"") ++ utf8 "]")))

/-- The pairs as they are written, from this index on. -/
def pairsBytes : ℕ → List (List UInt8 × ℕ) → List UInt8
  | _, [] => []
  | index, pair :: pairs =>
    (if index ≠ 0 then utf8 "," else []) ++ (pairBytes pair ++ pairsBytes (index + 1) pairs)

lemma appends_appendPairs (index : ℕ) (pairs : List (List UInt8 × ℕ)) :
    Appends size (appendPairs size index pairs) (pairsBytes index pairs) := by
  induction pairs generalizing index with
  | nil => exact Appends.pure
  | cons pair pairs ih =>
    have hcomma : Appends size (appendComma size index) (if index ≠ 0 then utf8 "," else []) := by
      unfold appendComma
      split
      · exact appends_appendText size _
      · exact Appends.pure
    have hpair := (appends_appendText size (utf8 "[")).bind
      ((appends_appendJsonString pair.1).bind ((appends_appendText size (utf8 ",")).bind
        ((appends_appendText size (utf8 ("\"" ++ toString pair.2 ++ "\""))).bind
          ((appends_appendText size (utf8 "]")).bind (ih (index + 1))))))
    have hbytes : pairsBytes index (pair :: pairs) = (if index ≠ 0 then utf8 "," else []) ++
        (utf8 "[" ++ (quotedBytes pair.1 ++ (utf8 "," ++
          (utf8 ("\"" ++ toString pair.2 ++ "\"") ++
            (utf8 "]" ++ pairsBytes (index + 1) pairs))))) := by
      simp [pairsBytes, pairBytes]
    rw [hbytes]
    exact hcomma.bind hpair

/-- The array as it is written. -/
def arrayBytes (pairs : List (List UInt8 × ℕ)) : List UInt8 :=
  utf8 "[" ++ (pairsBytes 0 pairs ++ utf8 "]")

/-- The end of both functions writes the array, or refuses because it does not fit. -/
lemma appendArray_spec {pairs : List (List UInt8 × ℕ)} {buffer : List UInt8}
    (hlength : buffer.length = size) (hstart : buffer.head? = some 0)
    (hnul : 0 ∉ arrayBytes pairs) :
    ((arrayBytes pairs).length < size → ∃ written, appendArray size pairs buffer = .ok written ∧
      Terminated size written ∧ stringOf written = arrayBytes pairs) ∧
    (size ≤ (arrayBytes pairs).length → ∃ left, appendArray size pairs buffer =
      .error (.refused left) ∧ Terminated size left) := by
  obtain ⟨tail, rfl⟩ : ∃ tail, buffer = 0 :: tail := by
    cases buffer with
    | nil => cases hstart
    | cons c tail => exact ⟨tail, by rw [Option.some.inj hstart]⟩
  have hholds : Holds size [] ⟨0 :: tail, 0⟩ := ⟨hlength, rfl, tail, rfl⟩
  have happends := (appends_appendText size (utf8 "[")).bind
    ((appends_appendPairs 0 pairs).bind (appends_appendText size (utf8 "]")))
  obtain ⟨hfits, hfull⟩ := happends [] _ hholds
  rw [List.nil_append, List.length_nil, Nat.zero_add] at hfits
  rw [List.length_nil, Nat.zero_add] at hfull
  have hunfold : appendArray size pairs (0 :: tail) =
      ((appendText size (utf8 "[") ⟨0 :: tail, 0⟩ >>= fun output =>
        appendPairs size 0 pairs output >>= appendText size (utf8 "]")) >>= fun output =>
          .ok output.buffer) := by
    simp [appendArray, pure, Except.pure]
  rw [hunfold]
  constructor
  · intro hroom
    obtain ⟨output, hok, hwritten⟩ := hfits hroom
    dsimp only at hok
    rw [hok]
    exact ⟨output.buffer, rfl, hwritten.terminated, hwritten.stringOf_eq hnul⟩
  · intro hroom
    obtain ⟨left, hrefused, hterminated⟩ := hfull hroom
    dsimp only at hrefused
    rw [hrefused]
    exact ⟨left, rfl, hterminated⟩

end Appending

/-! ### The document -/

open Python in
/-- A pair as a JSON text. -/
def pairText (pair : String × ℕ) : List Char :=
  '[' :: (commaSeparated [quoted pair.1.toList, quoted (decimalText pair.2)] ++ [']'])

/-- The pairs as a JSON document. -/
def environmentText (pairs : List (String × ℕ)) : List Char :=
  '[' :: (Python.commaSeparated (pairs.map pairText) ++ [']'])

/-- The value of the document: every pair is an array of two strings. -/
def environmentValue (pairs : List (String × ℕ)) : Python.Json :=
  .arr (pairs.map fun pair => .arr [.str pair.1.toList, .str (Python.decimalText pair.2)])

/-- The document is read as its value. -/
theorem reads_environmentText (pairs : List (String × ℕ)) :
    Python.Reads Python.scanString (environmentText pairs) (environmentValue pairs) := by
  apply Python.Reads.arr
  rw [List.forall₂_map_left_iff, List.forall₂_map_right_iff, List.forall₂_same]
  intro pair _
  exact Python.Reads.arr (.cons (Python.Reads.quoted _) (.cons (Python.Reads.quoted _) .nil))

/-- The C printer and the model of a compact printer escape the same way. -/
lemma flatMap_escapeByte (c : Char) :
    (String.utf8EncodeChar c).flatMap escapeByte = bytesOf (Python.escapeChar c) := by
  by_cases hc : c.toNat < 128
  · have hascii : ∀ n < 128, (String.utf8EncodeChar (Char.ofNat n)).flatMap escapeByte =
        bytesOf (Python.escapeChar (Char.ofNat n)) := by decide
    have hchar := hascii c.toNat hc
    rwa [Char.ofNat_toNat] at hchar
  · have hhigh := high_of_mem_utf8EncodeChar (not_lt.mp hc)
    have hsame : ∀ b ∈ String.utf8EncodeChar c, escapeByte b = [b] := by
      intro b hb
      have hb := hhigh b hb
      have hquote : ¬ (b = 34 ∨ b = 92) := by
        rintro (rfl | rfl) <;> exact absurd hb (by decide)
      have hcontrol : ¬ b < 0x20 := by
        rw [UInt8.lt_iff_toNat_lt, not_lt]
        exact le_trans (by decide) hb
      rw [escapeByte, if_neg hquote, if_neg hcontrol]
    have hplain : Python.escapeChar c = [c] := by
      have hquote : ¬ (c = '"' ∨ c = '\\') := by
        rintro (rfl | rfl) <;> exact absurd hc (by decide)
      rw [Python.escapeChar, if_neg hquote, if_neg (by omega)]
    rw [hplain, List.flatMap_congr hsame, List.flatMap_singleton']
    simp [bytesOf]

lemma bytesOf_quoted (text : String) : bytesOf (Python.quoted text.toList) =
    quotedBytes (utf8 text) := by
  have hescaped : (utf8 text).flatMap escapeByte =
      bytesOf (text.toList.flatMap Python.escapeChar) := by
    rw [utf8_eq_flatMap, List.flatMap_assoc, bytesOf, List.flatMap_assoc]
    exact List.flatMap_congr fun c _ => flatMap_escapeByte c
  rw [quotedBytes, hescaped, ← bytesOf_toList "\"", ← bytesOf_append, ← bytesOf_append]
  rfl

/-- Digits need no escapes. -/
lemma quoted_decimalText (n : ℕ) :
    Python.quoted (Python.decimalText n) = ("\"" ++ toString n ++ "\"").toList := by
  have hplain : ∀ c ∈ Python.decimalText n, Python.escapeChar c = [c] := by
    intro c hc
    have hdigit := Python.isJsonDigit_of_mem hc
    simp only [Python.isJsonDigit, Bool.and_eq_true, decide_eq_true_eq] at hdigit
    have hquote : ¬ (c = '"' ∨ c = '\\') := by
      rintro (rfl | rfl) <;> exact absurd hdigit (by decide)
    rw [Python.escapeChar, if_neg hquote, if_neg (by omega)]
  rw [Python.quoted, List.flatMap_congr hplain, List.flatMap_singleton', Python.decimalText,
    String.toList_append, String.toList_append, ← Nat.toList_repr]
  rfl

lemma bytesOf_pairText (pair : String × ℕ) :
    bytesOf (pairText pair) = pairBytes (utf8 pair.1, pair.2) := by
  have htext : pairText pair = "[".toList ++ (Python.quoted pair.1.toList ++ (",".toList ++
      (("\"" ++ toString pair.2 ++ "\"").toList ++ "]".toList))) := by
    rw [pairText, Python.commaSeparated_cons _ (List.cons_ne_nil _ _), Python.commaSeparated,
      quoted_decimalText]
    simp
  rw [htext, bytesOf_append, bytesOf_append, bytesOf_append, bytesOf_append, bytesOf_toList,
    bytesOf_toList, bytesOf_toList, bytesOf_toList, bytesOf_quoted, pairBytes]

lemma bytesOf_pairs (index : ℕ) (pairs : List (String × ℕ)) :
    bytesOf (pairs.flatMap fun pair => ',' :: pairText pair) =
      pairsBytes (index + 1) (pairs.map fun pair => (utf8 pair.1, pair.2)) := by
  induction pairs generalizing index with
  | nil => rfl
  | cons pair pairs ih =>
    have hcomma : bytesOf (',' :: pairText pair) = utf8 "," ++ bytesOf (pairText pair) := by
      rw [← bytesOf_toList ",", ← bytesOf_append]
      rfl
    rw [List.flatMap_cons, bytesOf_append, hcomma, ih (index + 1), bytesOf_pairText]
    simp [pairsBytes]

/-- The array is written as the document. -/
theorem bytesOf_environmentText (pairs : List (String × ℕ)) : bytesOf (environmentText pairs) =
    arrayBytes (pairs.map fun pair => (utf8 pair.1, pair.2)) := by
  have hpairs : bytesOf (Python.commaSeparated (pairs.map pairText)) =
      pairsBytes 0 (pairs.map fun pair => (utf8 pair.1, pair.2)) := by
    cases pairs with
    | nil => rfl
    | cons pair pairs =>
      rw [List.map_cons, Python.commaSeparated_eq_flatMap, List.flatMap_map, bytesOf_append,
        bytesOf_pairText, bytesOf_pairs 0]
      rfl
  have htext : environmentText pairs =
      "[".toList ++ (Python.commaSeparated (pairs.map pairText) ++ "]".toList) := by
    rfl
  rw [htext, bytesOf_append, bytesOf_append, hpairs, bytesOf_toList, bytesOf_toList, arrayBytes]

/-- A NUL is escaped, so there is none in the document. -/
lemma nul_notMem_environmentText (pairs : List (String × ℕ)) :
    '\x00' ∉ environmentText pairs := by
  have hescape (c : Char) : '\x00' ∉ Python.escapeChar c := by
    unfold Python.escapeChar
    split
    next hquote => rcases hquote with rfl | rfl <;> decide
    next =>
      split
      next hcontrol =>
        have hdigits : ∀ n < 32, '\x00' ≠ Python.hexDigit (n / 16) ∧
            '\x00' ≠ Python.hexDigit (n % 16) := by decide
        have hdigit := hdigits c.toNat hcontrol
        simp [hdigit.1, hdigit.2]
      next hcontrol =>
        intro hmem
        rw [← List.mem_singleton.mp hmem] at hcontrol
        exact hcontrol (by decide)
  have hquoted (text : List Char) : '\x00' ∉ Python.quoted text := by
    simp [Python.quoted, hescape]
  have hpair (pair : String × ℕ) : '\x00' ∉ pairText pair := by
    simp [pairText, Python.commaSeparated, hquoted]
  cases pairs with
  | nil => decide
  | cons pair pairs =>
    simp [environmentText, Python.commaSeparated_eq_flatMap, hpair]

/-! ### Sorting -/

/-- The comparison of the strings at two indices is that of a total preorder. -/
lemma compares_strcmp {key : ℕ → List UInt8} (h : ∀ index, 0 ∉ key index) :
    Compares fun left right => decide (0 < strcmp (key left) (key right)) where
  asymm a b hab := by
    rw [decide_eq_true_eq, strcmp_pos_iff (h a) (h b)] at hab
    rw [decide_eq_false_iff_not, strcmp_pos_iff (h b) (h a)]
    exact lt_asymm hab
  trans a b c hab hbc := by
    rw [decide_eq_false_iff_not, strcmp_pos_iff (h _) (h _), not_lt] at hab hbc ⊢
    exact hab.trans hbc

/-- Indices in the order of the strings at them. -/
structure SortsIndices (key : ℕ → List UInt8) (count : ℕ) (indices : List ℕ) : Prop where
  perm : indices.Perm (List.range count)
  ordered : indices.Pairwise fun left right => sortKey (key left) ≤ sortKey (key right)

lemma ordered_iff {key : ℕ → List UInt8} (h : ∀ index, 0 ∉ key index) {indices : List ℕ} :
    Ordered (fun left right => decide (0 < strcmp (key left) (key right))) indices ↔
      indices.Pairwise fun left right => sortKey (key left) ≤ sortKey (key right) := by
  have hle (left right : ℕ) : decide (0 < strcmp (key left) (key right)) = false ↔
      sortKey (key left) ≤ sortKey (key right) := by
    rw [decide_eq_false_iff_not, strcmp_pos_iff (h _) (h _), not_lt]
  exact ⟨fun hall => hall.imp fun {_ _} hab => (hle _ _).mp hab,
    fun hall => hall.imp fun {_ _} hab => (hle _ _).mpr hab⟩

/-- No string in the array has a NUL, and neither has the default. -/
lemma noNul_getD {α : Type} {cells : List α} {default : α} {id : α → List UInt8}
    (hcells : ∀ cell ∈ cells, 0 ∉ id cell) (hdefault : 0 ∉ id default) (index : ℕ) :
    0 ∉ id (cells.getD index default) := by
  rw [List.getD_eq_getElem?_getD]
  cases hget : cells[index]? with
  | none => exact hdefault
  | some cell => exact hcells cell (List.mem_of_getElem? hget)

/-- `sort_indices` sorts the indices of the results. -/
lemma sortIndices_sorts {response : QsgpReserveResponse}
    (hids : ∀ result ∈ response.results, 0 ∉ result.serviceId) (hne : response.results ≠ []) :
    SortsIndices (fun index => (response.results.getD index {}).serviceId)
      response.results.length (sortIndices response (List.range response.results.length)) := by
  have hnul := noNul_getD hids (show 0 ∉ ({} : QsgpServiceResult).serviceId by decide)
  obtain ⟨count, hcount⟩ : ∃ count, response.results.length = count + 1 :=
    ⟨response.results.length - 1, by
      have hpos := List.length_pos_iff.mpr hne
      omega⟩
  have hsplit : List.range response.results.length = [0] ++ (List.range count).map Nat.succ := by
    rw [hcount, List.range_succ_eq_map]
    rfl
  have hsort := (compares_strcmp hnul).sortFrom [0] ((List.range count).map Nat.succ)
    (List.pairwise_singleton _ _)
  rw [← hsplit] at hsort
  have hlength : (List.range response.results.length).length - 1 =
      ((List.range count).map Nat.succ).length := by
    rw [List.length_range, hcount, List.length_map, List.length_range]
    rfl
  rw [sortIndices, hlength]
  exact ⟨hsort.1, (ordered_iff hnul).mp hsort.2⟩

/-- The first loop of `qfw_lookup_reservations_json` sorts the indices of the reservations. -/
lemma lookupIndices_sorts {response : QsgpGetReservationsResponse}
    (hids : ∀ reservation ∈ response.reservations, 0 ∉ reservation.serviceId)
    {indices : List ℕ} {reservations : List QsgpReservation}
    (hvalid : ∀ reservation ∈ reservations,
      reservation.serviceId ≠ [] ∧ reservation.reservationId ≠ 0)
    (h : SortsIndices (fun index => (response.reservations.getD index {}).serviceId)
      indices.length indices) :
    ∃ sorted, lookupIndices response indices reservations = some sorted ∧
      SortsIndices (fun index => (response.reservations.getD index {}).serviceId)
        (indices.length + reservations.length) sorted := by
  have hnul := noNul_getD hids (show 0 ∉ ({} : QsgpReservation).serviceId by decide)
  induction reservations generalizing indices with
  | nil => exact ⟨indices, rfl, h⟩
  | cons reservation reservations ih =>
    obtain ⟨hid, hnonzero⟩ := hvalid reservation List.mem_cons_self
    obtain ⟨result, hresult, hswap⟩ :=
      (compares_strcmp hnul).swapDown indices indices.length []
    rw [List.append_nil] at hswap
    have hlength : result.length = indices.length + 1 := by
      rw [hresult.perm.length_eq, List.length_cons]
    have hsorted : SortsIndices (fun index => (response.reservations.getD index {}).serviceId)
        result.length result := by
      refine ⟨?_, (ordered_iff hnul).mp (hresult.ordered ((ordered_iff hnul).mpr h.ordered))⟩
      rw [hlength, List.range_succ]
      exact hresult.perm.trans ((h.perm.cons _).trans (List.perm_append_singleton _ _).symm)
    obtain ⟨sorted, hsome, hfinal⟩ :=
      ih (fun other hother => hvalid other (List.mem_cons_of_mem _ hother)) hsorted
    have hinvalid : ¬ (reservation.serviceId = [] ∨ reservation.reservationId = 0) :=
      not_or.mpr ⟨hid, hnonzero⟩
    refine ⟨sorted, ?_, ?_⟩
    · rw [lookupIndices, if_neg hinvalid]
      show lookupIndices response (swapDown (reservationAbove response) indices.length _) _ = _
      rw [← hsome]
      exact congrArg (lookupIndices response · reservations) hswap
    · rw [List.length_cons, show indices.length + (reservations.length + 1) =
        result.length + reservations.length by omega]
      exact hfinal

/-- Distinct strings have no equal neighbours. -/
lemma equalNeighbours_eq_false {ids : List (List UInt8)} (hnodup : ids.Nodup)
    (hnul : ∀ id ∈ ids, 0 ∉ id) : equalNeighbours ids = false := by
  induction ids with
  | nil => rfl
  | cons first ids ih =>
    rw [List.nodup_cons] at hnodup
    have hrest := ih hnodup.2 fun id hid => hnul id (List.mem_cons_of_mem _ hid)
    cases ids with
    | nil => rfl
    | cons second rest =>
      have hne : first ≠ second := fun h => hnodup.1 (h ▸ List.mem_cons_self)
      have hcompare : strcmp first second ≠ 0 := fun h => hne
        ((strcmp_eq_zero_iff (hnul first List.mem_cons_self)
          (hnul second (List.mem_cons_of_mem _ List.mem_cons_self))).mp h)
      rw [equalNeighbours, decide_eq_false hcompare, hrest]
      rfl

lemma map_getD_range {α β : Type} (cells : List α) (default : α) (f : α → β) :
    (List.range cells.length).map (fun index => f (cells.getD index default)) = cells.map f := by
  refine List.ext_getElem (by simp) fun index hleft hright => ?_
  rw [List.length_map, List.length_range] at hleft
  simp [List.getD_eq_getElem?_getD, hleft]

/-! ### The reservations -/

/-- The reservations of an allocation. -/
structure ReservationSet (pairs : List (String × ℕ)) : Prop where
  count : 0 < pairs.length ∧ pairs.length ≤ maxServices
  serviceIds : ∀ pair ∈ pairs, TextFits pair.1 maxServiceId
  distinct : (pairs.map Prod.fst).Nodup
  reservationIds : ∀ pair ∈ pairs, 0 < pair.2 ∧ pair.2 < 2 ^ 64

/-- A reservation as the native structures hold it. -/
def nativePair (pair : String × ℕ) : List UInt8 × ℕ := (utf8 pair.1, pair.2)

/-- The reserve response grants these reservations. -/
structure Grants (response : QsgpReserveResponse) (pairs : List (String × ℕ)) : Prop where
  decision : response.decision = admissionAccepted
  accepted : ∀ result ∈ response.results,
    result.decision = admissionAccepted ∧ result.hasReservationId = true
  pairs : (response.results.map fun result => (result.serviceId, result.reservationId)).Perm
    (pairs.map nativePair)

/-- The lookup response lists these reservations. -/
structure Lists (response : QsgpGetReservationsResponse) (pairs : List (String × ℕ)) : Prop where
  canonicalJobId : response.canonicalJobId ≠ 0
  pairs : (response.reservations.map fun reservation =>
    (reservation.serviceId, reservation.reservationId)).Perm (pairs.map nativePair)

/-- The order of the bytes of the service ids. -/
def idKey (pair : String × ℕ) : List ℕ := sortKey (utf8 pair.1)

/-- The reservations can be put into the order of their service ids. -/
lemma ReservationSet.exists_sorted {pairs : List (String × ℕ)} (h : ReservationSet pairs) :
    ∃ sorted : List (String × ℕ), sorted.Perm pairs ∧
      sorted.Pairwise fun left right => idKey left < idKey right := by
  have hperm := List.mergeSort_perm pairs fun left right => decide (idKey left ≤ idKey right)
  have hsorted := @List.pairwise_mergeSort _ (fun left right => decide (idKey left ≤ idKey right))
    (fun a b c hab hbc => by
      rw [decide_eq_true_eq] at hab hbc ⊢
      exact hab.trans hbc)
    (fun a b => by
      rw [Bool.or_eq_true, decide_eq_true_eq, decide_eq_true_eq]
      exact le_total _ _) pairs
  refine ⟨_, hperm, ?_⟩
  have hdistinct : (pairs.mergeSort fun left right => decide (idKey left ≤ idKey right)).Pairwise
      fun left right => left.1 ≠ right.1 :=
    List.pairwise_map.mp ((hperm.map Prod.fst).nodup_iff.mpr h.distinct)
  refine (hsorted.and hdistinct).imp fun {left right} hpair => ?_
  refine lt_of_le_of_ne (of_decide_eq_true hpair.1) fun heq => hpair.2 ?_
  exact utf8_injective (sortKey_injective heq)

/-- Sorted indices list the reservations in the order of their service ids, whatever order they are
stored in. -/
lemma SortsIndices.pairs_eq (pairAt : ℕ → List UInt8 × ℕ) {count : ℕ} {indices : List ℕ}
    (h : SortsIndices (fun index => (pairAt index).1) count indices)
    {pairs sorted : List (String × ℕ)} (hset : ReservationSet pairs)
    (hstored : ((List.range count).map pairAt).Perm (pairs.map nativePair))
    (hperm : sorted.Perm pairs)
    (hsorted : sorted.Pairwise fun left right => idKey left < idKey right) :
    indices.map pairAt = sorted.map nativePair := by
  have hsame : (indices.map pairAt).Perm (sorted.map nativePair) :=
    (h.perm.map pairAt).trans (hstored.trans (hperm.map nativePair).symm)
  have hleftOrder : (indices.map pairAt).Pairwise fun left right =>
      sortKey left.1 ≤ sortKey right.1 := List.pairwise_map.mpr h.ordered
  have hrightOrder : (sorted.map nativePair).Pairwise fun left right =>
      sortKey left.1 ≤ sortKey right.1 :=
    List.pairwise_map.mpr (hsorted.imp fun {_ _} hlt => le_of_lt hlt)
  refine List.Perm.eq_of_pairwise ?_ hleftOrder hrightOrder hsame
  rintro left right hleft hright hle hge
  -- two reservations of one service are the same
  obtain ⟨p, hp, rfl⟩ := List.mem_map.mp (hsame.mem_iff.mp hleft)
  obtain ⟨q, hq, rfl⟩ := List.mem_map.mp hright
  have hid : p.1 = q.1 := utf8_injective (sortKey_injective (le_antisymm hle hge))
  have hpq := List.inj_on_of_nodup_map hset.distinct (hperm.mem_iff.mp hp) (hperm.mem_iff.mp hq) hid
  rw [hpq]

/-- The document is left in the buffer where there is room for it; otherwise the function fails, and
leaves a string. -/
def WritesDocument (size : ℕ) (document : List Char) (buffer : List UInt8)
    (outcome : Except C.Stop (List UInt8)) : Prop :=
  if size < 3 then outcome = .error (.refused buffer)
  else if (bytesOf document).length < size then
    ∃ written, outcome = .ok written ∧ Terminated size written ∧ stringOf written = bytesOf document
  else ∃ left, outcome = .error (.refused left) ∧ Terminated size left

/-- A buffer of at least three bytes begins with the terminator once it is emptied. -/
lemma store_terminator {buffer : List UInt8} (h : buffer ≠ []) :
    store buffer 0 [0] = .ok (0 :: buffer.tail) := by
  obtain ⟨c, tail, rfl⟩ := List.exists_cons_of_ne_nil h
  simp [store]

/-- Both functions end with this: the array of the sorted pairs. -/
lemma writesDocument_appendArray {size : ℕ} {buffer : List UInt8} (hlength : buffer.length = size)
    (hsize : ¬ size < 3) (sorted : List (String × ℕ)) :
    WritesDocument size (environmentText sorted) buffer
      (appendArray size (sorted.map nativePair) (0 :: buffer.tail)) := by
  have hbytes : arrayBytes (sorted.map nativePair) = bytesOf (environmentText sorted) :=
    (bytesOf_environmentText sorted).symm
  have hnul : 0 ∉ arrayBytes (sorted.map nativePair) := by
    rw [hbytes, bytesOf, List.mem_flatMap]
    rintro ⟨c, hc, hzero⟩
    rw [zero_mem_utf8EncodeChar] at hzero
    exact nul_notMem_environmentText sorted (hzero ▸ hc)
  have hbuffer : (0 :: buffer.tail).length = size := by
    rw [List.length_cons, List.length_tail]
    omega
  obtain ⟨hfits, hfull⟩ := appendArray_spec hbuffer rfl hnul
  rw [hbytes] at hfits hfull
  unfold WritesDocument
  rw [if_neg hsize]
  split
  next hroom => exact hfits hroom
  next hroom => exact hfull (not_lt.mp hroom)

section Reservations

variable {pairs sorted : List (String × ℕ)} {size : ℕ} {buffer : List UInt8}

/-- A stored pair is a reservation of the set. -/
lemma ReservationSet.stored (hset : ReservationSet pairs) {stored : List (List UInt8 × ℕ)}
    (h : stored.Perm (pairs.map nativePair)) {pair : List UInt8 × ℕ} (hpair : pair ∈ stored) :
    0 ∉ pair.1 ∧ pair.1 ≠ [] ∧ pair.2 ≠ 0 := by
  obtain ⟨p, hp, rfl⟩ := List.mem_map.mp (h.mem_iff.mp hpair)
  have hfits := hset.serviceIds p hp
  refine ⟨hfits.plain, fun hnil => hfits.nonempty ?_, (hset.reservationIds p hp).1.ne'⟩
  exact utf8_injective hnil

/-- No two stored reservations have the same service. -/
lemma ReservationSet.nodup_sorted (hset : ReservationSet pairs) (hperm : sorted.Perm pairs) :
    ((sorted.map nativePair).map Prod.fst).Nodup := by
  have hnodup := (hperm.map Prod.fst).nodup_iff.mpr hset.distinct
  have hids := hnodup.map utf8_injective
  simpa [nativePair, Function.comp_def] using hids

/-- A reserve response with a granted set is written as the document. -/
theorem Grants.writesDocument {response : QsgpReserveResponse} (h : Grants response pairs)
    (hset : ReservationSet pairs) (hperm : sorted.Perm pairs)
    (hsorted : sorted.Pairwise fun left right => idKey left < idKey right)
    (hlength : buffer.length = size) :
    WritesDocument size (environmentText sorted) buffer
      (qfwReservationsJson response buffer size) := by
  have hcount : response.results.length = pairs.length := by
    have hperm := h.pairs.length_eq
    rwa [List.length_map, List.length_map] at hperm
  have hstored : ∀ result ∈ response.results,
      0 ∉ result.serviceId ∧ result.serviceId ≠ [] ∧ result.reservationId ≠ 0 :=
    fun result hresult => hset.stored h.pairs (List.mem_map_of_mem hresult)
  have hrange := map_getD_range response.results {} fun result =>
    (result.serviceId, result.reservationId)
  have hsorts := sortIndices_sorts (fun result hresult => (hstored result hresult).1)
    (List.length_pos_iff.mp (hcount ▸ hset.count.1))
  have hpairs := SortsIndices.pairs_eq (fun index =>
    ((response.results.getD index {}).serviceId, (response.results.getD index {}).reservationId))
    hsorts hset (hrange ▸ h.pairs) hperm hsorted
  unfold qfwReservationsJson
  by_cases hsize : size < 3
  · rw [if_pos (.inl hsize), WritesDocument, if_pos hsize]
  · have hchecks : ¬ (size < 3 ∨ response.decision ≠ admissionAccepted ∨
        response.results.length = 0 ∨ maxServices < response.results.length) := by
      have hbounds := hset.count
      rw [hcount]
      rintro (hlow | hdecision | hzero | hmany)
      · exact hsize hlow
      · exact hdecision h.decision
      · omega
      · omega
    have hgranted : ¬ response.results.any QsgpServiceResult.notGranted = true := by
      rw [List.any_eq_true]
      rintro ⟨result, hresult, hbad⟩
      obtain ⟨-, hid, hnonzero⟩ := hstored result hresult
      obtain ⟨hdecision, hhas⟩ := h.accepted result hresult
      simp [QsgpServiceResult.notGranted, hdecision, hhas, hid, hnonzero] at hbad
    have hbuffer : buffer ≠ [] := by
      rintro rfl
      rw [List.length_nil] at hlength
      omega
    have hwrites := writesDocument_appendArray hlength hsize sorted
    have hdistinct := hset.nodup_sorted hperm
    rw [← hpairs] at hwrites hdistinct
    have hnul : ∀ id ∈ ((sortIndices response (List.range response.results.length)).map fun index =>
        response.results.getD index {}).map QsgpServiceResult.serviceId, 0 ∉ id := by
      intro id hid
      simp only [List.mem_map, exists_exists_and_eq_and] at hid
      obtain ⟨index, -, rfl⟩ := hid
      exact noNul_getD (fun result hresult => (hstored result hresult).1)
        (show 0 ∉ ({} : QsgpServiceResult).serviceId by decide) index
    rw [List.map_map] at hdistinct
    have hneighbours := equalNeighbours_eq_false (by rw [List.map_map]; exact hdistinct) hnul
    rw [if_neg hchecks, store_terminator hbuffer]
    show WritesDocument size (environmentText sorted) buffer (if _ then _ else if _ then _ else _)
    rw [if_neg hgranted, hneighbours, if_neg Bool.false_ne_true, List.map_map]
    exact hwrites

/-- A lookup response that lists a set is written as the document. -/
theorem Lists.writesDocument {response : QsgpGetReservationsResponse} (h : Lists response pairs)
    (hset : ReservationSet pairs) (hperm : sorted.Perm pairs)
    (hsorted : sorted.Pairwise fun left right => idKey left < idKey right)
    (hlength : buffer.length = size) :
    WritesDocument size (environmentText sorted) buffer
      (qfwLookupReservationsJson response buffer size) := by
  have hcount : response.reservations.length = pairs.length := by
    have hperm := h.pairs.length_eq
    rwa [List.length_map, List.length_map] at hperm
  have hstored : ∀ reservation ∈ response.reservations, 0 ∉ reservation.serviceId ∧
      reservation.serviceId ≠ [] ∧ reservation.reservationId ≠ 0 :=
    fun reservation hreservation => hset.stored h.pairs (List.mem_map_of_mem hreservation)
  have hrange := map_getD_range response.reservations {} fun reservation =>
    (reservation.serviceId, reservation.reservationId)
  have hempty : SortsIndices (fun index => (response.reservations.getD index {}).serviceId)
      ([] : List ℕ).length [] := ⟨List.Perm.refl _, List.Pairwise.nil⟩
  obtain ⟨indices, hindices, hsorts⟩ := lookupIndices_sorts
    (fun reservation hreservation => (hstored reservation hreservation).1)
    (fun reservation hreservation => (hstored reservation hreservation).2) hempty
  rw [List.length_nil, Nat.zero_add] at hsorts
  have hpairs := SortsIndices.pairs_eq (fun index =>
    ((response.reservations.getD index {}).serviceId,
      (response.reservations.getD index {}).reservationId))
    hsorts hset (hrange ▸ h.pairs) hperm hsorted
  unfold qfwLookupReservationsJson
  by_cases hsize : size < 3
  · rw [if_pos (.inl hsize), WritesDocument, if_pos hsize]
  · have hchecks : ¬ (size < 3 ∨ response.canonicalJobId = 0 ∨
        response.reservations.length = 0 ∨ maxServices < response.reservations.length) := by
      have hbounds := hset.count
      rw [hcount]
      rintro (hlow | hjob | hzero | hmany)
      · exact hsize hlow
      · exact h.canonicalJobId hjob
      · omega
      · omega
    have hbuffer : buffer ≠ [] := by
      rintro rfl
      rw [List.length_nil] at hlength
      omega
    have hwrites := writesDocument_appendArray hlength hsize sorted
    have hdistinct := hset.nodup_sorted hperm
    rw [← hpairs] at hwrites hdistinct
    have hnul : ∀ id ∈ (indices.map fun index => response.reservations.getD index {}).map
        QsgpReservation.serviceId, 0 ∉ id := by
      intro id hid
      simp only [List.mem_map, exists_exists_and_eq_and] at hid
      obtain ⟨index, -, rfl⟩ := hid
      exact noNul_getD (fun reservation hreservation => (hstored reservation hreservation).1)
        (show 0 ∉ ({} : QsgpReservation).serviceId by decide) index
    rw [List.map_map] at hdistinct
    have hneighbours := equalNeighbours_eq_false (by rw [List.map_map]; exact hdistinct) hnul
    rw [if_neg hchecks, store_terminator hbuffer]
    show WritesDocument size (environmentText sorted) buffer (match lookupIndices _ _ _ with
      | none => _
      | some indices => _)
    rw [hindices]
    show WritesDocument size (environmentText sorted) buffer (if _ then _ else _)
    rw [hneighbours, if_neg Bool.false_ne_true, List.map_map]
    exact hwrites

end Reservations

/-! ### Room for the document -/

/-- `QFW_RESERVATIONS_ENV_SIZE` -/
def environmentSize : ℕ := 16384

/-- A text without quotes, backslashes and control characters. -/
def Unescaped (text : String) : Prop := ∀ c ∈ text.toList, c ≠ '"' ∧ c ≠ '\\' ∧ 32 ≤ c.toNat

instance Unescaped.decidable (text : String) : Decidable (Unescaped text) :=
  List.decidableBAll _ _

lemma length_quotedBytes {text : String} (h : Unescaped text) :
    (quotedBytes (utf8 text)).length = (utf8 text).length + 2 := by
  have hplain : ∀ c ∈ text.toList, Python.escapeChar c = [c] := by
    intro c hc
    obtain ⟨hquote, hslash, hcontrol⟩ := h c hc
    rw [Python.escapeChar, if_neg (not_or.mpr ⟨hquote, hslash⟩), if_neg (by omega)]
  rw [← bytesOf_quoted, Python.quoted, List.flatMap_congr hplain, List.flatMap_singleton']
  have hquotes : bytesOf ('"' :: (text.toList ++ ['"'])) =
      bytesOf ['"'] ++ (bytesOf text.toList ++ bytesOf ['"']) := by
    rw [← bytesOf_append, ← bytesOf_append]
    rfl
  rw [hquotes, bytesOf_toList, List.length_append, List.length_append]
  have hone : (bytesOf ['"']).length = 1 := by decide
  omega

/-- A number of 64 bits has at most 20 digits. -/
lemma length_quotedNumber {n : ℕ} (h : n < 2 ^ 64) :
    (utf8 ("\"" ++ toString n ++ "\"")).length ≤ 22 := by
  have hascii : ∀ n < 128, (String.utf8EncodeChar (Char.ofNat n)).length = 1 := by decide
  have hdigits : (Python.decimalText n).length ≤ 20 :=
    Nat.toDigits_length 10 n 20 (by decide) (h.trans (by decide))
  have hbytes : (bytesOf (Python.decimalText n)).length = (Python.decimalText n).length := by
    rw [bytesOf, List.length_flatMap, List.map_congr_left (g := fun _ => 1), List.map_const',
      List.sum_replicate, smul_eq_mul, mul_one]
    intro c hc
    have hdigit := Python.isJsonDigit_of_mem hc
    simp only [Python.isJsonDigit, Bool.and_eq_true, decide_eq_true_eq] at hdigit
    have hlength := hascii c.toNat (by omega)
    rwa [Char.ofNat_toNat] at hlength
  have hquoted : ("\"" ++ toString n ++ "\"").toList =
      "\"".toList ++ (Python.decimalText n ++ "\"".toList) := by
    rw [String.toList_append, String.toList_append, List.append_assoc, Python.decimalText,
      ← Nat.toList_repr]
    rfl
  rw [← bytesOf_toList, hquoted, bytesOf_append, bytesOf_append, List.length_append,
    List.length_append, hbytes]
  have hone : (bytesOf "\"".toList).length = 1 := by decide
  omega

/-- One pair takes at most 283 bytes, and the comma one. -/
lemma length_pairsBytes (pairs : List (String × ℕ)) (h : ∀ pair ∈ pairs,
    TextFits pair.1 maxServiceId ∧ pair.2 < 2 ^ 64 ∧ Unescaped pair.1) (index : ℕ) :
    (pairsBytes index (pairs.map nativePair)).length ≤ 284 * pairs.length := by
  have hone (text : String) (htext : text ∈ ["[", ",", "]"]) : (utf8 text).length = 1 := by
    fin_cases htext <;> decide
  induction pairs generalizing index with
  | nil => exact Nat.zero_le _
  | cons pair pairs ih =>
    obtain ⟨hfits, hnumber, hplain⟩ := h pair List.mem_cons_self
    have hrest := ih (fun other hother => h other (List.mem_cons_of_mem _ hother)) (index + 1)
    have hid := length_quotedBytes hplain
    have hdigits := length_quotedNumber hnumber
    have hbound : (utf8 pair.1).length ≤ 256 := hfits.bounded
    have hcomma : (if index ≠ 0 then utf8 "," else []).length ≤ 1 := by
      split
      · exact (hone "," (by decide)).le
      · exact Nat.zero_le _
    have hpair : (pairBytes (nativePair pair)).length ≤ 283 := by
      simp only [pairBytes, nativePair, List.length_append, hone "[" (by decide),
        hone "," (by decide), hone "]" (by decide), hid]
      omega
    rw [List.map_cons, pairsBytes, List.length_append, List.length_append, List.length_cons]
    omega

lemma ReservationSet.fits_environment {pairs sorted : List (String × ℕ)}
    (h : ReservationSet pairs) (hperm : sorted.Perm pairs)
    (hplain : ∀ pair ∈ pairs, Unescaped pair.1) :
    (bytesOf (environmentText sorted)).length < environmentSize := by
  have hlength := length_pairsBytes sorted (fun pair hpair =>
    ⟨h.serviceIds pair (hperm.mem_iff.mp hpair), (h.reservationIds pair (hperm.mem_iff.mp hpair)).2,
      hplain pair (hperm.mem_iff.mp hpair)⟩) 0
  have hcount : sorted.length ≤ 32 := hperm.length_eq ▸ h.count.2
  have hbrackets : (utf8 "[").length = 1 ∧ (utf8 "]").length = 1 := by decide
  have hbytes := bytesOf_environmentText sorted
  rw [hbytes, arrayBytes, List.length_append, List.length_append, hbrackets.1, hbrackets.2,
    environmentSize]
  have hsame : (sorted.map fun pair => (utf8 pair.1, pair.2)) = sorted.map nativePair := rfl
  rw [hsame]
  omega

/-- The length of the pairs after the first index: one comma for each. -/
lemma length_pairsBytes_succ (index : ℕ) (pairs : List (List UInt8 × ℕ)) :
    (pairsBytes (index + 1) pairs).length =
      (pairs.map fun pair => 1 + (pairBytes pair).length).sum := by
  have hcomma : (utf8 ",").length = 1 := by decide
  induction pairs generalizing index with
  | nil => rfl
  | cons pair pairs ih =>
    rw [pairsBytes, if_pos index.succ_ne_zero, List.length_append, List.length_append, ih, hcomma,
      List.map_cons, List.sum_cons, add_assoc]

/-- The length of the document does not depend on the order of the reservations. -/
lemma length_environmentText_perm {pairs sorted : List (String × ℕ)} (h : sorted.Perm pairs) :
    (bytesOf (environmentText sorted)).length = (bytesOf (environmentText pairs)).length := by
  have hlength (pairs : List (List UInt8 × ℕ)) (hne : pairs ≠ []) :
      (pairsBytes 0 pairs).length + 1 =
        (pairs.map fun pair => 1 + (pairBytes pair).length).sum := by
    obtain ⟨pair, pairs, rfl⟩ := List.exists_cons_of_ne_nil hne
    rw [pairsBytes, if_neg (not_not.mpr rfl), List.nil_append, List.length_append,
      length_pairsBytes_succ, List.map_cons, List.sum_cons]
    omega
  rw [bytesOf_environmentText, bytesOf_environmentText, arrayBytes, arrayBytes]
  simp only [List.length_append]
  by_cases hnil : pairs = []
  · rw [hnil] at h ⊢
    rw [List.perm_nil.mp h]
  · have hsorted : sorted ≠ [] := fun hempty => hnil (List.nil_perm.mp (hempty ▸ h))
    have hleft := hlength (sorted.map fun pair => (utf8 pair.1, pair.2)) (by simpa using hsorted)
    have hright := hlength (pairs.map fun pair => (utf8 pair.1, pair.2)) (by simpa using hnil)
    have hsum := ((h.map fun pair => (utf8 pair.1, pair.2)).map
      fun pair => 1 + (pairBytes pair).length).sum_eq
    omega

/-- The document of the reservations fits the environment with its terminator. -/
def FitsEnvironment (pairs : List (String × ℕ)) : Prop :=
  (bytesOf (environmentText pairs)).length < environmentSize

instance (pairs : List (String × ℕ)) : Decidable (FitsEnvironment pairs) :=
  inferInstanceAs (Decidable (_ < _))

lemma FitsEnvironment.perm {pairs sorted : List (String × ℕ)} (h : sorted.Perm pairs) :
    FitsEnvironment sorted ↔ FitsEnvironment pairs := by
  rw [FitsEnvironment, FitsEnvironment, length_environmentText_perm h]

/-! ### The canonical document -/

/-- Both functions write one document for a set of reservations: the array of its pairs in the order
of their service ids.  They write it in the same buffers and whatever the order in which they find
the reservations, and always with the size that the environment has if no service id needs an
escape. -/
theorem environment_canonical (pairs : List (String × ℕ)) (hset : ReservationSet pairs) :
    ∃ sorted : List (String × ℕ), sorted.Perm pairs ∧
      (sorted.Pairwise fun left right => idKey left < idKey right) ∧
      Python.loads (environmentText sorted) = some (environmentValue sorted) ∧
      ∀ response lookup, Grants response pairs → Lists lookup pairs →
        (∀ size buffer other, buffer.length = size → other.length = size →
          WritesDocument size (environmentText sorted) buffer
            (qfwReservationsJson response buffer size) ∧
          WritesDocument size (environmentText sorted) other
            (qfwLookupReservationsJson lookup other size)) ∧
        ((∀ pair ∈ pairs, Unescaped pair.1) → ∀ buffer other, buffer.length = environmentSize →
          other.length = environmentSize → ∃ written writtenOther,
            qfwReservationsJson response buffer environmentSize = .ok written ∧
            qfwLookupReservationsJson lookup other environmentSize = .ok writtenOther ∧
            stringOf written = stringOf writtenOther) := by
  obtain ⟨sorted, hperm, hsorted⟩ := hset.exists_sorted
  refine ⟨sorted, hperm, hsorted, (reads_environmentText sorted).loads,
    fun response lookup hgrants hlists =>
    ⟨fun size buffer other hbuffer hother => ?_, fun hplain buffer other hbuffer hother => ?_⟩⟩
  · exact ⟨hgrants.writesDocument hset hperm hsorted hbuffer,
      hlists.writesDocument hset hperm hsorted hother⟩
  · have hroom := hset.fits_environment hperm hplain
    have hreserve := hgrants.writesDocument hset hperm hsorted hbuffer
    have hlookup := hlists.writesDocument hset hperm hsorted hother
    rw [WritesDocument, if_neg (by decide), if_pos hroom] at hreserve hlookup
    obtain ⟨written, hwritten, -, htext⟩ := hreserve
    obtain ⟨writtenOther, hwrittenOther, -, htextOther⟩ := hlookup
    exact ⟨written, writtenOther, hwritten, hwrittenOther, htext.trans htextOther.symm⟩

/-- Two reservations as they are granted. -/
def sampleGrantingResponse : QsgpReserveResponse where
  requestId := 1
  decision := admissionAccepted
  results := [("qpm-b", 7), ("qpm-a", 12)].map fun pair =>
    { serviceId := utf8 pair.1, decision := admissionAccepted, reservationId := pair.2
      hasReservationId := true }

/-- The same reservations as they are looked up, in the other order. -/
def sampleListingResponse : QsgpGetReservationsResponse where
  requestId := 2
  canonicalJobId := 7
  reservations := [("qpm-a", 12), ("qpm-b", 7)].map fun pair => ⟨utf8 pair.1, pair.2⟩

/-- Both functions write the same text into the environment. -/
theorem environment_canonical_sample :
    ∃ sorted : List (String × ℕ), sorted.Perm [("qpm-b", 7), ("qpm-a", 12)] ∧
      (sorted.Pairwise fun left right => idKey left < idKey right) ∧
      Python.loads (environmentText sorted) = some (environmentValue sorted) ∧
      ∃ written writtenOther,
        qfwReservationsJson sampleGrantingResponse (List.replicate environmentSize 0)
          environmentSize = .ok written ∧
        qfwLookupReservationsJson sampleListingResponse (List.replicate environmentSize 0)
          environmentSize = .ok writtenOther ∧
        stringOf written = stringOf writtenOther := by
  have hgrants : Grants sampleGrantingResponse [("qpm-b", 7), ("qpm-a", 12)] :=
    ⟨rfl, by decide, List.Perm.refl _⟩
  have hlists : Lists sampleListingResponse [("qpm-b", 7), ("qpm-a", 12)] :=
    ⟨by decide, List.Perm.swap _ _ _⟩
  have hlength : (List.replicate environmentSize (0 : UInt8)).length = environmentSize :=
    List.length_replicate
  obtain ⟨sorted, hperm, hsorted, hloads, hwrites⟩ :=
    environment_canonical [("qpm-b", 7), ("qpm-a", 12)] ⟨by decide, by decide, by decide, by decide⟩
  obtain ⟨-, hsame⟩ := hwrites sampleGrantingResponse sampleListingResponse hgrants hlists
  exact ⟨sorted, hperm, hsorted, hloads, hsame (by decide) _ _ hlength hlength⟩

end QfwSlurm.Native
