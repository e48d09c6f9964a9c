import QfwSlurm.Protocol.Encode

/-!
# Reading messages in the gateway

The header and the payload of a frame as `gateway/qfw_slurm_gateway/protocol.py` reads them.  The
dictionary of scalar fields that `_collect` builds is a function from fields to the values present,
the dictionary of repeated fields one to their values in order.

`collect_eq_ok_iff` says what `_collect` makes of a payload in terms of the fields it encodes: it
accepts a payload when no scalar field occurs twice, and what it returns depends on the occurrences
of the known fields alone.
-/

namespace QfwSlurm

open Wire

/-! ### The header -/

/-- All message types. -/
def MessageType.all : List MessageType :=
  [.reserveRequest, .releaseRequest, .evaluateRequest, .getReservationsRequest, .reserveResponse,
    .releaseResponse, .evaluateResponse, .getReservationsResponse, .errorResponse]

/-- `MessageType(value)`, `none` where Python raises `ValueError`. -/
def MessageType.ofCode (value : ℕ) : Option MessageType :=
  all.find? (·.code = value)

@[simp] lemma MessageType.ofCode_code (messageType : MessageType) :
    ofCode messageType.code = some messageType := by
  cases messageType <;> rfl

/-- A type that was found has the code it was found by. -/
lemma MessageType.code_of_ofCode {value : ℕ} {messageType : MessageType}
    (h : ofCode value = some messageType) : messageType.code = value := by
  simpa using List.find?_some h

/-- A type that was found has the code it was found by. -/
lemma Field.code_of_ofCode {value : ℕ} {field : Field} (h : ofCode value = some field) :
    field.code = value := by
  simpa using List.find?_some h

structure Header where
  messageType : MessageType
  correlationId : ℤ
  payloadSize : ℤ
  majorVersion : ℤ := versionMajor
  minorVersion : ℤ := versionMinor
  deriving DecidableEq

/-- `if condition: raise ProtocolError(message)` -/
def refuseIf (condition : Prop) [Decidable condition] (message : String) : Except PyError Unit :=
  if condition then .error (protocolError message) else .ok ()

@[simp] lemma refuseIf_eq_ok_iff {condition : Prop} [Decidable condition] {message : String} :
    refuseIf condition message = .ok () ↔ ¬ condition := by
  unfold refuseIf
  split_ifs with h <;> simp [h]

/-- The end of `decode_header`: `MessageType(kind)`. -/
def messageTypeOf (kind : ℕ) : Except PyError MessageType :=
  match MessageType.ofCode kind with
  | none => .error (protocolError "QSGP message type is unsupported")
  | some messageType => .ok messageType

/-- `decode_header` -/
def decodeHeader (frame : List UInt8) : Except PyError Header := do
  refuseIf (¬ (headerSize ≤ frame.length ∧ frame.length ≤ maxFrameSize))
    "QSGP frame size is invalid"
  let major := ofBigEndian (slice 4 2 frame)
  let minor := ofBigEndian (slice 6 2 frame)
  let kind := ofBigEndian (slice 8 2 frame)
  let flags := ofBigEndian (slice 10 2 frame)
  let size := ofBigEndian (slice 12 4 frame)
  let correlation := ofBigEndian (slice 16 8 frame)
  let payloadSize := ofBigEndian (slice 24 4 frame)
  let reserved := ofBigEndian (slice 28 4 frame)
  refuseIf (slice 0 4 frame ≠ magic) "QSGP magic is invalid"
  refuseIf (major ≠ versionMajor ∨ versionMinor < minor) "QSGP version is unsupported"
  refuseIf (flags ≠ 0 ∨ size ≠ headerSize ∨ reserved ≠ 0)
    "QSGP header contains unsupported fields"
  discard <| uint correlation 64 "correlation_id" true
  refuseIf (payloadSize ≠ frame.length - headerSize) "QSGP payload size does not match the frame"
  let messageType ← messageTypeOf kind
  return ⟨messageType, correlation, payloadSize, major, minor⟩

/-! ### The payload -/

/-- One round of `_tlvs`: the next field and what follows it, `none` at the end.  The flags have
two bytes. -/
def tlvNext : Reader PyError := fun payload =>
  if payload = [] then .ok none
  else if payload.length < tlvHeaderSize then
    .error (protocolError "truncated QSGP TLV header")
  else
    let rawType := ofBigEndian (slice 0 2 payload)
    let flags := ofBigEndian (slice 2 2 payload)
    let length := ofBigEndian (slice 4 4 payload)
    let rest := payload.drop tlvHeaderSize
    if flags &&& (2 ^ 16 - 1 - tlvRequired) ≠ 0 then
      .error (protocolError "QSGP TLV flags are unsupported")
    else if rest.length < length + padding length then
      .error (protocolError "truncated QSGP TLV value")
    else if (slice length (padding length) rest).any (· ≠ 0) then
      .error (protocolError "QSGP TLV padding must be zero")
    else if Field.ofCode rawType = none ∧ flags &&& tlvRequired ≠ 0 then
      .error (protocolError "unknown required QSGP field")
    else .ok (some (⟨rawType, flags, rest.take length⟩, rest.drop (length + padding length)))

/-- The values of scalar fields, by field. -/
abbrev Scalars := Field → Option (List UInt8)

/-- The dictionaries `_collect` fills in. -/
structure Collected where
  scalar : Scalars := fun _ => none
  groups : Field → List (List UInt8) := fun _ => []

/-- The body of the loop of `_collect`. -/
def collectStep (repeated : List Field) (collected : Collected) (tlv : Tlv) :
    Except PyError Collected :=
  match Field.ofCode tlv.type with
  | none => .ok collected
  | some field =>
    if field ∈ repeated then
      .ok { collected with
        groups := Function.update collected.groups field (collected.groups field ++ [tlv.value]) }
    else if (collected.scalar field).isSome then
      .error (protocolError s!"duplicate scalar field {field.name}")
    else .ok { collected with scalar := Function.update collected.scalar field (some tlv.value) }

/-- `_collect` -/
def collect (payload : List UInt8) (repeated : List Field) : Except PyError Collected :=
  scan tlvNext (collectStep repeated) payload {}

/-! ### Values -/

/-- `_one` of a required field -/
def one (values : Scalars) (field : Field) : Except PyError (Option (List UInt8)) :=
  match values field with
  | none => .error (protocolError s!"missing required field {field.name}")
  | some value => .ok (some value)

/-- `_decode_u32` -/
def decodeU32 (value : Option (List UInt8)) (label : String) : Except PyError ℤ :=
  match value with
  | none => .error (protocolError s!"{label} must contain uint32")
  | some value =>
    if value.length ≠ 4 then .error (protocolError s!"{label} must contain uint32")
    else .ok (ofBigEndian value)

/-- `_decode_u64` -/
def decodeU64 (value : Option (List UInt8)) (label : String) : Except PyError ℤ :=
  match value with
  | none => .error (protocolError s!"{label} must contain uint64")
  | some value =>
    if value.length ≠ 8 then .error (protocolError s!"{label} must contain uint64")
    else .ok (ofBigEndian value)

/-- `value.decode("utf-8")`, `none` where Python raises `UnicodeDecodeError`. -/
def decodeUtf8 (value : List UInt8) : Option String :=
  String.fromUTF8? ⟨value.toArray⟩

/-- `_decode_text` -/
def decodeText (value : Option (List UInt8)) (maximum : ℕ) (label : String) :
    Except PyError String :=
  match value with
  | none => .error (protocolError s!"{label} is not a valid bounded string")
  | some value =>
    if value = [] ∨ maximum < value.length ∨ 0 ∈ value then
      .error (protocolError s!"{label} is not a valid bounded string")
    else
      match decodeUtf8 value with
      | none => .error (protocolError s!"{label} is not UTF-8")
      | some text => .ok text

/-- The value of a field that may be absent: decoded if it is there, else `None`. -/
def decodeOptional {α : Type} (decode : Option (List UInt8) → Except PyError α)
    (value : Option (List UInt8)) : Except PyError (Option α) :=
  match value with
  | none => .ok none
  | some value => do return some (← decode (some value))

/-- `tuple(decode(item) for item in items)` -/
def decodeEach {α : Type} (decode : List UInt8 → Except PyError α) :
    List (List UInt8) → Except PyError (List α)
  | [] => .ok []
  | item :: items => do
    let first ← decode item
    let rest ← decodeEach decode items
    return first :: rest

/-! ### What the readers accept -/

/-- The fields `_tlvs` reads: optional ones of any type and required ones of a known type. -/
structure Legible (tlv : Tlv) : Prop where
  fits : tlv.Fits
  flags : tlv.flags = 0 ∨ tlv.flags = tlvRequired ∧ (Field.ofCode tlv.type).isSome

/-- Fields that are written with their code are known. -/
lemma Field.legible {field : Field} {value : List UInt8} (h : value.length < 256 ^ 4) :
    Legible (field.tlv value) := by
  have hcode := field.code_bounds
  refine ⟨⟨?_, ?_, h⟩, .inr ⟨rfl, ?_⟩⟩
  · change field.code < 256 ^ 2
    omega
  · change tlvRequired < 256 ^ 2
    decide
  · simp

/-- Flags of two bytes are supported when they are the required bit or none. -/
lemma flags_supported_iff {flags : ℕ} (h : flags < 256 ^ 2) :
    flags &&& (2 ^ 16 - 1 - tlvRequired) = 0 ↔ flags = 0 ∨ flags = tlvRequired := by
  constructor
  · intro hand
    by_contra hother
    rw [tlvRequired] at hother
    -- a flag above the lowest bit is within the mask
    obtain ⟨i, hi⟩ := Nat.exists_testBit_of_ne_zero (show flags / 2 ≠ 0 by omega)
    rw [← Nat.testBit_add_one] at hi
    have hlt : i + 1 < 16 := by
      by_contra hge
      have hzero := Nat.testBit_lt_two_pow (x := flags) (i := i + 1)
        (h.trans_le (by rw [show 256 ^ 2 = 2 ^ 16 by norm_num]
                        exact Nat.pow_le_pow_right (by norm_num) (not_lt.mp hge)))
      rw [hzero] at hi
      exact absurd hi (by simp)
    have hbit := congrArg (Nat.testBit · (i + 1)) hand
    simp only [Nat.testBit_and, hi, Bool.true_and, Nat.zero_testBit] at hbit
    rw [show 2 ^ 16 - 1 - tlvRequired = 2 ^ 16 - (1 + 1) by decide,
      Nat.testBit_two_pow_sub_succ (by norm_num)] at hbit
    have hone : Nat.testBit 1 (i + 1) = false := by simp [Nat.testBit_add_one]
    simp [hlt, hone] at hbit
  · rintro (rfl | rfl) <;> decide

/-- The bytes before `offset + width` are those before `offset` and a slice. -/
lemma take_append_slice (offset width : ℕ) (bytes : List UInt8) :
    bytes.take offset ++ slice offset width bytes = bytes.take (offset + width) := by
  rw [slice, List.take_add]

/-- A byte string that starts with a header and has room for the value and zero padding starts with
the encoding of a field. -/
lemma eq_encode_of_read {payload : List UInt8} {length : ℕ}
    (hsize : tlvHeaderSize ≤ payload.length)
    (hlength : ofBigEndian (slice 4 4 payload) = length)
    (hroom : length + padding length ≤ (payload.drop tlvHeaderSize).length)
    (hpadding : ∀ byte ∈ slice length (padding length) (payload.drop tlvHeaderSize), byte = 0) :
    payload = (Tlv.mk (ofBigEndian (slice 0 2 payload)) (ofBigEndian (slice 2 2 payload))
      ((payload.drop tlvHeaderSize).take length)).encode ++
        (payload.drop tlvHeaderSize).drop (length + padding length) := by
  rw [tlvHeaderSize] at hsize
  have hvalue : ((payload.drop tlvHeaderSize).take length).length = length := by
    rw [List.length_take]
    omega
  have hzero : slice length (padding length) (payload.drop tlvHeaderSize) =
      List.replicate (padding length) 0 := by
    rw [List.eq_replicate_iff]
    exact ⟨length_slice hroom, hpadding⟩
  have hheader : slice 0 2 payload ++ (slice 2 2 payload ++ slice 4 4 payload) =
      payload.take tlvHeaderSize := by
    rw [slice_append_slice 2 2 4, slice_append_slice 0 2 6, slice, List.drop_zero, tlvHeaderSize]
  rw [Tlv.encode]
  simp only [hvalue]
  rw [bigEndian_slice (by omega), bigEndian_slice (by omega), ← hlength,
    bigEndian_slice (by omega), hlength, ← hzero]
  simp only [← List.append_assoc]
  rw [List.append_assoc (slice 0 2 payload), hheader, List.append_assoc (payload.take _),
    take_append_slice, List.append_assoc, List.take_append_drop, List.take_append_drop]

/-- The two readers of fields differ in the order of their checks and in their errors only: both
read the legible fields. -/
lemma reads_tlvNext : Reads tlvNext Legible where
  ends := rfl
  reads tlv rest h := by
    have hlength := h.fits.length
    have hsize : (tlv.encode ++ rest).length =
        tlvHeaderSize + tlv.value.length + padding tlv.value.length + rest.length := by
      rw [List.length_append, Tlv.length_encode]
    have hne : tlv.encode ++ rest ≠ [] := by
      intro hnil
      rw [hnil, tlvHeaderSize, List.length_nil] at hsize
      omega
    have hslice : slice tlv.value.length (padding tlv.value.length)
        (tlv.value ++ (List.replicate (padding tlv.value.length) 0 ++ rest)) =
          List.replicate (padding tlv.value.length) 0 := by
      rw [slice_append_right le_rfl, Nat.sub_self, slice_append_left List.length_replicate]
    have hsupported : tlv.flags &&& (2 ^ 16 - 1 - tlvRequired) = 0 :=
      (flags_supported_iff h.fits.flags).mpr (h.flags.imp_right And.left)
    have hknown : ¬ (Field.ofCode tlv.type = none ∧ tlv.flags &&& tlvRequired ≠ 0) := by
      rcases h.flags with hflags | ⟨-, hknown⟩
      · simp [hflags]
      · rintro ⟨hunknown, -⟩
        rw [hunknown] at hknown
        exact absurd hknown (by simp)
    rw [tlvNext, if_neg hne, if_neg (by omega)]
    simp only [h.fits.read_type, h.fits.read_flags, h.fits.read_length, Tlv.drop_encode]
    rw [if_neg (not_not.mpr hsupported), if_neg (by simp), hslice, if_neg (by simp),
      if_neg hknown, List.take_left' rfl, ← List.append_assoc, List.drop_left' (by simp)]
  empty {bytes} h := by
    by_contra hne
    simp only [tlvNext, if_neg hne] at h
    split_ifs at h
    exact absurd h (by simp)
  exact {bytes tlv rest} h := by
    simp only [tlvNext] at h
    split_ifs at h with hempty hheader hflags hroom hpadding hknown
    · exact absurd h (by simp)
    rw [not_not] at hflags
    simp only [Except.ok.injEq, Option.some.injEq, Prod.mk.injEq] at h
    obtain ⟨rfl, rfl⟩ := h
    have hshort : (slice 4 4 bytes).length ≤ 4 := by simp [slice]
    have hlength : ofBigEndian (slice 4 4 bytes) < 256 ^ 4 :=
      (ofBigEndian_lt _).trans_le (Nat.pow_le_pow_right (by norm_num) hshort)
    have htwo (offset : ℕ) : ofBigEndian (slice offset 2 bytes) < 256 ^ 2 :=
      (ofBigEndian_lt _).trans_le (Nat.pow_le_pow_right (by norm_num) (by simp [slice]))
    refine ⟨⟨⟨htwo 0, htwo 2, ?_⟩, ?_⟩, ?_⟩
    · exact lt_of_le_of_lt (by simp) hlength
    · rcases (flags_supported_iff (htwo 2)).mp hflags with hzero | hrequired
      · exact .inl hzero
      · refine .inr ⟨hrequired, ?_⟩
        by_contra hunknown
        refine hknown ⟨by simpa using hunknown, ?_⟩
        rw [hrequired]
        decide
    · refine eq_encode_of_read (not_lt.mp hheader) rfl (not_lt.mp hroom) ?_
      simpa using hpadding

/-! ### What a payload says -/

/-- The dictionaries for the values of each field. -/
def gathered (repeated : List Field) (values : Field → List (List UInt8)) : Collected where
  scalar field := if field ∈ repeated then none else (values field).head?
  groups field := if field ∈ repeated then values field else []

/-- A value of a repeated field is put behind the values before it. -/
lemma gathered_repeated {repeated : List Field} {field : Field} (h : field ∈ repeated)
    (values : Field → List (List UInt8)) (value : List UInt8) :
    { gathered repeated values with
      groups := Function.update (gathered repeated values).groups field
        ((gathered repeated values).groups field ++ [value]) } =
      gathered repeated (Function.update values field (values field ++ [value])) := by
  simp only [gathered, Collected.mk.injEq]
  refine ⟨funext fun other => ?_, funext fun other => ?_⟩
  all_goals
    rcases eq_or_ne other field with rfl | hne
    · simp [h]
    · simp [Function.update_of_ne hne]

/-- The only value of a scalar field is its value. -/
lemma gathered_scalar {repeated : List Field} {field : Field} (h : field ∉ repeated)
    {values : Field → List (List UInt8)} (hnone : values field = []) (value : List UInt8) :
    { gathered repeated values with
      scalar := Function.update (gathered repeated values).scalar field (some value) } =
      gathered repeated (Function.update values field (values field ++ [value])) := by
  simp only [gathered, Collected.mk.injEq]
  refine ⟨funext fun other => ?_, funext fun other => ?_⟩
  all_goals
    rcases eq_or_ne other field with rfl | hne
    · simp [h, hnone]
    · simp [Function.update_of_ne hne]

/-- A field that is not known is no occurrence of a known one. -/
lemma occurrences_unknown {tlv : Tlv} (h : Field.ofCode tlv.type = none) (tlvs : List Tlv)
    (field : Field) : occurrences (tlvs ++ [tlv]) field.code = occurrences tlvs field.code := by
  have hne : tlv.type ≠ field.code := by
    intro hcode
    rw [hcode, Field.ofCode_code] at h
    exact absurd h (by simp)
  rw [occurrences_append, occurrences_cons, if_neg hne, occurrences_nil, List.append_nil]

/-- A known field is one more occurrence of itself. -/
lemma occurrences_known {tlv : Tlv} {field : Field} (h : Field.ofCode tlv.type = some field)
    (tlvs : List Tlv) :
    (fun other : Field => occurrences (tlvs ++ [tlv]) other.code) =
      Function.update (fun other : Field => occurrences tlvs other.code) field
        (occurrences tlvs field.code ++ [tlv.value]) := by
  funext other
  rw [occurrences_append, occurrences_cons, occurrences_nil, ← Field.code_of_ofCode h]
  rcases eq_or_ne other field with rfl | hne
  · simp
  · rw [Function.update_of_ne hne, if_neg (by simpa using hne.symm), List.append_nil]

/-- The loop of `_collect` accepts a list of fields when no scalar one occurs twice, and gathers
the values of each field. -/
lemma foldlM_collectStep_iff {repeated : List Field} {tlvs : List Tlv} {collected : Collected} :
    tlvs.foldlM (collectStep repeated) {} = .ok collected ↔
      (∀ field ∉ repeated, (occurrences tlvs field.code).length ≤ 1) ∧
        collected = gathered repeated (occurrences tlvs ·.code) := by
  induction tlvs using List.reverseRecOn generalizing collected with
  | nil =>
    have hstart : ({} : Collected) = gathered repeated (occurrences [] ·.code) := by
      simp [gathered]
    simp only [List.foldlM_nil, pure, Except.pure, Except.ok.injEq, hstart, occurrences_nil,
      List.length_nil, Nat.zero_le, implies_true, true_and, eq_comm]
  | append_singleton tlvs tlv ih =>
    rw [List.foldlM_append, bind_eq_ok_iff]
    simp only [List.foldlM_cons, List.foldlM_nil, bind_pure, ih]
    cases htype : Field.ofCode tlv.type with
    | none =>
      simp only [occurrences_unknown htype, collectStep, htype, Except.ok.injEq]
      constructor
      · rintro ⟨_, ⟨honce, rfl⟩, rfl⟩
        exact ⟨honce, rfl⟩
      · rintro ⟨honce, rfl⟩
        exact ⟨_, ⟨honce, rfl⟩, rfl⟩
    | some field =>
      have hlast := occurrences_known htype tlvs
      have hat (other : Field) : occurrences (tlvs ++ [tlv]) other.code =
          Function.update (fun other : Field => occurrences tlvs other.code) field
            (occurrences tlvs field.code ++ [tlv.value]) other := congrFun hlast other
      simp only [collectStep, htype, hat]
      by_cases hrepeated : field ∈ repeated
      · have honce : (∀ other ∉ repeated, (Function.update
            (fun other : Field => occurrences tlvs other.code) field
              (occurrences tlvs field.code ++ [tlv.value]) other).length ≤ 1) ↔
            ∀ other ∉ repeated, (occurrences tlvs other.code).length ≤ 1 := by
          refine forall₂_congr fun other hnot => ?_
          rw [Function.update_of_ne (by rintro rfl; exact hnot hrepeated)]
        simp only [if_pos hrepeated, Except.ok.injEq, honce]
        constructor
        · rintro ⟨_, ⟨hall, rfl⟩, rfl⟩
          exact ⟨hall, gathered_repeated hrepeated _ _⟩
        · rintro ⟨hall, rfl⟩
          exact ⟨_, ⟨hall, rfl⟩, gathered_repeated hrepeated _ _⟩
      · -- a scalar field is accepted when it was not seen
        have hseen : ((gathered repeated (occurrences tlvs ·.code)).scalar field).isSome = true ↔
            occurrences tlvs field.code ≠ [] := by
          simp [gathered, hrepeated]
        simp only [if_neg hrepeated]
        constructor
        · rintro ⟨_, ⟨hall, rfl⟩, hstep⟩
          split_ifs at hstep with hne
          rw [hseen, ne_eq, not_not] at hne
          refine ⟨fun other hnot => ?_, ?_⟩
          · rcases eq_or_ne other field with rfl | hother
            · simp [hne]
            · rw [Function.update_of_ne hother]
              exact hall other hnot
          · rw [← gathered_scalar hrepeated hne]
            exact (Except.ok.inj hstep).symm
        · rintro ⟨hall, rfl⟩
          have hne : occurrences tlvs field.code = [] := by
            simpa using hall field hrepeated
          refine ⟨_, ⟨fun other hnot => ?_, rfl⟩, ?_⟩
          · rcases eq_or_ne other field with rfl | hother
            · simp [hne]
            · simpa [Function.update_of_ne hother] using hall other hnot
          · rw [if_neg (by rw [hseen]; simpa using hne), gathered_scalar hrepeated hne]

/-- `_collect` accepts the payloads that encode legible fields none of which is scalar and occurs
twice, and gathers the values of each field. -/
theorem collect_eq_ok_iff {payload : List UInt8} {repeated : List Field} {collected : Collected} :
    collect payload repeated = .ok collected ↔
      ∃ tlvs, (∀ tlv ∈ tlvs, Legible tlv) ∧ encodeAll tlvs = payload ∧
        (∀ field ∉ repeated, (occurrences tlvs field.code).length ≤ 1) ∧
          collected = gathered repeated (occurrences tlvs ·.code) := by
  rw [collect, reads_tlvNext.scan_eq_ok_iff]
  simp only [foldlM_collectStep_iff]

/-! ### Which values are accepted -/

/-- The decoder of UTF-8 is inverse to the encoder. -/
lemma decodeUtf8_eq_some_iff {value : List UInt8} {text : String} :
    decodeUtf8 value = some text ↔ utf8 text = value := by
  rw [decodeUtf8, String.fromUTF8?]
  constructor
  · intro h
    split_ifs at h with hvalid
    obtain rfl := Option.some.inj h
    rfl
  · rintro rfl
    have hbytes : (⟨(utf8 text).toArray⟩ : ByteArray) = text.toByteArray := rfl
    rw [hbytes, dif_pos text.isValidUTF8]
    rfl

/-- Texts differ in their bytes. -/
lemma utf8_injective : Function.Injective utf8 := by
  intro first second h
  have hfirst := decodeUtf8_eq_some_iff.mpr (rfl : utf8 first = utf8 first)
  rw [h, decodeUtf8_eq_some_iff.mpr rfl] at hfirst
  exact (Option.some.inj hfirst).symm

/-- A number of four bytes is the only one written as these bytes. -/
lemma decodeU32_eq_ok_iff {value : Option (List UInt8)} {label : String} {number : ℤ} :
    decodeU32 value label = .ok number ↔
      (0 ≤ number ∧ number < 2 ^ 32) ∧ value = some (bigEndian 4 number.toNat) := by
  constructor
  · intro h
    cases value with
    | none => exact (nomatch h)
    | some bytes =>
      simp only [decodeU32] at h
      split_ifs at h with hlength
      rw [ne_eq, not_not] at hlength
      obtain rfl := Except.ok.inj h
      have hlt := ofBigEndian_lt bytes
      have hbytes := bigEndian_ofBigEndian bytes
      rw [hlength] at hlt hbytes
      rw [Int.toNat_natCast, hbytes]
      exact ⟨by omega, rfl⟩
  · rintro ⟨hrange, rfl⟩
    rw [decodeU32, if_neg (by simp), ofBigEndian_bigEndian (by omega), Int.toNat_of_nonneg hrange.1]

/-- A number of eight bytes is the only one written as these bytes. -/
lemma decodeU64_eq_ok_iff {value : Option (List UInt8)} {label : String} {number : ℤ} :
    decodeU64 value label = .ok number ↔
      (0 ≤ number ∧ number < 2 ^ 64) ∧ value = some (bigEndian 8 number.toNat) := by
  constructor
  · intro h
    cases value with
    | none => exact (nomatch h)
    | some bytes =>
      simp only [decodeU64] at h
      split_ifs at h with hlength
      rw [ne_eq, not_not] at hlength
      obtain rfl := Except.ok.inj h
      have hlt := ofBigEndian_lt bytes
      have hbytes := bigEndian_ofBigEndian bytes
      rw [hlength] at hlt hbytes
      rw [Int.toNat_natCast, hbytes]
      exact ⟨by omega, rfl⟩
  · rintro ⟨hrange, rfl⟩
    rw [decodeU64, if_neg (by simp), ofBigEndian_bigEndian (by omega), Int.toNat_of_nonneg hrange.1]

/-- A text within its bound is the only one with its bytes. -/
lemma decodeText_eq_ok_iff {value : Option (List UInt8)} {maximum : ℕ} {label text : String} :
    decodeText value maximum label = .ok text ↔
      TextFits text maximum ∧ value = some (utf8 text) := by
  constructor
  · intro h
    cases value with
    | none => exact (nomatch h)
    | some bytes =>
      simp only [decodeText] at h
      split_ifs at h with hbound
      cases hdecode : decodeUtf8 bytes with
      | none =>
        rw [hdecode] at h
        exact (nomatch h)
      | some decoded =>
        rw [hdecode] at h
        obtain rfl := Except.ok.inj h
        obtain rfl := decodeUtf8_eq_some_iff.mp hdecode
        push Not at hbound
        exact ⟨⟨fun hempty => hbound.1 (utf8_eq_nil_iff.mpr hempty), hbound.2.1, hbound.2.2⟩, rfl⟩
  · rintro ⟨hfits, rfl⟩
    have hbound : ¬ (utf8 text = [] ∨ maximum < (utf8 text).length ∨ 0 ∈ utf8 text) := by
      rintro (hempty | hlong | hzero)
      · exact hfits.nonempty (utf8_eq_nil_iff.mp hempty)
      · exact absurd hfits.bounded (by omega)
      · exact hfits.plain hzero
    simp only [decodeText, if_neg hbound, decodeUtf8_eq_some_iff.mpr rfl]

/-- A field that may be absent is decoded when it is there. -/
lemma decodeOptional_eq_ok_iff {α : Type} {decode : Option (List UInt8) → Except PyError α}
    {value : Option (List UInt8)} {result : Option α} :
    decodeOptional decode value = .ok result ↔
      (value = none ∧ result = none) ∨
        ∃ bytes a, value = some bytes ∧ result = some a ∧ decode (some bytes) = .ok a := by
  cases value with
  | none => simp [decodeOptional, eq_comm]
  | some bytes =>
    rw [decodeOptional, bind_eq_ok_iff]
    constructor
    · rintro ⟨a, hdecode, hresult⟩
      exact .inr ⟨bytes, a, rfl, (Except.ok.inj hresult).symm, hdecode⟩
    · rintro (⟨hnone, -⟩ | ⟨_, a, hbytes, rfl, hdecode⟩)
      · exact absurd hnone (by simp)
      · obtain rfl := Option.some.inj hbytes
        exact ⟨a, hdecode, rfl⟩

lemma one_eq_ok_iff {values : Scalars} {field : Field} {value : Option (List UInt8)} :
    one values field = .ok value ↔ value.isSome ∧ values field = value := by
  unfold one
  cases h : values field with
  | none =>
    simp only [reduceCtorEq, false_iff, not_and]
    rintro hsome rfl
    exact absurd hsome (by simp)
  | some bytes =>
    constructor
    · rintro h
      obtain rfl := Except.ok.inj h
      exact ⟨rfl, rfl⟩
    · rintro ⟨-, rfl⟩
      rfl

/-- Each item is decoded in turn. -/
lemma decodeEach_eq_ok_iff {α : Type} {decode : List UInt8 → Except PyError α}
    {items : List (List UInt8)} {results : List α} :
    decodeEach decode items = .ok results ↔
      List.Forall₂ (fun item result => decode item = .ok result) items results := by
  induction items generalizing results with
  | nil => simp [decodeEach, eq_comm]
  | cons item items ih =>
    simp only [decodeEach, bind_eq_ok_iff, ih, pure, Except.pure, Except.ok.injEq,
      List.forall₂_cons_left_iff]
    constructor
    · rintro ⟨first, hfirst, rest, hrest, rfl⟩
      exact ⟨first, rest, hfirst, hrest, rfl⟩
    · rintro ⟨first, rest, hfirst, hrest, rfl⟩
      exact ⟨first, hfirst, rest, hrest, rfl⟩

/-! ### Which headers are accepted -/

/-- A frame of a message type with a nonzero correlation id and a payload within the bound. -/
structure Framed (messageType : MessageType) (correlationId : ℕ) (payload frame : List UInt8) :
    Prop where
  bytes : frame = frameBytes messageType correlationId payload
  correlation : 0 < correlationId ∧ correlationId < 2 ^ 64
  size : payload.length ≤ maxFrameSize - headerSize

section Header

variable {messageType : MessageType} {correlationId : ℕ} {payload frame : List UInt8}

lemma MessageType.code_lt_two_bytes (messageType : MessageType) : messageType.code < 256 ^ 2 := by
  cases messageType <;> decide

lemma Framed.length (h : Framed messageType correlationId payload frame) :
    frame.length = headerSize + payload.length := by
  rw [h.bytes, frameBytes, List.length_append, length_headerBytes]

lemma Framed.drop (h : Framed messageType correlationId payload frame) :
    frame.drop headerSize = payload := by
  rw [h.bytes]
  exact List.drop_left' (length_headerBytes _ _ _)

/-- What the parts of a frame's header stand for. -/
structure HeaderParts (messageType correlationId payloadSize : ℕ) (frame : List UInt8) : Prop where
  magic : slice 0 4 frame = magic
  major : ofBigEndian (slice 4 2 frame) = versionMajor
  minor : ofBigEndian (slice 6 2 frame) = versionMinor
  kind : ofBigEndian (slice 8 2 frame) = messageType
  flags : ofBigEndian (slice 10 2 frame) = 0
  headerSize : ofBigEndian (slice 12 4 frame) = headerSize
  correlation : ofBigEndian (slice 16 8 frame) = correlationId
  payloadSize : ofBigEndian (slice 24 4 frame) = payloadSize
  reserved : ofBigEndian (slice 28 4 frame) = 0

/-- The parts of a header that was written. -/
lemma Framed.parts (h : Framed messageType correlationId payload frame) :
    HeaderParts messageType.code correlationId payload.length frame := by
  have hbytes : payload.length < 256 ^ 4 := by
    have := h.size
    rw [maxFrameSize, headerSize] at this
    omega
  have hcorrelation : correlationId < 256 ^ 8 := by
    have := h.correlation.2
    omega
  have hmagic : QfwSlurm.magic.length = 4 := rfl
  constructor
  all_goals
    rw [h.bytes]
    simp (disch := simp [QfwSlurm.magic]) only [frameBytes, headerBytes, List.append_assoc,
      slice_append_right, slice_append_left, length_bigEndian, hmagic, Nat.reduceSub, Nat.sub_self]
  · exact ofBigEndian_bigEndian (by decide)
  · exact ofBigEndian_bigEndian (by decide)
  · exact ofBigEndian_bigEndian messageType.code_lt_two_bytes
  · exact ofBigEndian_bigEndian (by decide)
  · exact ofBigEndian_bigEndian (by decide)
  · exact ofBigEndian_bigEndian hcorrelation
  · exact ofBigEndian_bigEndian hbytes
  · exact ofBigEndian_bigEndian (by decide)

/-- A byte string whose header has these parts is the frame of what follows the header. -/
lemma HeaderParts.framed (h : HeaderParts messageType.code correlationId
      (frame.length - QfwSlurm.headerSize) frame)
    (hsize : QfwSlurm.headerSize ≤ frame.length ∧ frame.length ≤ maxFrameSize)
    (hcorrelation : correlationId ≠ 0) :
    Framed messageType correlationId (frame.drop QfwSlurm.headerSize) frame := by
  obtain ⟨hlow, hhigh⟩ := hsize
  have hrest : (frame.drop QfwSlurm.headerSize).length = frame.length - QfwSlurm.headerSize :=
    List.length_drop
  have hlt : correlationId < 2 ^ 64 := by
    have hread := ofBigEndian_lt (slice 16 8 frame)
    rw [h.correlation, length_slice (by rw [QfwSlurm.headerSize] at hlow; omega)] at hread
    exact hread
  refine ⟨?_, ⟨Nat.pos_of_ne_zero hcorrelation, hlt⟩, ?_⟩
  · -- each part of the header is the slice it was read from
    have hpart {offset width value : ℕ} (hread : ofBigEndian (slice offset width frame) = value)
        (hroom : offset + width ≤ 32) : bigEndian width value = slice offset width frame := by
      rw [QfwSlurm.headerSize] at hlow
      rw [← hread, bigEndian_slice (by omega)]
    rw [frameBytes, headerBytes, hrest, ← h.magic, hpart h.major (by decide),
      hpart h.minor (by decide), hpart h.kind (by decide), hpart h.flags (by decide),
      hpart h.headerSize (by decide), hpart h.correlation (by decide),
      hpart h.payloadSize (by decide), hpart h.reserved (by decide)]
    rw [slice_append_slice 24 4 4, slice_append_slice 16 8 8, slice_append_slice 12 4 16,
      slice_append_slice 10 2 20, slice_append_slice 8 2 22, slice_append_slice 6 2 24,
      slice_append_slice 4 2 26, slice_append_slice 0 4 28]
    exact (List.take_append_drop 32 frame).symm
  · rw [hrest]
    omega

/-- The gateway accepts the headers of well formed frames. -/
theorem decodeHeader_eq_ok_iff {header : Header} :
    decodeHeader frame = .ok header ↔
      ∃ correlationId payload, Framed header.messageType correlationId payload frame ∧
        header = ⟨header.messageType, correlationId, payload.length, versionMajor,
          versionMinor⟩ := by
  constructor
  · intro h
    obtain ⟨_, hsize, h⟩ := bind_eq_ok_iff.mp h
    obtain ⟨_, hmagic, h⟩ := bind_eq_ok_iff.mp h
    obtain ⟨_, hversion, h⟩ := bind_eq_ok_iff.mp h
    obtain ⟨_, hfields, h⟩ := bind_eq_ok_iff.mp h
    obtain ⟨_, hcorrelation, h⟩ := bind_eq_ok_iff.mp h
    obtain ⟨_, hpayload, h⟩ := bind_eq_ok_iff.mp h
    obtain ⟨messageType, htype, h⟩ := bind_eq_ok_iff.mp h
    rw [refuseIf_eq_ok_iff] at hsize hmagic hversion hfields hpayload
    obtain ⟨_, hcorrelation⟩ := discard_eq_ok_iff.mp hcorrelation
    obtain ⟨⟨-, -, hnonzero⟩, -⟩ := uint_eq_ok_iff.mp hcorrelation
    push Not at hsize hmagic hversion hfields hpayload
    have hkind : ofBigEndian (slice 8 2 frame) = messageType.code := by
      unfold messageTypeOf at htype
      cases hcode : MessageType.ofCode (ofBigEndian (slice 8 2 frame)) with
      | none =>
        rw [hcode] at htype
        exact (nomatch htype)
      | some found =>
        rw [hcode] at htype
        obtain rfl := Except.ok.inj htype
        exact (MessageType.code_of_ofCode hcode).symm
    have hparts : HeaderParts messageType.code (ofBigEndian (slice 16 8 frame))
        (frame.length - headerSize) frame :=
      ⟨hmagic, hversion.1, by have := hversion.2; rw [versionMinor] at *; omega, hkind, hfields.1,
        hfields.2.1, rfl, hpayload, hfields.2.2⟩
    have hne : ofBigEndian (slice 16 8 frame) ≠ 0 := by
      have := hnonzero rfl
      omega
    obtain rfl := Except.ok.inj h
    refine ⟨_, _, hparts.framed hsize hne, ?_⟩
    simp only [List.length_drop, hpayload, hversion.1, hparts.minor]
  · rintro ⟨correlationId, payload, hframed, hheader⟩
    have hparts := hframed.parts
    have hlength := hframed.length
    have hsize := hframed.size
    obtain ⟨hlow, hhigh⟩ := hframed.correlation
    have hid : uint (ofBigEndian (slice 16 8 frame)) 64 "correlation_id" true =
        .ok (correlationId : ℤ) := by
      rw [hparts.correlation]
      exact uint_eq_ok_iff.mpr ⟨⟨by omega, by exact_mod_cast hhigh, fun _ => by omega⟩, rfl⟩
    have htype : messageTypeOf (ofBigEndian (slice 8 2 frame)) = .ok header.messageType := by
      rw [hparts.kind, messageTypeOf, MessageType.ofCode_code]
    simp only [maxFrameSize, headerSize] at hlength hsize
    refine bind_eq_ok_iff.mpr ⟨(), refuseIf_eq_ok_iff.mpr ?_, ?_⟩
    · rw [not_not, headerSize, maxFrameSize]
      omega
    refine bind_eq_ok_iff.mpr ⟨(), refuseIf_eq_ok_iff.mpr ?_, ?_⟩
    · simp [hparts.magic]
    refine bind_eq_ok_iff.mpr ⟨(), refuseIf_eq_ok_iff.mpr ?_, ?_⟩
    · simp [hparts.major, hparts.minor]
    refine bind_eq_ok_iff.mpr ⟨(), refuseIf_eq_ok_iff.mpr ?_, ?_⟩
    · simp [hparts.flags, hparts.headerSize, hparts.reserved]
    refine bind_eq_ok_iff.mpr ⟨(), discard_eq_ok_iff.mpr ⟨_, hid⟩, ?_⟩
    refine bind_eq_ok_iff.mpr ⟨(), refuseIf_eq_ok_iff.mpr ?_, ?_⟩
    · rw [hparts.payloadSize, not_not, hlength, headerSize]
      omega
    refine bind_eq_ok_iff.mpr ⟨_, htype, ?_⟩
    rw [hheader, hparts.correlation, hparts.payloadSize, hparts.major, hparts.minor]
    rfl

end Header

end QfwSlurm
