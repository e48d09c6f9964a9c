import QfwSlurm.Protocol.Encode

/-!
# Decoding responses in the native client

The decoders of `src/protocol/qsgp_decode.c`.  A cursor over a byte string is the list of the bytes
that are left, character arrays are the bytes before their terminating NUL, and a result array with
its count is a list.  `Decoding` carries the word in which the decoders mark the fields they have
seen beside the message they fill in.

The client reads back every release response the gateway's encoder accepts
(`qsgpDecodeReleaseResponse_encode`).
-/

namespace QfwSlurm.Native

open Wire

/-! ### Reading fields -/

/-- The failures of `enum qsgp_status`. -/
inductive Status where
  | invalid
  | nomem
  | bounds
  | version
  | io
  | auth
  | timeout
  | conflict
  deriving DecidableEq

/-- `SIZE_MAX` -/
def sizeMax : ℕ := 2 ^ 64 - 1

/-- `qsgp_known_tlv` -/
def knownTlv (type : ℕ) : Bool :=
  Field.clusterName.code ≤ type ∧ type ≤ Field.reservation.code

/-- `qsgp_cursor_next` -/
def cursorNext : Reader Status := fun bytes =>
  if bytes = [] then .ok none
  else if bytes.length < tlvHeaderSize then .error .bounds
  else
    let type := ofBigEndian (slice 0 2 bytes)
    let flags := ofBigEndian (slice 2 2 bytes)
    let length := ofBigEndian (slice 4 4 bytes)
    let rest := bytes.drop tlvHeaderSize
    if sizeMax - padding length < length then .error .bounds
    else if rest.length < length + padding length then .error .bounds
    else if (slice length (padding length) rest).any (· ≠ 0) then .error .invalid
    else if flags &&& (2 ^ 32 - 1 - tlvRequired) ≠ 0 then .error .invalid
    else if ¬ knownTlv type ∧ flags &&& tlvRequired ≠ 0 then .error .version
    else .ok (some (⟨type, flags, rest.take length⟩, rest.drop (length + padding length)))

/-- `qsgp_tlv_u32` -/
def tlvU32 (tlv : Tlv) : Except Status ℕ :=
  if tlv.value.length ≠ 4 then .error .invalid else .ok (ofBigEndian tlv.value)

/-- `qsgp_tlv_u64` -/
def tlvU64 (tlv : Tlv) : Except Status ℕ :=
  if tlv.value.length ≠ 8 then .error .invalid else .ok (ofBigEndian tlv.value)

/-- `qsgp_tlv_string` -/
def tlvString (tlv : Tlv) (capacity : ℕ) : Except Status (List UInt8) :=
  if tlv.value.length = 0 ∨ capacity ≤ tlv.value.length ∨ 0 ∈ tlv.value then .error .invalid
  else .ok tlv.value

/-- `mark_once` -/
def markOnce (fields type : ℕ) : Except Status ℕ :=
  if 64 ≤ type then .error .invalid
  else if fields.testBit type then .error .conflict
  else .ok (fields ||| 1 <<< type)

/-- `field_present` -/
def fieldPresent (fields : ℕ) (field : Field) : Bool :=
  field.code < 64 ∧ fields.testBit field.code

/-- A message being filled in, and the fields seen so far. -/
structure Decoding (α : Type) where
  fields : ℕ := 0
  value : α

/-- The body of the loops over scalar fields: a field that is not known is skipped, any other is
marked and then read. -/
def fieldStep {α : Type} (read : α → Tlv → Except Status α) (state : Decoding α) (tlv : Tlv) :
    Except Status (Decoding α) :=
  if ¬ knownTlv tlv.type then .ok state
  else do
    let fields ← markOnce state.fields tlv.type
    let value ← read state.value tlv
    return ⟨fields, value⟩

/-- The body of the loops over messages with a repeated container, which is never marked. -/
def messageStep {α : Type} (container : Field) (append : α → Tlv → Except Status α)
    (read : α → Tlv → Except Status α) (state : Decoding α) (tlv : Tlv) :
    Except Status (Decoding α) :=
  if ¬ knownTlv tlv.type then .ok state
  else if tlv.type = container.code then do
    let value ← append state.value tlv
    return { state with value := value }
  else fieldStep read state tlv

/-! ### The header -/

structure QsgpHeader where
  majorVersion : ℕ
  minorVersion : ℕ
  messageType : ℕ
  flags : ℕ
  correlationId : ℕ
  payloadSize : ℕ
  deriving DecidableEq

/-- `qsgp_decode_header` -/
def qsgpDecodeHeader (data : List UInt8) : Except Status QsgpHeader :=
  if data.length < headerSize ∨ maxFrameSize < data.length then .error .invalid
  else if slice 0 4 data ≠ magic then .error .invalid
  else
    let header : QsgpHeader :=
      { majorVersion := ofBigEndian (slice 4 2 data)
        minorVersion := ofBigEndian (slice 6 2 data)
        messageType := ofBigEndian (slice 8 2 data)
        flags := ofBigEndian (slice 10 2 data)
        correlationId := ofBigEndian (slice 16 8 data)
        payloadSize := ofBigEndian (slice 24 4 data) }
    if header.majorVersion ≠ versionMajor ∨ versionMinor < header.minorVersion then
      .error .version
    else if header.flags ≠ 0 ∨ ofBigEndian (slice 12 4 data) ≠ headerSize ∨
        header.correlationId = 0 ∨ ofBigEndian (slice 28 4 data) ≠ 0 then .error .invalid
    else if header.payloadSize ≠ data.length - headerSize then .error .bounds
    else .ok header

/-- `decode_start`: the header and the payload. -/
def decodeStart (data : List UInt8) (expectedType : MessageType) :
    Except Status (QsgpHeader × List UInt8) := do
  let header ← qsgpDecodeHeader data
  if header.messageType ≠ expectedType.code then throw .invalid
  return (header, data.drop headerSize)

/-! ### Release responses -/

structure QsgpReleaseResult where
  serviceId : List UInt8 := []
  reservationId : ℕ := 0
  state : ℕ := 0
  gatewayError : ℕ := 0
  diagnostic : List UInt8 := []
  hasGatewayError : Bool := false
  hasDiagnostic : Bool := false
  deriving DecidableEq

structure QsgpReleaseResponse where
  requestId : ℕ := 0
  results : List QsgpReleaseResult := []
  deriving DecidableEq

/-- The cases of `decode_release_result`. -/
def readReleaseResult (result : QsgpReleaseResult) (tlv : Tlv) :
    Except Status QsgpReleaseResult :=
  match Field.ofCode tlv.type with
  | some .serviceId => do return { result with serviceId := ← tlvString tlv (maxServiceId + 1) }
  | some .reservationId => do return { result with reservationId := ← tlvU64 tlv }
  | some .reservationState => do return { result with state := ← tlvU32 tlv }
  | some .gatewayErrorCode => do
    return { result with gatewayError := ← tlvU32 tlv, hasGatewayError := true }
  | some .diagnostic => do
    return { result with diagnostic := ← tlvString tlv (maxDiagnostic + 1), hasDiagnostic := true }
  | _ => .error .invalid

/-- `decode_release_result` -/
def decodeReleaseResult (container : Tlv) : Except Status QsgpReleaseResult := do
  let ⟨fields, result⟩ ← scan cursorNext (fieldStep readReleaseResult) container.value ⟨0, {}⟩
  if ¬ fieldPresent fields .serviceId ∨ ¬ fieldPresent fields .reservationId ∨
      ¬ fieldPresent fields .reservationState ∨ result.reservationId = 0 ∨
      result.state < 1 ∨ 7 < result.state then
    throw .invalid
  return result

/-- The container case of `qsgp_decode_release_response`. -/
def appendReleaseResult (response : QsgpReleaseResponse) (tlv : Tlv) :
    Except Status QsgpReleaseResponse := do
  if maxServices ≤ response.results.length then throw .bounds
  let result ← decodeReleaseResult tlv
  return { response with results := response.results ++ [result] }

/-- The scalar case of `qsgp_decode_release_response`. -/
def readReleaseResponse (response : QsgpReleaseResponse) (tlv : Tlv) :
    Except Status QsgpReleaseResponse :=
  if tlv.type ≠ Field.requestId.code then .error .invalid
  else do return { response with requestId := ← tlvU64 tlv }

/-- `qsgp_decode_release_response` -/
def qsgpDecodeReleaseResponse (data : List UInt8) :
    Except Status (QsgpHeader × QsgpReleaseResponse) := do
  let (header, payload) ← decodeStart data .releaseResponse
  let ⟨fields, response⟩ ← scan cursorNext
    (messageStep .releaseResult appendReleaseResult readReleaseResponse) payload ⟨0, {}⟩
  if ¬ fieldPresent fields .requestId ∨ response.requestId = 0 then throw .invalid
  return (header, response)

/-! ### Scanning encoded fields -/

/-- The fields a cursor reads: optional ones of any type and required ones of a known type. -/
structure Readable (tlv : Tlv) : Prop where
  fits : tlv.Fits
  flags : tlv.flags = 0 ∨ tlv.flags = tlvRequired ∧ knownTlv tlv.type = true

/-- The cursor reads every readable field as it was written. -/
lemma accepts_cursorNext : Accepts cursorNext Readable where
  ends := rfl
  reads tlv rest h := by
    have hlength := h.fits.length
    have hpadding := padding_le tlv.value.length
    have hsize : (tlv.encode ++ rest).length =
        tlvHeaderSize + tlv.value.length + padding tlv.value.length + rest.length := by
      rw [List.length_append, Tlv.length_encode]
    have hne : tlv.encode ++ rest ≠ [] := by
      intro hnil
      rw [hnil, tlvHeaderSize, List.length_nil] at hsize
      omega
    have hslice : slice tlv.value.length (padding tlv.value.length)
        (tlv.value ++ (List.replicate (padding tlv.value.length) 0 ++ rest)) =
          List.replicate (padding tlv.value.length) 0 := by
      rw [slice_append_right le_rfl, Nat.sub_self, slice_append_left List.length_replicate]
    have hflags : tlv.flags &&& (2 ^ 32 - 1 - tlvRequired) = 0 ∧
        ¬ (¬ knownTlv tlv.type ∧ tlv.flags &&& tlvRequired ≠ 0) := by
      rcases h.flags with hflags | ⟨hflags, hknown⟩
      · simp [hflags]
      · simp [hflags, hknown, tlvRequired]
    rw [cursorNext, if_neg hne, if_neg (by omega)]
    simp only [h.fits.read_type, h.fits.read_flags, h.fits.read_length, Tlv.drop_encode]
    rw [if_neg (by rw [sizeMax]; omega), if_neg (by simp), hslice, if_neg (by simp),
      if_neg (not_not.mpr hflags.1), if_neg hflags.2, List.take_left' rfl, ← List.append_assoc,
      List.drop_left' (by simp)]

/-- Marking a list of fields. -/
def markAll (fields : ℕ) (tlvs : List Tlv) : ℕ :=
  tlvs.foldl (fun fields tlv => fields ||| 1 <<< tlv.type) fields

lemma testBit_markAll (fields : ℕ) (tlvs : List Tlv) (type : ℕ) :
    (markAll fields tlvs).testBit type = (fields.testBit type || tlvs.any (·.type = type)) := by
  induction tlvs generalizing fields with
  | nil => simp [markAll]
  | cons tlv tlvs ih =>
    have hstep : markAll fields (tlv :: tlvs) = markAll (fields ||| 1 <<< tlv.type) tlvs := rfl
    rw [hstep, ih, Nat.testBit_or, Nat.one_shiftLeft, Nat.testBit_two_pow, List.any_cons,
      Bool.or_assoc]

/-- A field is present when it is among those marked. -/
lemma fieldPresent_markAll (tlvs : List Tlv) (field : Field) :
    fieldPresent (markAll 0 tlvs) field = true ↔ field.code ∈ tlvs.map Tlv.type := by
  have hbound : field.code < 64 := by have := field.code_bounds; omega
  simp [fieldPresent, testBit_markAll, hbound]

lemma knownTlv_iff {type : ℕ} : knownTlv type = true ↔ 1 ≤ type ∧ type ≤ 0x22 :=
  decide_eq_true_iff

@[simp] lemma knownTlv_code (field : Field) : knownTlv field.code = true :=
  knownTlv_iff.mpr field.code_bounds

/-- Known fields of distinct types, none of them seen, are read in turn and marked. -/
lemma foldlM_fieldStep {α : Type} (read : α → Tlv → Except Status α) {tlvs : List Tlv}
    (hknown : ∀ tlv ∈ tlvs, knownTlv tlv.type = true) (hdistinct : (tlvs.map Tlv.type).Nodup)
    {fields : ℕ} (hnew : ∀ tlv ∈ tlvs, fields.testBit tlv.type = false) (value : α) :
    tlvs.foldlM (fieldStep read) ⟨fields, value⟩ =
      (tlvs.foldlM read value).map (Decoding.mk (markAll fields tlvs)) := by
  induction tlvs generalizing fields value with
  | nil => rfl
  | cons tlv tlvs ih =>
    have htype := hknown tlv List.mem_cons_self
    have hbound : tlv.type ≤ 0x22 := (knownTlv_iff.mp htype).2
    have hmark : markOnce fields tlv.type = .ok (fields ||| 1 <<< tlv.type) := by
      rw [markOnce, if_neg (by omega),
        if_neg (by simp [hnew tlv List.mem_cons_self])]
    rw [List.map_cons, List.nodup_cons] at hdistinct
    have hrest : ∀ other ∈ tlvs, (fields ||| 1 <<< tlv.type).testBit other.type = false := by
      intro other hother
      have hne : tlv.type ≠ other.type := fun h =>
        hdistinct.1 (h ▸ List.mem_map_of_mem hother)
      simp [Nat.testBit_or, hnew other (List.mem_cons_of_mem _ hother), Nat.one_shiftLeft, hne]
    have hall : markAll fields (tlv :: tlvs) = markAll (fields ||| 1 <<< tlv.type) tlvs := rfl
    rw [List.foldlM_cons, List.foldlM_cons, fieldStep, if_neg (by simp [htype]), hmark]
    cases hread : read value tlv with
    | error status => simp [bind, Except.bind, Except.map]
    | ok value' =>
      have := ih (fun other hother => hknown other (List.mem_cons_of_mem _ hother)) hdistinct.2
        hrest value'
      simpa [hall, bind, Except.bind, pure, Except.pure] using this

/-- A scalar field that was not seen is read and marked. -/
lemma messageStep_field {α : Type} {container field : Field} (hne : field ≠ container)
    (append : α → Tlv → Except Status α) {read : α → Tlv → Except Status α} {fields : ℕ}
    (hnew : fields.testBit field.code = false) {bytes : List UInt8} {value value' : α}
    (hread : read value (field.tlv bytes) = .ok value') :
    messageStep container append read ⟨fields, value⟩ (field.tlv bytes) =
      .ok ⟨fields ||| 1 <<< field.code, value'⟩ := by
  have hbound := field.code_bounds
  have hmark : markOnce fields field.code = .ok (fields ||| 1 <<< field.code) := by
    rw [markOnce, if_neg (by omega), if_neg (by simp [hnew])]
  rw [messageStep, if_neg (by simp), if_neg (by simpa using hne), fieldStep, if_neg (by simp),
    Field.tlv_type, hmark, hread]
  rfl

/-- Containers are appended in turn and leave the marks as they are. -/
lemma foldlM_messageStep {α : Type} (container : Field) (append read : α → Tlv → Except Status α)
    (values : List (List UInt8)) (fields : ℕ) (value : α) :
    (values.map container.tlv).foldlM (messageStep container append read) ⟨fields, value⟩ =
      ((values.map container.tlv).foldlM append value).map (Decoding.mk fields) := by
  induction values generalizing value with
  | nil => rfl
  | cons bytes values ih =>
    have hcontainer : (container.tlv bytes).type = container.code := rfl
    rw [List.map_cons, List.foldlM_cons, List.foldlM_cons, messageStep, if_neg (by simp),
      if_pos hcontainer]
    cases happend : append value (container.tlv bytes) with
    | error status => simp [bind, Except.bind, Except.map]
    | ok value' => simpa [bind, Except.bind, pure, Except.pure] using ih value'

/-! ### The header of a frame -/

lemma length_frameBytes (messageType : MessageType) (correlationId : ℕ) (payload : List UInt8) :
    (frameBytes messageType correlationId payload).length = headerSize + payload.length := by
  rw [frameBytes, List.length_append, length_headerBytes]

lemma MessageType.code_lt (messageType : MessageType) : messageType.code < 256 ^ 2 := by
  cases messageType <;> decide

/-- The header of a frame is read back, and what follows it is the payload. -/
lemma decodeStart_frameBytes (messageType : MessageType) {correlationId : ℕ}
    {payload : List UInt8} (hcorrelation : 0 < correlationId ∧ correlationId < 2 ^ 64)
    (hsize : payload.length ≤ maxFrameSize - headerSize) :
    decodeStart (frameBytes messageType correlationId payload) messageType =
      .ok (⟨versionMajor, versionMinor, messageType.code, 0, correlationId, payload.length⟩,
        payload) := by
  have hlength := length_frameBytes messageType correlationId payload
  have hbytes : payload.length < 256 ^ 4 := by
    rw [maxFrameSize, headerSize] at hsize
    omega
  have hheader : qsgpDecodeHeader (frameBytes messageType correlationId payload) =
      .ok ⟨versionMajor, versionMinor, messageType.code, 0, correlationId, payload.length⟩ := by
    rw [qsgpDecodeHeader, if_neg (by rw [hlength]; simp only [maxFrameSize, headerSize] at *; omega),
      hlength]
    have hmagic : magic.length = 4 := rfl
    simp (disch := simp [magic]) only [frameBytes, headerBytes, List.append_assoc,
      slice_append_right, slice_append_left, length_bigEndian, hmagic, Nat.reduceSub, Nat.sub_self]
    rw [ofBigEndian_bigEndian (MessageType.code_lt messageType), ofBigEndian_bigEndian hbytes,
      ofBigEndian_bigEndian (show correlationId < 256 ^ 8 by omega),
      ofBigEndian_bigEndian (show versionMajor < 256 ^ 2 by decide),
      ofBigEndian_bigEndian (show versionMinor < 256 ^ 2 by decide),
      ofBigEndian_bigEndian (show headerSize < 256 ^ 4 by decide),
      ofBigEndian_bigEndian (show 0 < 256 ^ 2 by decide),
      ofBigEndian_bigEndian (show 0 < 256 ^ 4 by decide)]
    simp [hcorrelation.1.ne']
  have hdrop : (frameBytes messageType correlationId payload).drop headerSize = payload :=
    List.drop_left' (length_headerBytes _ _ _)
  rw [decodeStart, hheader]
  simp [bind, Except.bind, pure, Except.pure, hdrop]

/-! ### Reading back what was written -/

section Values

variable {tlv : Tlv}

lemma tlvU64_bigEndian {value : ℕ} (htlv : tlv.value = bigEndian 8 value) (h : value < 2 ^ 64) :
    tlvU64 tlv = .ok value := by
  rw [tlvU64, htlv, if_neg (by simp), ofBigEndian_bigEndian (by omega)]

lemma tlvU32_bigEndian {value : ℕ} (htlv : tlv.value = bigEndian 4 value) (h : value < 2 ^ 32) :
    tlvU32 tlv = .ok value := by
  rw [tlvU32, htlv, if_neg (by simp), ofBigEndian_bigEndian (by omega)]

lemma tlvString_utf8 {value : String} {maximum : ℕ} (htlv : tlv.value = utf8 value)
    (h : TextFits value maximum) : tlvString tlv (maximum + 1) = .ok (utf8 value) := by
  have hne : (utf8 value).length ≠ 0 := by
    simpa [utf8] using h.nonempty
  have hbound := h.bounded
  rw [tlvString, htlv, if_neg]
  rintro (hempty | hlong | hzero)
  · exact hne hempty
  · omega
  · exact h.plain hzero

end Values

/-- Lists of required fields, as the gateway writes them. -/
def Written (tlvs : List Tlv) : Prop :=
  ∀ tlv ∈ tlvs, ∃ field : Field, tlv = field.tlv tlv.value

/-- A scan over fields the gateway wrote is a fold. -/
lemma Written.scan {σ : Type} {tlvs : List Tlv} (h : Written tlvs)
    (hsize : (encodeAll tlvs).length < 256 ^ 4) (step : σ → Tlv → Except Status σ) (state : σ) :
    scan cursorNext step (encodeAll tlvs) state = tlvs.foldlM step state := by
  refine scan_encodeAll step accepts_cursorNext tlvs (fun tlv htlv => ?_) state
  obtain ⟨field, hfield⟩ := h tlv htlv
  have htype : tlv.type = field.code := congrArg Tlv.type hfield
  have hflags : tlv.flags = tlvRequired := congrArg Tlv.flags hfield
  have hcode := field.code_bounds
  refine ⟨⟨by omega, by rw [hflags]; decide, lt_of_le_of_lt (length_value_le htlv) hsize⟩,
    .inr ⟨hflags, ?_⟩⟩
  rw [htype]
  exact knownTlv_code field

/-- Distinct scalar fields the gateway wrote are read in turn. -/
lemma Written.scan_fieldStep {α : Type} {tlvs : List Tlv} (h : Written tlvs)
    (hsize : (encodeAll tlvs).length < 256 ^ 4) (hdistinct : (tlvs.map Tlv.type).Nodup)
    (read : α → Tlv → Except Status α) (value : α) :
    Wire.scan cursorNext (fieldStep read) (encodeAll tlvs) ⟨0, value⟩ =
      (tlvs.foldlM read value).map (Decoding.mk (markAll 0 tlvs)) := by
  rw [h.scan hsize]
  refine foldlM_fieldStep read (fun tlv htlv => ?_) hdistinct (by simp) value
  obtain ⟨field, hfield⟩ := h tlv htlv
  rw [show tlv.type = field.code from congrArg Tlv.type hfield]
  exact knownTlv_code field

/-! ### Release responses that were encoded -/

/-- A result as the client receives it. -/
def received (item : ReleaseResult) : QsgpReleaseResult :=
  { serviceId := utf8 item.serviceId
    reservationId := item.reservationId.toNat
    state := item.state.code.toNat
    gatewayError := (item.gatewayError.map (·.code.toNat)).getD 0
    diagnostic := (item.diagnostic.map utf8).getD []
    hasGatewayError := item.gatewayError.isSome
    hasDiagnostic := item.diagnostic.isSome }

/-- A response as the client receives it. -/
def receivedRelease (response : ReleaseResponse) : QsgpReleaseResponse :=
  ⟨response.requestId.toNat, response.results.map received⟩

lemma written_releaseResult (item : ReleaseResult) : Written item.tlvs := by
  intro tlv htlv
  simp only [ReleaseResult.tlvs, List.mem_append, List.mem_cons, List.not_mem_nil, or_false,
    List.mem_map] at htlv
  rcases htlv with ((rfl | rfl | rfl) | ⟨_, _, rfl⟩) | ⟨_, _, rfl⟩ <;> exact ⟨_, rfl⟩

lemma nodup_releaseResult (item : ReleaseResult) : (item.tlvs.map Tlv.type).Nodup := by
  cases hgateway : item.gatewayError <;> cases hdiagnostic : item.diagnostic <;>
    simp [ReleaseResult.tlvs, hgateway, hdiagnostic, Field.tlv]

/-- The fields of a result that can be put on the wire are read back. -/
lemma foldlM_readReleaseResult {item : ReleaseResult} (h : item.Sendable) :
    item.tlvs.foldlM readReleaseResult {} = .ok (received item) := by
  have hservice : tlvString (Field.serviceId.tlv (utf8 item.serviceId)) (maxServiceId + 1) = _ :=
    tlvString_utf8 rfl h.serviceId
  have hid : tlvU64 (Field.reservationId.tlv (bigEndian 8 item.reservationId.toNat)) = _ :=
    tlvU64_bigEndian rfl (by have := h.reservationId; omega)
  have hstate : tlvU32 (Field.reservationState.tlv (bigEndian 4 item.state.code.toNat)) = _ :=
    tlvU32_bigEndian rfl (by have := item.state.code_bounds; omega)
  have herror : ∀ error : GatewayError,
      tlvU32 (Field.gatewayErrorCode.tlv (bigEndian 4 error.code.toNat)) = _ := fun error =>
    tlvU32_bigEndian rfl (by have := error.code_bounds; omega)
  have htext : ∀ text ∈ item.diagnostic,
      tlvString (Field.diagnostic.tlv (utf8 text)) (maxDiagnostic + 1) = _ := fun text hmem =>
    tlvString_utf8 rfl (h.diagnostic text hmem)
  rw [ReleaseResult.tlvs, received]
  cases hgateway : item.gatewayError <;> cases hdiagnostic : item.diagnostic <;>
    simp [readReleaseResult, hservice, hid, hstate, herror, htext, hdiagnostic, bind, Except.bind,
      pure, Except.pure]

/-- A result that can be put on the wire is decoded. -/
lemma decodeReleaseResult_tlv {item : ReleaseResult} (h : item.Sendable) :
    decodeReleaseResult (Field.releaseResult.tlv (encodeAll item.tlvs)) = .ok (received item) := by
  have hsize : (encodeAll item.tlvs).length < 256 ^ 4 := by
    have := h.length_tlvs_le
    omega
  have hscan := (written_releaseResult item).scan_fieldStep hsize (nodup_releaseResult item)
    readReleaseResult {}
  rw [foldlM_readReleaseResult h] at hscan
  have hpresent : ∀ field ∈ [Field.serviceId, .reservationId, .reservationState],
      fieldPresent (markAll 0 item.tlvs) field = true := by
    intro field hfield
    rw [fieldPresent_markAll]
    simp only [List.mem_cons, List.not_mem_nil, or_false] at hfield
    rcases hfield with rfl | rfl | rfl <;> simp [ReleaseResult.tlvs, Field.tlv]
  have hid : (received item).reservationId ≠ 0 := by
    have := h.reservationId.1
    simp only [received]
    omega
  have hstate : 1 ≤ (received item).state ∧ (received item).state ≤ 7 := by
    have := item.state.code_bounds
    simp only [received]
    omega
  rw [decodeReleaseResult, show (Field.releaseResult.tlv (encodeAll item.tlvs)).value =
    encodeAll item.tlvs from rfl, hscan]
  simp [Except.map, bind, Except.bind, pure, Except.pure, hpresent, hid, hstate]
  omega

/-- Results that can be put on the wire are appended in turn while there is room. -/
lemma foldlM_appendReleaseResult {items : List ReleaseResult} (h : ∀ item ∈ items, item.Sendable)
    (response : QsgpReleaseResponse) (hroom : response.results.length + items.length ≤ maxServices) :
    ((items.map fun item => encodeAll item.tlvs).map Field.releaseResult.tlv).foldlM
      appendReleaseResult response =
      .ok { response with results := response.results ++ items.map received } := by
  induction items generalizing response with
  | nil => simp [pure, Except.pure]
  | cons item items ih =>
    rw [List.length_cons] at hroom
    have happend : appendReleaseResult response (Field.releaseResult.tlv (encodeAll item.tlvs)) =
        .ok { response with results := response.results ++ [received item] } := by
      rw [appendReleaseResult, if_neg (by omega), decodeReleaseResult_tlv (h item List.mem_cons_self)]
      rfl
    have hrest := ih (fun other hother => h other (List.mem_cons_of_mem _ hother))
      { response with results := response.results ++ [received item] }
      (by rw [List.length_append, List.length_singleton]; omega)
    rw [List.map_cons, List.map_cons, List.foldlM_cons, happend]
    refine hrest.trans ?_
    simp

/-- The client reads back every release response that the gateway can encode. -/
theorem qsgpDecodeReleaseResponse_encode {response : ReleaseResponse} {correlationId : ℤ}
    {bytes : List UInt8} (h : encodeReleaseResponse response correlationId = .ok bytes) :
    qsgpDecodeReleaseResponse bytes =
      .ok (⟨versionMajor, versionMinor, MessageType.releaseResponse.code, 0, correlationId.toNat,
        (encodeAll response.tlvs).length⟩, receivedRelease response) := by
  obtain ⟨hsendable, ⟨hlow, hhigh⟩, rfl⟩ := encodeReleaseResponse_eq_ok_iff.mp h
  have hlength := hsendable.length_tlvs_le
  have hstart := decodeStart_frameBytes .releaseResponse
    (show 0 < correlationId.toNat ∧ correlationId.toNat < 2 ^ 64 by omega) hlength
  have hwritten : Written response.tlvs := by
    intro tlv htlv
    simp only [ReleaseResponse.tlvs, List.mem_cons, List.mem_map] at htlv
    rcases htlv with rfl | ⟨_, _, rfl⟩ <;> exact ⟨_, rfl⟩
  have hscan := hwritten.scan (by simp only [maxFrameSize, headerSize] at hlength; omega)
    (messageStep .releaseResult appendReleaseResult readReleaseResponse) ⟨0, {}⟩
  have hid : tlvU64 (Field.requestId.tlv (bigEndian 8 response.requestId.toNat)) = _ :=
    tlvU64_bigEndian rfl (by have := hsendable.requestId; omega)
  have hread : readReleaseResponse {}
      (Field.requestId.tlv (bigEndian 8 response.requestId.toNat)) =
        .ok ⟨response.requestId.toNat, []⟩ := by
    rw [readReleaseResponse, if_neg (by simp), hid]
    rfl
  have hfirst := messageStep_field (show Field.requestId ≠ .releaseResult by decide)
    appendReleaseResult (show Nat.testBit 0 _ = false by simp) hread
  have hresults := foldlM_messageStep .releaseResult appendReleaseResult
    readReleaseResponse (response.results.map fun item => encodeAll item.tlvs)
    (0 ||| 1 <<< Field.requestId.code) ⟨response.requestId.toNat, []⟩
  rw [foldlM_appendReleaseResult hsendable.results _ (by simpa using hsendable.count),
    List.map_map] at hresults
  have hne : response.requestId.toNat ≠ 0 := by
    have := hsendable.requestId.1
    omega
  have hpresent : ¬ (¬ fieldPresent (0 ||| 1 <<< Field.requestId.code) .requestId ∨
      (receivedRelease response).requestId = 0) := by
    rintro (hmissing | hzero)
    · exact hmissing (by decide)
    · exact hne hzero
  have hfold : response.tlvs.foldlM
      (messageStep .releaseResult appendReleaseResult readReleaseResponse) ⟨0, {}⟩ =
        .ok ⟨0 ||| 1 <<< Field.requestId.code, receivedRelease response⟩ := by
    rw [ReleaseResponse.tlvs, List.foldlM_cons, hfirst]
    exact hresults
  rw [qsgpDecodeReleaseResponse, hstart]
  simp only [bind, Except.bind]
  rw [hscan, hfold]
  simp only [if_neg hpresent, pure, Except.pure]

end QfwSlurm.Native
