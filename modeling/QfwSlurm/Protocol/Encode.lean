import QfwSlurm.Protocol.Messages
import QfwSlurm.Wire.Tlv

/-!
# Encoding responses

The encoders of `gateway/qfw_slurm_gateway/protocol.py` for the answers to release and reserve
requests.  Each checks the response, writes its parts as fields of type, length and value, and puts
them behind the frame header.

A response that passes its checks is `Sendable`: `encodeReleaseResponse_eq_ok_iff` says that these
are exactly the ones the encoder accepts, and which fields their frame holds.
-/

namespace QfwSlurm

open Wire

/-! ### Fields and message types -/

/-- The fields of QSGP messages. -/
inductive Field where
  | clusterName
  | canonicalJobId
  | heteroJobId
  | heteroComponent
  | jobUid
  | jobGid
  | serviceId
  | workloadKind
  | walltimeNs
  | circuitCount
  | maxQubits
  | maxDepth
  | maxShots
  | maxOneQGates
  | maxTwoQGates
  | maxMeasurements
  | reservationId
  | releaseReason
  | admissionDecision
  | reasonCode
  | retryAfterNs
  | diagnostic
  | qpmRuntimeId
  | qpmGeneration
  | reservationState
  | requestId
  | serviceRequest
  | estimatedStartNs
  | estimatedFinishNs
  | gatewayErrorCode
  | serviceResult
  | releaseResult
  | observedJobId
  | reservation
  deriving DecidableEq

namespace Field

/-- All fields, in the order of their codes. -/
def all : List Field :=
  [clusterName, canonicalJobId, heteroJobId, heteroComponent, jobUid, jobGid, serviceId,
    workloadKind, walltimeNs, circuitCount, maxQubits, maxDepth, maxShots, maxOneQGates,
    maxTwoQGates, maxMeasurements, reservationId, releaseReason, admissionDecision, reasonCode,
    retryAfterNs, diagnostic, qpmRuntimeId, qpmGeneration, reservationState, requestId,
    serviceRequest, estimatedStartNs, estimatedFinishNs, gatewayErrorCode, serviceResult,
    releaseResult, observedJobId, reservation]

/-- The type of the field on the wire. -/
def code : Field → ℕ
  | clusterName => 0x0001
  | canonicalJobId => 0x0002
  | heteroJobId => 0x0003
  | heteroComponent => 0x0004
  | jobUid => 0x0005
  | jobGid => 0x0006
  | serviceId => 0x0007
  | workloadKind => 0x0008
  | walltimeNs => 0x0009
  | circuitCount => 0x000A
  | maxQubits => 0x000B
  | maxDepth => 0x000C
  | maxShots => 0x000D
  | maxOneQGates => 0x000E
  | maxTwoQGates => 0x000F
  | maxMeasurements => 0x0010
  | reservationId => 0x0011
  | releaseReason => 0x0012
  | admissionDecision => 0x0013
  | reasonCode => 0x0014
  | retryAfterNs => 0x0015
  | diagnostic => 0x0016
  | qpmRuntimeId => 0x0017
  | qpmGeneration => 0x0018
  | reservationState => 0x0019
  | requestId => 0x001A
  | serviceRequest => 0x001B
  | estimatedStartNs => 0x001C
  | estimatedFinishNs => 0x001D
  | gatewayErrorCode => 0x001E
  | serviceResult => 0x001F
  | releaseResult => 0x0020
  | observedJobId => 0x0021
  | reservation => 0x0022

/-- `field.name` -/
def name : Field → String
  | clusterName => "CLUSTER_NAME"
  | canonicalJobId => "CANONICAL_JOB_ID"
  | heteroJobId => "HETERO_JOB_ID"
  | heteroComponent => "HETERO_COMPONENT"
  | jobUid => "JOB_UID"
  | jobGid => "JOB_GID"
  | serviceId => "SERVICE_ID"
  | workloadKind => "WORKLOAD_KIND"
  | walltimeNs => "WALLTIME_NS"
  | circuitCount => "CIRCUIT_COUNT"
  | maxQubits => "MAX_QUBITS"
  | maxDepth => "MAX_DEPTH"
  | maxShots => "MAX_SHOTS"
  | maxOneQGates => "MAX_ONE_Q_GATES"
  | maxTwoQGates => "MAX_TWO_Q_GATES"
  | maxMeasurements => "MAX_MEASUREMENTS"
  | reservationId => "RESERVATION_ID"
  | releaseReason => "RELEASE_REASON"
  | admissionDecision => "ADMISSION_DECISION"
  | reasonCode => "REASON_CODE"
  | retryAfterNs => "RETRY_AFTER_NS"
  | diagnostic => "DIAGNOSTIC"
  | qpmRuntimeId => "QPM_RUNTIME_ID"
  | qpmGeneration => "QPM_GENERATION"
  | reservationState => "RESERVATION_STATE"
  | requestId => "REQUEST_ID"
  | serviceRequest => "SERVICE_REQUEST"
  | estimatedStartNs => "ESTIMATED_START_NS"
  | estimatedFinishNs => "ESTIMATED_FINISH_NS"
  | gatewayErrorCode => "GATEWAY_ERROR_CODE"
  | serviceResult => "SERVICE_RESULT"
  | releaseResult => "RELEASE_RESULT"
  | observedJobId => "OBSERVED_JOB_ID"
  | reservation => "RESERVATION"

/-- `Field(value)`, `none` where Python raises `ValueError`. -/
def ofCode (value : ℕ) : Option Field :=
  all.find? (·.code = value)

@[simp] lemma ofCode_code (field : Field) : ofCode field.code = some field := by
  cases field <;> rfl

/-- The codes are the numbers from 1 to 34. -/
lemma code_bounds (field : Field) : 1 ≤ field.code ∧ field.code ≤ 0x22 := by
  cases field <;> decide

/-- Fields differ in their codes. -/
lemma code_injective : Function.Injective code := by
  intro first second h
  have hsame : ofCode first.code = ofCode second.code := by rw [h]
  simpa using hsame

@[simp] lemma code_inj {first second : Field} : first.code = second.code ↔ first = second :=
  code_injective.eq_iff

end Field

inductive MessageType where
  | reserveRequest
  | releaseRequest
  | evaluateRequest
  | getReservationsRequest
  | reserveResponse
  | releaseResponse
  | evaluateResponse
  | getReservationsResponse
  | errorResponse
  deriving DecidableEq

def MessageType.code : MessageType → ℕ
  | .reserveRequest => 0x0001
  | .releaseRequest => 0x0002
  | .evaluateRequest => 0x0003
  | .getReservationsRequest => 0x0004
  | .reserveResponse => 0x8001
  | .releaseResponse => 0x8002
  | .evaluateResponse => 0x8003
  | .getReservationsResponse => 0x8004
  | .errorResponse => 0x8FFF

/-! ### Writing fields -/

/-- `MAGIC` -/
def magic : List UInt8 := [0x51, 0x53, 0x47, 0x50]

/-- `VERSION_MAJOR` -/
def versionMajor : ℕ := 1

/-- `VERSION_MINOR` -/
def versionMinor : ℕ := 0

/-- `TLV_REQUIRED` -/
def tlvRequired : ℕ := 1

/-- A required field with its value. -/
def Field.tlv (field : Field) (value : List UInt8) : Tlv := ⟨field.code, tlvRequired, value⟩

@[simp] lemma Field.tlv_type (field : Field) (value : List UInt8) :
    (field.tlv value).type = field.code := rfl

/-- `_u32` -/
def u32 (field : Field) (value : ℤ) : Except PyError (List UInt8) := do
  return (field.tlv (bigEndian 4 (← uint value 32 field.name).toNat)).encode

/-- `_u64` -/
def u64 (field : Field) (value : ℤ) : Except PyError (List UInt8) := do
  return (field.tlv (bigEndian 8 (← uint value 64 field.name).toNat)).encode

/-- `_text` -/
def text (field : Field) (value : String) (maximum : ℕ) : Except PyError (List UInt8) := do
  return (field.tlv (← string value maximum field.name)).encode

/-- A field that is written only if its value is not `None`. -/
def optionalField {α : Type} (write : α → Except PyError (List UInt8)) :
    Option α → Except PyError (List UInt8)
  | none => .ok []
  | some value => write value

/-- A check of a value that may be `None`. -/
def checkOptional {α β : Type} (check : α → Except PyError β) : Option α → Except PyError Unit
  | none => .ok ()
  | some value => discard (check value)

/-- `HEADER.pack` -/
def headerBytes (messageType : MessageType) (correlationId payloadSize : ℕ) : List UInt8 :=
  magic ++ (bigEndian 2 versionMajor ++ (bigEndian 2 versionMinor ++
    (bigEndian 2 messageType.code ++ (bigEndian 2 0 ++ (bigEndian 4 headerSize ++
      (bigEndian 8 correlationId ++ (bigEndian 4 payloadSize ++ bigEndian 4 0)))))))

/-- The bytes of a frame. -/
def frameBytes (messageType : MessageType) (correlationId : ℕ) (payload : List UInt8) :
    List UInt8 :=
  headerBytes messageType correlationId payload.length ++ payload

lemma length_headerBytes (messageType : MessageType) (correlationId payloadSize : ℕ) :
    (headerBytes messageType correlationId payloadSize).length = headerSize := by
  simp [headerBytes, magic, headerSize]

/-- `_frame` -/
def frame (messageType : MessageType) (correlationId : ℤ) (payload : List UInt8) :
    Except PyError (List UInt8) := do
  let correlationId ← uint correlationId 64 "correlation_id" true
  if maxFrameSize - headerSize < payload.length then
    throw (protocolError "QSGP payload is too large")
  return frameBytes messageType correlationId.toNat payload

/-! ### Release responses -/

/-- `_encode_release_result` -/
def encodeReleaseResult (result : ReleaseResult) : Except PyError (List UInt8) := do
  let serviceId ← text .serviceId result.serviceId maxServiceId
  let reservationId ← u64 .reservationId result.reservationId
  let state ← u32 .reservationState result.state.code
  let gatewayError ← optionalField (u32 .gatewayErrorCode ·.code) result.gatewayError
  let diagnostic ← optionalField (text .diagnostic · maxDiagnostic) result.diagnostic
  let nested := serviceId ++ (reservationId ++ (state ++ (gatewayError ++ diagnostic)))
  return (Field.releaseResult.tlv nested).encode

/-- The checks `encode_release_response` makes on one result; a state and a gateway error are
members of their enumerations by their types. -/
def checkReleaseResult (item : ReleaseResult) : Except PyError Unit := do
  discard <| string item.serviceId maxServiceId "service_id"
  discard <| uint item.reservationId 64 "reservation_id" true
  checkOptional (string · maxDiagnostic "diagnostic") item.diagnostic

/-- The bytes of the results, one after the other. -/
def encodeReleaseResults : List ReleaseResult → Except PyError (List UInt8)
  | [] => .ok []
  | item :: items => do
    let first ← encodeReleaseResult item
    let rest ← encodeReleaseResults items
    return first ++ rest

/-- `encode_release_response` -/
def encodeReleaseResponse (response : ReleaseResponse) (correlationId : ℤ) :
    Except PyError (List UInt8) := do
  discard <| uint response.requestId 64 "request_id" true
  if maxServices < response.results.length then
    throw (protocolError "release response result count is invalid")
  if ¬ (response.results.map ReleaseResult.serviceId).Nodup then
    throw (protocolError "release response contains duplicate services")
  response.results.forM checkReleaseResult
  let requestId ← u64 .requestId response.requestId
  let results ← encodeReleaseResults response.results
  frame .releaseResponse correlationId (requestId ++ results)

/-! ### What the checks accept -/

/-- A text within its wire bound. -/
structure TextFits (value : String) (maximum : ℕ) : Prop where
  nonempty : value ≠ ""
  bounded : (utf8 value).length ≤ maximum
  plain : 0 ∉ utf8 value

instance (value : String) (maximum : ℕ) : Decidable (TextFits value maximum) :=
  decidable_of_iff (value ≠ "" ∧ (utf8 value).length ≤ maximum ∧ 0 ∉ utf8 value)
    ⟨fun ⟨h₁, h₂, h₃⟩ => ⟨h₁, h₂, h₃⟩, fun h => ⟨h.nonempty, h.bounded, h.plain⟩⟩

lemma string_eq_ok_iff {value : String} {maximum : ℕ} {label : String} {bytes : List UInt8} :
    string value maximum label = .ok bytes ↔ TextFits value maximum ∧ utf8 value = bytes := by
  unfold string
  split_ifs with hempty hbound
  · simpa using fun h : TextFits value maximum => absurd hempty h.nonempty
  · simp only [false_iff, not_and]
    rintro ⟨-, hlength, hplain⟩
    rcases hbound with hlong | hzero
    · exact absurd hlength (by omega)
    · exact absurd hzero hplain
  · push Not at hbound
    simpa using fun _ => TextFits.mk hempty hbound.1 hbound.2

lemma uint_eq_ok_iff {value : ℤ} {bits : ℕ} {label : String} {nonzero : Bool} {result : ℤ} :
    uint value bits label nonzero = .ok result ↔
      (0 ≤ value ∧ value < 2 ^ bits ∧ (nonzero → value ≠ 0)) ∧ value = result := by
  unfold uint
  split_ifs with h
  · simp only [false_iff, not_and]
    rintro ⟨hlow, hhigh, hzero⟩
    rcases h with h | h | ⟨hn, hv⟩
    · omega
    · omega
    · exact absurd hv (hzero hn)
  · push Not at h
    simpa using fun _ => ⟨h.1, h.2.1, h.2.2⟩

lemma checkOptional_eq_ok_iff {α β : Type} {check : α → Except PyError β} {value : Option α} :
    checkOptional check value = .ok () ↔ ∀ a ∈ value, ∃ b, check a = .ok b := by
  cases value with
  | none => simp [checkOptional]
  | some a => simp [checkOptional, discard_eq_ok_iff]

/-- A result that can be put on the wire. -/
structure ReleaseResult.Sendable (item : ReleaseResult) : Prop where
  serviceId : TextFits item.serviceId maxServiceId
  reservationId : 0 < item.reservationId ∧ item.reservationId < 2 ^ 64
  diagnostic : ∀ diagnostic ∈ item.diagnostic, TextFits diagnostic maxDiagnostic

/-- A release response that can be put on the wire: the bounds of the protocol, and one result for
each service. -/
structure ReleaseResponse.Sendable (response : ReleaseResponse) : Prop where
  requestId : 0 < response.requestId ∧ response.requestId < 2 ^ 64
  count : response.results.length ≤ maxServices
  distinct : (response.results.map ReleaseResult.serviceId).Nodup
  results : ∀ item ∈ response.results, item.Sendable

instance (item : ReleaseResult) : Decidable item.Sendable :=
  decidable_of_iff (TextFits item.serviceId maxServiceId ∧
      (0 < item.reservationId ∧ item.reservationId < 2 ^ 64) ∧
      ∀ diagnostic ∈ item.diagnostic, TextFits diagnostic maxDiagnostic)
    ⟨fun ⟨h₁, h₂, h₃⟩ => ⟨h₁, h₂, h₃⟩, fun h => ⟨h.serviceId, h.reservationId, h.diagnostic⟩⟩

instance (response : ReleaseResponse) : Decidable response.Sendable :=
  decidable_of_iff ((0 < response.requestId ∧ response.requestId < 2 ^ 64) ∧
      response.results.length ≤ maxServices ∧
      (response.results.map ReleaseResult.serviceId).Nodup ∧
      ∀ item ∈ response.results, item.Sendable)
    ⟨fun ⟨h₁, h₂, h₃, h₄⟩ => ⟨h₁, h₂, h₃, h₄⟩,
      fun h => ⟨h.requestId, h.count, h.distinct, h.results⟩⟩

/-- The checks on one result pass exactly when it can be put on the wire. -/
lemma checkReleaseResult_eq_ok_iff {item : ReleaseResult} :
    checkReleaseResult item = .ok () ↔ item.Sendable := by
  have hdiagnostic : checkOptional (string · maxDiagnostic "diagnostic") item.diagnostic = .ok () ↔
      ∀ diagnostic ∈ item.diagnostic, TextFits diagnostic maxDiagnostic := by
    simp [checkOptional_eq_ok_iff, string_eq_ok_iff]
  constructor
  · intro h
    obtain ⟨_, hservice, h⟩ := bind_eq_ok_iff.mp h
    obtain ⟨_, hid, h⟩ := bind_eq_ok_iff.mp h
    obtain ⟨_, hservice⟩ := discard_eq_ok_iff.mp hservice
    obtain ⟨_, hid⟩ := discard_eq_ok_iff.mp hid
    obtain ⟨⟨hlow, hhigh, hzero⟩, -⟩ := uint_eq_ok_iff.mp hid
    have hne : item.reservationId ≠ 0 := hzero rfl
    exact ⟨(string_eq_ok_iff.mp hservice).1, ⟨by omega, hhigh⟩, hdiagnostic.mp h⟩
  · rintro ⟨hservice, ⟨hlow, hhigh⟩, htext⟩
    have hid : uint item.reservationId 64 "reservation_id" true = .ok item.reservationId :=
      uint_eq_ok_iff.mpr ⟨⟨hlow.le, hhigh, fun _ => hlow.ne'⟩, rfl⟩
    refine bind_eq_ok_iff.mpr ⟨(), discard_eq_ok_iff.mpr ⟨_, string_eq_ok_iff.mpr ⟨hservice, rfl⟩⟩,
      bind_eq_ok_iff.mpr ⟨(), discard_eq_ok_iff.mpr ⟨_, hid⟩, hdiagnostic.mpr htext⟩⟩

/-! ### The fields of a frame -/

/-- The fields of an encoded result. -/
def ReleaseResult.tlvs (item : ReleaseResult) : List Tlv :=
  [Field.serviceId.tlv (utf8 item.serviceId),
    Field.reservationId.tlv (bigEndian 8 item.reservationId.toNat),
    Field.reservationState.tlv (bigEndian 4 item.state.code.toNat)] ++
  (item.gatewayError.toList.map fun error =>
    Field.gatewayErrorCode.tlv (bigEndian 4 error.code.toNat)) ++
  item.diagnostic.toList.map fun diagnostic => Field.diagnostic.tlv (utf8 diagnostic)

/-- The fields of an encoded response. -/
def ReleaseResponse.tlvs (response : ReleaseResponse) : List Tlv :=
  Field.requestId.tlv (bigEndian 8 response.requestId.toNat) ::
    response.results.map fun item => Field.releaseResult.tlv (encodeAll item.tlvs)

lemma u64_eq_ok {field : Field} {value : ℤ} (h : 0 ≤ value ∧ value < 2 ^ 64) :
    u64 field value = .ok (field.tlv (bigEndian 8 value.toNat)).encode := by
  have huint : uint value 64 field.name = .ok value :=
    uint_eq_ok_iff.mpr ⟨⟨h.1, h.2, nofun⟩, rfl⟩
  simp [u64, huint]

lemma u32_eq_ok {field : Field} {value : ℤ} (h : 0 ≤ value ∧ value < 2 ^ 32) :
    u32 field value = .ok (field.tlv (bigEndian 4 value.toNat)).encode := by
  have huint : uint value 32 field.name = .ok value :=
    uint_eq_ok_iff.mpr ⟨⟨h.1, h.2, nofun⟩, rfl⟩
  simp [u32, huint]

lemma text_eq_ok {field : Field} {value : String} {maximum : ℕ} (h : TextFits value maximum) :
    text field value maximum = .ok (field.tlv (utf8 value)).encode := by
  have hstring : string value maximum field.name = .ok (utf8 value) :=
    string_eq_ok_iff.mpr ⟨h, rfl⟩
  simp [text, hstring]

/-- An optional field is written as no field or as one. -/
lemma optionalField_eq_ok {α : Type} {write : α → Except PyError (List UInt8)}
    {tlv : α → Tlv} {value : Option α} (h : ∀ a ∈ value, write a = .ok (tlv a).encode) :
    optionalField write value = .ok (encodeAll (value.toList.map tlv)) := by
  cases value with
  | none => rfl
  | some a => simpa [optionalField] using h a rfl

lemma ReservationState.code_bounds (state : ReservationState) :
    1 ≤ state.code ∧ state.code ≤ 7 := by
  cases state <;> decide

lemma GatewayError.code_bounds (error : GatewayError) : 1 ≤ error.code ∧ error.code ≤ 11 := by
  cases error <;> decide

/-- A result that can be put on the wire is written as one field that holds its fields. -/
lemma encodeReleaseResult_eq_ok {item : ReleaseResult} (h : item.Sendable) :
    encodeReleaseResult item = .ok (Field.releaseResult.tlv (encodeAll item.tlvs)).encode := by
  have hid : u64 .reservationId item.reservationId = _ :=
    u64_eq_ok ⟨h.reservationId.1.le, h.reservationId.2⟩
  have hstate : u32 .reservationState item.state.code = _ :=
    u32_eq_ok (by have := item.state.code_bounds; omega)
  have herror : optionalField (fun error : GatewayError => u32 .gatewayErrorCode error.code)
      item.gatewayError = _ :=
    optionalField_eq_ok fun error _ => u32_eq_ok (by have := error.code_bounds; omega)
  have hdiagnostic : optionalField (fun value => text .diagnostic value maxDiagnostic)
      item.diagnostic = _ :=
    optionalField_eq_ok fun value hvalue => text_eq_ok (h.diagnostic value hvalue)
  simp only [encodeReleaseResult, text_eq_ok h.serviceId, hid, hstate, herror, hdiagnostic]
  simp [ReleaseResult.tlvs, bind, Except.bind, pure, Except.pure]

lemma encodeReleaseResults_eq_ok {items : List ReleaseResult} (h : ∀ item ∈ items, item.Sendable) :
    encodeReleaseResults items =
      .ok (encodeAll (items.map fun item => Field.releaseResult.tlv (encodeAll item.tlvs))) := by
  induction items with
  | nil => rfl
  | cons item items ih =>
    rw [encodeReleaseResults, encodeReleaseResult_eq_ok (h item List.mem_cons_self),
      ih fun other hother => h other (List.mem_cons_of_mem _ hother)]
    rfl

/-! ### The size of a frame -/

/-- A field takes at most eleven bytes more than its value. -/
lemma Field.length_tlv_le (field : Field) (value : List UInt8) :
    (field.tlv value).encode.length ≤ value.length + 11 := by
  have hpadding := padding_le value.length
  rw [Tlv.length_encode, tlvHeaderSize, Field.tlv]
  simp only
  omega

/-- The fields of a result that can be put on the wire. -/
lemma ReleaseResult.Sendable.length_tlvs_le {item : ReleaseResult} (h : item.Sendable) :
    (encodeAll item.tlvs).length ≤ 4500 := by
  have hservice := Field.serviceId.length_tlv_le (utf8 item.serviceId)
  have hid := Field.reservationId.length_tlv_le (bigEndian 8 item.reservationId.toNat)
  have hstate := Field.reservationState.length_tlv_le (bigEndian 4 item.state.code.toNat)
  have hbound := h.serviceId.bounded
  have herror : (encodeAll (item.gatewayError.toList.map fun error =>
      Field.gatewayErrorCode.tlv (bigEndian 4 error.code.toNat))).length ≤ 15 := by
    cases item.gatewayError with
    | none => simp
    | some error =>
      simpa using Field.gatewayErrorCode.length_tlv_le (bigEndian 4 error.code.toNat)
  have hdiagnostic : (encodeAll (item.diagnostic.toList.map fun diagnostic =>
      Field.diagnostic.tlv (utf8 diagnostic))).length ≤ maxDiagnostic + 11 := by
    cases hvalue : item.diagnostic with
    | none => simp
    | some diagnostic =>
      have hfits := (h.diagnostic diagnostic hvalue).bounded
      have hlength := Field.diagnostic.length_tlv_le (utf8 diagnostic)
      simp only [Option.toList_some, List.map_cons, List.map_nil, encodeAll_cons, encodeAll_nil,
        List.append_nil]
      omega
  simp only [length_bigEndian] at hid hstate
  simp only [ReleaseResult.tlvs, encodeAll_append, encodeAll_cons, encodeAll_nil,
    List.length_append, List.append_nil, maxServiceId, maxDiagnostic] at *
  omega

/-- Every release response that can be put on the wire fits a frame. -/
lemma ReleaseResponse.Sendable.length_tlvs_le {response : ReleaseResponse} (h : response.Sendable) :
    (encodeAll response.tlvs).length ≤ maxFrameSize - headerSize := by
  have hresults : ∀ items : List ReleaseResult, (∀ item ∈ items, item.Sendable) →
      (encodeAll (items.map fun item => Field.releaseResult.tlv (encodeAll item.tlvs))).length ≤
        4511 * items.length := by
    intro items hitems
    induction items with
    | nil => simp
    | cons item items ih =>
      have hitem := (hitems item List.mem_cons_self).length_tlvs_le
      have hfirst := Field.releaseResult.length_tlv_le (encodeAll item.tlvs)
      have hrest := ih fun other hother => hitems other (List.mem_cons_of_mem _ hother)
      simp only [List.map_cons, encodeAll_cons, List.length_append, List.length_cons]
      omega
  have hall := hresults response.results h.results
  have hcount := h.count
  have hid := Field.requestId.length_tlv_le (bigEndian 8 response.requestId.toNat)
  simp only [length_bigEndian] at hid
  simp only [ReleaseResponse.tlvs, encodeAll_cons, List.length_append, maxServices, maxFrameSize,
    headerSize] at *
  omega

lemma frame_eq_ok_iff {messageType : MessageType} {correlationId : ℤ} {payload bytes : List UInt8} :
    frame messageType correlationId payload = .ok bytes ↔
      (0 < correlationId ∧ correlationId < 2 ^ 64) ∧
        payload.length ≤ maxFrameSize - headerSize ∧
        frameBytes messageType correlationId.toNat payload = bytes := by
  rw [frame, bind_eq_ok_iff]
  constructor
  · rintro ⟨value, hid, h⟩
    obtain ⟨⟨hlow, hhigh, hzero⟩, rfl⟩ := uint_eq_ok_iff.mp hid
    have hne : correlationId ≠ 0 := hzero rfl
    split_ifs at h with hsize
    · exact absurd h (by simp [throw, throwThe, MonadExceptOf.throw, bind, Except.bind])
    · exact ⟨⟨by omega, hhigh⟩, by omega, by simpa [pure, Except.pure] using h⟩
  · rintro ⟨⟨hlow, hhigh⟩, hsize, rfl⟩
    refine ⟨correlationId, uint_eq_ok_iff.mpr ⟨⟨hlow.le, hhigh, fun _ => hlow.ne'⟩, rfl⟩, ?_⟩
    rw [if_neg (by omega)]
    rfl

/-- The encoder accepts exactly the responses that can be put on the wire, with a nonzero
correlation id, and frames their fields. -/
theorem encodeReleaseResponse_eq_ok_iff {response : ReleaseResponse} {correlationId : ℤ}
    {bytes : List UInt8} :
    encodeReleaseResponse response correlationId = .ok bytes ↔
      response.Sendable ∧ (0 < correlationId ∧ correlationId < 2 ^ 64) ∧
        frameBytes .releaseResponse correlationId.toNat (encodeAll response.tlvs) = bytes := by
  -- once the checks have passed, what is left is the frame
  have hpayload : response.Sendable →
      (do let requestId ← u64 .requestId response.requestId
          let results ← encodeReleaseResults response.results
          frame .releaseResponse correlationId (requestId ++ results)) =
        frame .releaseResponse correlationId (encodeAll response.tlvs) := by
    intro h
    rw [u64_eq_ok ⟨h.requestId.1.le, h.requestId.2⟩, encodeReleaseResults_eq_ok h.results]
    rfl
  constructor
  · intro h
    obtain ⟨_, hid, h⟩ := bind_eq_ok_iff.mp h
    obtain ⟨_, hid⟩ := discard_eq_ok_iff.mp hid
    obtain ⟨⟨hlow, hhigh, hzero⟩, -⟩ := uint_eq_ok_iff.mp hid
    have hne : response.requestId ≠ 0 := hzero rfl
    by_cases hcount : maxServices < response.results.length
    · rw [if_pos hcount] at h
      exact (nomatch h)
    by_cases hdistinct : (response.results.map ReleaseResult.serviceId).Nodup
    swap
    · rw [if_neg hcount, if_pos hdistinct] at h
      exact (nomatch h)
    rw [if_neg hcount, if_neg (not_not.mpr hdistinct)] at h
    obtain ⟨_, hitems, h⟩ := bind_eq_ok_iff.mp h
    have hsendable : response.Sendable :=
      ⟨⟨by omega, hhigh⟩, not_lt.mp hcount, hdistinct, fun item hitem =>
        checkReleaseResult_eq_ok_iff.mp (forM_eq_ok_iff.mp hitems item hitem)⟩
    rw [hpayload hsendable] at h
    obtain ⟨hcorrelation, -, hbytes⟩ := frame_eq_ok_iff.mp h
    exact ⟨hsendable, hcorrelation, hbytes⟩
  · rintro ⟨h, hcorrelation, hbytes⟩
    have hid : uint response.requestId 64 "request_id" true = .ok response.requestId :=
      uint_eq_ok_iff.mpr ⟨⟨h.requestId.1.le, h.requestId.2, fun _ => h.requestId.1.ne'⟩, rfl⟩
    have hitems : response.results.forM checkReleaseResult = .ok () :=
      forM_eq_ok_iff.mpr fun item hitem => checkReleaseResult_eq_ok_iff.mpr (h.results item hitem)
    refine bind_eq_ok_iff.mpr ⟨(), discard_eq_ok_iff.mpr ⟨_, hid⟩, ?_⟩
    rw [if_neg (not_lt.mpr h.count), if_neg (not_not.mpr h.distinct)]
    refine bind_eq_ok_iff.mpr ⟨(), hitems, ?_⟩
    rw [hpayload h]
    exact frame_eq_ok_iff.mpr ⟨hcorrelation, h.length_tlvs_le, hbytes⟩

end QfwSlurm
