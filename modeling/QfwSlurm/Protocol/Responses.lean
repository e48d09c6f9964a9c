import QfwSlurm.Protocol.Requests

/-!
# Responses on the wire

The encoders of `gateway/qfw_slurm_gateway/protocol.py` for the responses to evaluate, reserve and
get-reservations requests and for errors, `encode_response`, which writes any response, and the
decoder of get-reservations responses, which the gateway's own clients use.

As for requests, an encoder accepts the responses within their bounds (`ReserveResponse.Sendable`
and so on) and writes their contents; none of them fails for the size of the frame.
-/

namespace QfwSlurm

open Wire

/-! ### Admission responses -/

/-- The reservation id check of `_encode_service_result`. -/
def checkReservationId (result : ServiceResult) (reserve : Bool) : Except PyError Unit :=
  if reserve ∧ result.decision = .accepted then
    match result.reservationId with
    | none => .error (protocolError "reservation_id must be an unsigned integer")
    | some reservationId => discard (uint reservationId 64 "reservation_id" true)
  else refuseIf result.reservationId.isSome "result must not contain reservation_id"

/-- `_encode_service_result` -/
def encodeServiceResult (result : ServiceResult) (reserve : Bool) :
    Except PyError (List UInt8) := do
  let serviceId ← text .serviceId result.serviceId maxServiceId
  let decision ← u32 .admissionDecision result.decision.code
  let reasonCode ← u64 .reasonCode result.reasonCode
  let reservationId ← optionalField (u64 .reservationId ·) result.reservationId
  let retryAfterNs ← optionalField (u64 .retryAfterNs ·) result.retryAfterNs
  let estimatedStartNs ← optionalField (u64 .estimatedStartNs ·) result.estimatedStartNs
  let estimatedFinishNs ← optionalField (u64 .estimatedFinishNs ·) result.estimatedFinishNs
  let qpmRuntimeId ← optionalField (text .qpmRuntimeId · maxServiceId) result.qpmRuntimeId
  let qpmGeneration ← optionalField (u64 .qpmGeneration ·) result.qpmGeneration
  let diagnostic ← optionalField (text .diagnostic · maxDiagnostic) result.diagnostic
  checkReservationId result reserve
  let nested := serviceId ++ (decision ++ (reasonCode ++ (reservationId ++ (retryAfterNs ++
    (estimatedStartNs ++ (estimatedFinishNs ++ (qpmRuntimeId ++ (qpmGeneration ++
      diagnostic))))))))
  return (Field.serviceResult.tlv nested).encode

/-- The bytes of the results, one after the other. -/
def encodeServiceResults (reserve : Bool) : List ServiceResult → Except PyError (List UInt8)
  | [] => .ok []
  | item :: items => do
    let first ← encodeServiceResult item reserve
    let rest ← encodeServiceResults reserve items
    return first ++ rest

/-- The checks `_validate_admission_response` makes on one result; a decision is a member of its
enumeration by its type. -/
def checkServiceResult (item : ServiceResult) (reserve : Bool) : Except PyError Unit := do
  discard <| string item.serviceId maxServiceId "service_id"
  discard <| uint item.reasonCode 64 "reason_code"
  checkOptional (uint · 64 "reservation_id" true) item.reservationId
  refuseIf (¬ reserve ∧ item.reservationId.isSome) "evaluate result contains reservation_id"
  checkOptional (uint · 64 "qpm_generation") item.qpmGeneration
  checkOptional (string · maxServiceId "qpm_runtime_id") item.qpmRuntimeId
  checkOptional (string · maxDiagnostic "diagnostic") item.diagnostic

/-- The checks `_validate_admission_response` makes on the decisions. -/
def checkDecisions (decision : AdmissionDecision) (decisions : List AdmissionDecision) :
    Except PyError Unit := do
  refuseIf (decision = .accepted ∧
      ¬ (.accepted ∈ decisions ∧ ∀ other ∈ decisions, other = .accepted))
    "accepted response contains non-accepted result"
  refuseIf (decision = .rejected ∧ .rejected ∉ decisions)
    "rejected response lacks a rejected result"
  refuseIf (decision = .delayed ∧ (.delayed ∉ decisions ∨ .rejected ∈ decisions))
    "delayed response has inconsistent results"

/-- `_validate_admission_response` -/
def validateAdmissionResponse (response : ReserveResponse) (reserve : Bool) :
    Except PyError Unit := do
  discard <| uint response.requestId 64 "request_id" true
  refuseIf (¬ (0 < response.results.length ∧ response.results.length ≤ maxServices))
    "reserve response result count is invalid"
  refuseIf (¬ (response.results.map ServiceResult.serviceId).Nodup)
    "reserve response contains duplicate services"
  response.results.forM (checkServiceResult · reserve)
  checkDecisions response.decision (response.results.map ServiceResult.decision)

/-- `_encode_admission_response` -/
def encodeAdmissionResponse (response : ReserveResponse) (correlationId : ℤ)
    (messageType : MessageType) (reserve : Bool) : Except PyError (List UInt8) := do
  validateAdmissionResponse response reserve
  let requestId ← u64 .requestId response.requestId
  let decision ← u32 .admissionDecision response.decision.code
  let results ← encodeServiceResults reserve response.results
  frame messageType correlationId (requestId ++ (decision ++ results))

/-- `encode_reserve_response` -/
def encodeReserveResponse (response : ReserveResponse) (correlationId : ℤ) :
    Except PyError (List UInt8) :=
  encodeAdmissionResponse response correlationId .reserveResponse true

/-- `encode_evaluate_response` -/
def encodeEvaluateResponse (response : EvaluateResponse) (correlationId : ℤ) :
    Except PyError (List UInt8) :=
  encodeAdmissionResponse response.toReserveResponse correlationId .evaluateResponse false

/-! ### Get-reservations responses and errors -/

/-- `_encode_reservation` -/
def encodeReservation (reservation : Reservation) : Except PyError (List UInt8) := do
  discard <| string reservation.serviceId maxServiceId "service_id"
  discard <| uint reservation.reservationId 64 "reservation_id" true
  let serviceId ← text .serviceId reservation.serviceId maxServiceId
  let reservationId ← u64 .reservationId reservation.reservationId
  return (Field.reservation.tlv (serviceId ++ reservationId)).encode

/-- The bytes of the reservations, one after the other. -/
def encodeReservations : List Reservation → Except PyError (List UInt8)
  | [] => .ok []
  | item :: items => do
    let first ← encodeReservation item
    let rest ← encodeReservations items
    return first ++ rest

/-- `encode_get_reservations_response` -/
def encodeGetReservationsResponse (response : GetReservationsResponse) (correlationId : ℤ) :
    Except PyError (List UInt8) := do
  discard <| uint response.requestId 64 "request_id" true
  discard <| uint response.canonicalJobId 64 "canonical_job_id" true
  refuseIf (¬ (0 < response.reservations.length ∧ response.reservations.length ≤ maxServices))
    "reservation response count is invalid"
  refuseIf (¬ (response.reservations.map Reservation.serviceId).Nodup)
    "reservation response contains duplicate services"
  let requestId ← u64 .requestId response.requestId
  let canonicalJobId ← u64 .canonicalJobId response.canonicalJobId
  let reservations ← encodeReservations response.reservations
  frame .getReservationsResponse correlationId (requestId ++ (canonicalJobId ++ reservations))

/-- `_decode_reservation` -/
def decodeReservation (payload : List UInt8) : Except PyError Reservation := do
  let collected ← collect payload []
  let values := collected.scalar
  refuseIf (¬ exactFields values [.serviceId, .reservationId])
    "reservation tuple fields are invalid"
  let serviceId ← decodeText (values .serviceId) maxServiceId "service_id"
  let reservationId ← decodeU64 (values .reservationId) "reservation_id"
  discard <| uint reservationId 64 "reservation_id" true
  return ⟨serviceId, reservationId⟩

/-- `decode_get_reservations_response` -/
def decodeGetReservationsResponse (frame : List UInt8) :
    Except PyError (Header × GetReservationsResponse) := do
  let header ← decodeHeader frame
  refuseIf (header.messageType ≠ .getReservationsResponse) "expected get-reservations response"
  let collected ← collect (frame.drop headerSize) [.reservation]
  let values := collected.scalar
  refuseIf (¬ exactFields values [.requestId, .canonicalJobId])
    "get-reservations response fields are invalid"
  let reservations ← decodeEach decodeReservation (collected.groups .reservation)
  refuseIf (¬ (0 < reservations.length ∧ reservations.length ≤ maxServices))
    "reservation response count is invalid"
  refuseIf (¬ (reservations.map Reservation.serviceId).Nodup)
    "reservation response contains duplicate services"
  let requestId ← decodeU64 (values .requestId) "request_id"
  let canonicalJobId ← decodeU64 (values .canonicalJobId) "canonical_job_id"
  discard <| uint requestId 64 "request_id" true
  discard <| uint canonicalJobId 64 "canonical_job_id" true
  return (header, ⟨requestId, canonicalJobId, reservations⟩)

/-- `encode_error_response`; an error code is a member of its enumeration by its type. -/
def encodeErrorResponse (response : ErrorResponse) (correlationId : ℤ) :
    Except PyError (List UInt8) := do
  let requestId ← optionalField (u64 .requestId ·) response.requestId
  let errorCode ← u32 .gatewayErrorCode response.errorCode.code
  let diagnostic ← optionalField (text .diagnostic · maxDiagnostic) response.diagnostic
  frame .errorResponse correlationId (requestId ++ (errorCode ++ diagnostic))

/-- `encode_response` -/
def encodeResponse (response : Response) (correlationId : ℤ) : Except PyError (List UInt8) :=
  match response with
  | .evaluate response => encodeEvaluateResponse response correlationId
  | .reserve response => encodeReserveResponse response correlationId
  | .release response => encodeReleaseResponse response correlationId
  | .getReservations response => encodeGetReservationsResponse response correlationId
  | .error response => encodeErrorResponse response correlationId

/-! ### Responses within their bounds -/

/-- A result within its bounds.  Exactly the accepted results of a reserve response have a
reservation id. -/
@[mk_iff]
structure ServiceResult.Sendable (reserve : Bool) (item : ServiceResult) : Prop where
  serviceId : TextFits item.serviceId maxServiceId
  reasonCode : InWidth 64 item.reasonCode
  granted : item.reservationId.isSome ↔ reserve ∧ item.decision = .accepted
  reservationId : ∀ value ∈ item.reservationId, Positive 64 value
  retryAfterNs : ∀ value ∈ item.retryAfterNs, InWidth 64 value
  estimatedStartNs : ∀ value ∈ item.estimatedStartNs, InWidth 64 value
  estimatedFinishNs : ∀ value ∈ item.estimatedFinishNs, InWidth 64 value
  qpmRuntimeId : ∀ value ∈ item.qpmRuntimeId, TextFits value maxServiceId
  qpmGeneration : ∀ value ∈ item.qpmGeneration, InWidth 64 value
  diagnostic : ∀ value ∈ item.diagnostic, TextFits value maxDiagnostic

/-- A decision that agrees with those of the results. -/
def Agrees (decision : AdmissionDecision) (decisions : List AdmissionDecision) : Prop :=
  match decision with
  | .accepted => ∀ other ∈ decisions, other = .accepted
  | .rejected => .rejected ∈ decisions
  | .delayed => .delayed ∈ decisions ∧ .rejected ∉ decisions

instance (decision : AdmissionDecision) (decisions : List AdmissionDecision) :
    Decidable (Agrees decision decisions) := by
  cases decision <;> unfold Agrees <;> infer_instance

/-- An admission response within its bounds: between 1 and 32 results for distinct services, and a
decision that agrees with them. -/
structure ReserveResponse.Sendable (reserve : Bool) (response : ReserveResponse) : Prop where
  requestId : Positive 64 response.requestId
  count : 0 < response.results.length ∧ response.results.length ≤ maxServices
  distinct : (response.results.map ServiceResult.serviceId).Nodup
  results : ∀ item ∈ response.results, item.Sendable reserve
  agrees : Agrees response.decision (response.results.map ServiceResult.decision)

structure Reservation.Sendable (reservation : Reservation) : Prop where
  serviceId : TextFits reservation.serviceId maxServiceId
  reservationId : Positive 64 reservation.reservationId

structure GetReservationsResponse.Sendable (response : GetReservationsResponse) : Prop where
  requestId : Positive 64 response.requestId
  canonicalJobId : Positive 64 response.canonicalJobId
  count : 0 < response.reservations.length ∧ response.reservations.length ≤ maxServices
  distinct : (response.reservations.map Reservation.serviceId).Nodup
  reservations : ∀ item ∈ response.reservations, item.Sendable

structure ErrorResponse.Sendable (response : ErrorResponse) : Prop where
  requestId : ∀ value ∈ response.requestId, InWidth 64 value
  diagnostic : ∀ value ∈ response.diagnostic, TextFits value maxDiagnostic

/-! ### The contents of responses -/

/-- The scalar fields of a result. -/
def ServiceResult.scalars (item : ServiceResult) : Scalars
  | .serviceId => some (utf8 item.serviceId)
  | .admissionDecision => some (bigEndian 4 item.decision.code.toNat)
  | .reasonCode => some (bigEndian 8 item.reasonCode.toNat)
  | .reservationId => item.reservationId.map (bigEndian 8 ·.toNat)
  | .retryAfterNs => item.retryAfterNs.map (bigEndian 8 ·.toNat)
  | .estimatedStartNs => item.estimatedStartNs.map (bigEndian 8 ·.toNat)
  | .estimatedFinishNs => item.estimatedFinishNs.map (bigEndian 8 ·.toNat)
  | .qpmRuntimeId => item.qpmRuntimeId.map utf8
  | .qpmGeneration => item.qpmGeneration.map (bigEndian 8 ·.toNat)
  | .diagnostic => item.diagnostic.map utf8
  | _ => none

/-- The scalar fields of an admission response. -/
def ReserveResponse.scalars (response : ReserveResponse) : Scalars
  | .requestId => some (bigEndian 8 response.requestId.toNat)
  | .admissionDecision => some (bigEndian 4 response.decision.code.toNat)
  | _ => none

/-- The scalar fields of a release result. -/
def ReleaseResult.scalars (item : ReleaseResult) : Scalars
  | .serviceId => some (utf8 item.serviceId)
  | .reservationId => some (bigEndian 8 item.reservationId.toNat)
  | .reservationState => some (bigEndian 4 item.state.code.toNat)
  | .gatewayErrorCode => item.gatewayError.map (bigEndian 4 ·.code.toNat)
  | .diagnostic => item.diagnostic.map utf8
  | _ => none

/-- The scalar field of a release response. -/
def ReleaseResponse.scalars (response : ReleaseResponse) : Scalars
  | .requestId => some (bigEndian 8 response.requestId.toNat)
  | _ => none

/-- The scalar fields of a reservation. -/
def Reservation.scalars (reservation : Reservation) : Scalars
  | .serviceId => some (utf8 reservation.serviceId)
  | .reservationId => some (bigEndian 8 reservation.reservationId.toNat)
  | _ => none

/-- The scalar fields of a get-reservations response. -/
def GetReservationsResponse.scalars (response : GetReservationsResponse) : Scalars
  | .requestId => some (bigEndian 8 response.requestId.toNat)
  | .canonicalJobId => some (bigEndian 8 response.canonicalJobId.toNat)
  | _ => none

/-- The fields of an error response. -/
def ErrorResponse.scalars (response : ErrorResponse) : Scalars
  | .requestId => response.requestId.map (bigEndian 8 ·.toNat)
  | .gatewayErrorCode => some (bigEndian 4 response.errorCode.code.toNat)
  | .diagnostic => response.diagnostic.map utf8
  | _ => none

/-- The fields of a result, in the order in which they are written. -/
def serviceResultFields : List Field :=
  [.serviceId, .admissionDecision, .reasonCode, .reservationId, .retryAfterNs, .estimatedStartNs,
    .estimatedFinishNs, .qpmRuntimeId, .qpmGeneration, .diagnostic]

/-- The fields of a release result, in the order in which they are written. -/
def releaseResultFields : List Field :=
  [.serviceId, .reservationId, .reservationState, .gatewayErrorCode, .diagnostic]

/-- A result as it is written. -/
def ServiceResult.item (result : ServiceResult) : List UInt8 :=
  encodeAll (fieldTlvs serviceResultFields result.scalars)

/-- The payload of an admission response as it is written. -/
def ReserveResponse.payload (response : ReserveResponse) : List UInt8 :=
  encodeAll (messageTlvs [.requestId, .admissionDecision] response.scalars .serviceResult
    (response.results.map ServiceResult.item))

/-- A release result as it is written. -/
def ReleaseResult.item (result : ReleaseResult) : List UInt8 :=
  encodeAll (fieldTlvs releaseResultFields result.scalars)

/-- The payload of a release response as it is written. -/
def ReleaseResponse.payload (response : ReleaseResponse) : List UInt8 :=
  encodeAll (messageTlvs [.requestId] response.scalars .releaseResult
    (response.results.map ReleaseResult.item))

/-- A reservation as it is written. -/
def Reservation.item (reservation : Reservation) : List UInt8 :=
  encodeAll (fieldTlvs [.serviceId, .reservationId] reservation.scalars)

/-- The payload of a get-reservations response as it is written. -/
def GetReservationsResponse.payload (response : GetReservationsResponse) : List UInt8 :=
  encodeAll (messageTlvs [.requestId, .canonicalJobId] response.scalars .reservation
    (response.reservations.map Reservation.item))

/-- The payload of an error response as it is written. -/
def ErrorResponse.payload (response : ErrorResponse) : List UInt8 :=
  encodeAll (fieldTlvs [.requestId, .gatewayErrorCode, .diagnostic] response.scalars)

/-! ### Encoding admission responses -/

/-- An optional text within its bound is written as no field or as one. -/
lemma optional_text_eq_ok {field : Field} {value : Option String} {maximum : ℕ}
    (h : ∀ content ∈ value, TextFits content maximum) :
    optionalField (text field · maximum) value =
      .ok (encodeAll ((value.map utf8).toList.map field.tlv)) := by
  cases value with
  | none => rfl
  | some content => simpa [optionalField] using text_eq_ok (h content rfl)

lemma AdmissionDecision.code_bounds (decision : AdmissionDecision) :
    1 ≤ decision.code ∧ decision.code ≤ 3 := by
  cases decision <;> decide

/-- A result within its bounds is written as one field that holds its fields. -/
lemma encodeServiceResult_eq_ok {item : ServiceResult} {reserve : Bool}
    (h : item.Sendable reserve) :
    encodeServiceResult item reserve = .ok (Field.serviceResult.tlv item.item).encode := by
  have hdecision : u32 .admissionDecision item.decision.code = _ :=
    u32_eq_ok (by have := item.decision.code_bounds; omega)
  have hreservation : ∀ value ∈ item.reservationId, InWidth 64 value := fun value hvalue =>
    (h.reservationId value hvalue).inWidth
  have hcheck : checkReservationId item reserve = .ok () := by
    unfold checkReservationId
    split_ifs with hgranted
    · obtain ⟨reservationId, hid⟩ := Option.isSome_iff_exists.mp (h.granted.mpr hgranted)
      rw [hid]
      exact uint_nonzero_check_iff.mpr (h.reservationId _ hid)
    · exact refuseIf_eq_ok_iff.mpr (h.granted.not.mpr hgranted)
  rw [encodeServiceResult, text_eq_ok h.serviceId, hdecision, u64_eq_ok h.reasonCode,
    optional_u64_eq_ok hreservation, optional_u64_eq_ok h.retryAfterNs,
    optional_u64_eq_ok h.estimatedStartNs, optional_u64_eq_ok h.estimatedFinishNs,
    optional_text_eq_ok h.qpmRuntimeId, optional_u64_eq_ok h.qpmGeneration,
    optional_text_eq_ok h.diagnostic, hcheck]
  simp [ServiceResult.item, serviceResultFields, encodeAll_fieldTlvs_cons, ServiceResult.scalars,
    bind, Except.bind, pure, Except.pure]

lemma u64_eq_ok_iff {field : Field} {value : ℤ} {bytes : List UInt8} :
    u64 field value = .ok bytes ↔
      InWidth 64 value ∧ (field.tlv (bigEndian 8 value.toNat)).encode = bytes := by
  constructor
  · intro h
    obtain ⟨number, hnumber, h⟩ := bind_eq_ok_iff.mp h
    obtain ⟨⟨hlow, hhigh, -⟩, rfl⟩ := uint_eq_ok_iff.mp hnumber
    exact ⟨⟨hlow, hhigh⟩, Except.ok.inj h⟩
  · rintro ⟨hrange, rfl⟩
    exact u64_eq_ok hrange

/-- An optional number that is written is within its width. -/
lemma optional_u64_eq_ok_iff {field : Field} {value : Option ℤ} {bytes : List UInt8} :
    optionalField (u64 field ·) value = .ok bytes ↔
      (∀ number ∈ value, InWidth 64 number) ∧
        encodeAll ((value.map (bigEndian 8 ·.toNat)).toList.map field.tlv) = bytes := by
  constructor
  · intro h
    have hrange : ∀ number ∈ value, InWidth 64 number := by
      rintro number ⟨⟩
      exact (u64_eq_ok_iff.mp h).1
    rw [optional_u64_eq_ok hrange] at h
    exact ⟨hrange, Except.ok.inj h⟩
  · rintro ⟨hrange, rfl⟩
    exact optional_u64_eq_ok hrange

/-- An optional text that is written is within its bound. -/
lemma optional_text_eq_ok_iff {field : Field} {value : Option String} {maximum : ℕ}
    {bytes : List UInt8} :
    optionalField (text field · maximum) value = .ok bytes ↔
      (∀ content ∈ value, TextFits content maximum) ∧
        encodeAll ((value.map utf8).toList.map field.tlv) = bytes := by
  constructor
  · intro h
    have hfits : ∀ content ∈ value, TextFits content maximum := by
      rintro content ⟨⟩
      obtain ⟨_, hstring, -⟩ := bind_eq_ok_iff.mp h
      exact (string_eq_ok_iff.mp hstring).1
    rw [optional_text_eq_ok hfits] at h
    exact ⟨hfits, Except.ok.inj h⟩
  · rintro ⟨hfits, rfl⟩
    exact optional_text_eq_ok hfits

/-- The checks on one result and its encoder pass together exactly when it is within its bounds. -/
lemma serviceResult_sendable_iff {item : ServiceResult} {reserve : Bool} :
    (checkServiceResult item reserve = .ok () ∧ ∃ bytes, encodeServiceResult item reserve = .ok bytes)
      ↔ item.Sendable reserve := by
  constructor
  · rintro ⟨hcheck, bytes, hencode⟩
    rw [checkServiceResult] at hcheck
    simp only [check_bind_eq_ok_iff, string_check_iff, uint_check_iff, checkOptional_eq_ok_iff,
      refuseIf_eq_ok_iff, uint_eq_ok_iff, string_eq_ok_iff] at hcheck
    obtain ⟨hservice, hreason, hid, -, -, -, -⟩ := hcheck
    rw [encodeServiceResult] at hencode
    simp only [↓check_bind_eq_ok_iff, bind_eq_ok_iff, optional_u64_eq_ok_iff,
      optional_text_eq_ok_iff] at hencode
    obtain ⟨-, -, -, -, -, -, -, -, -, ⟨hretry, -⟩, -, ⟨hstart, -⟩, -, ⟨hfinish, -⟩, -,
      ⟨hruntime, -⟩, -, ⟨hgeneration, -⟩, -, ⟨hdiagnostic, -⟩, hgranted, -⟩ := hencode
    have hpositive : ∀ value ∈ item.reservationId, Positive 64 value := by
      intro value hvalue
      obtain ⟨_, ⟨hlow, hhigh, hzero⟩, -⟩ := hid value hvalue
      have hne : value ≠ 0 := hzero trivial
      exact ⟨by omega, hhigh⟩
    refine ⟨hservice, hreason, ?_, hpositive, hretry, hstart, hfinish, hruntime, hgeneration,
      hdiagnostic⟩
    unfold checkReservationId at hgranted
    split_ifs at hgranted with hcase
    · refine iff_of_true ?_ hcase
      cases hnone : item.reservationId with
      | none =>
        rw [hnone] at hgranted
        exact (nomatch hgranted)
      | some value => rfl
    · exact iff_of_false (refuseIf_eq_ok_iff.mp hgranted) hcase
  · intro h
    refine ⟨?_, _, encodeServiceResult_eq_ok h⟩
    rw [checkServiceResult]
    simp only [check_bind_eq_ok_iff, string_check_iff, uint_check_iff, checkOptional_eq_ok_iff,
      refuseIf_eq_ok_iff, uint_eq_ok_iff, string_eq_ok_iff]
    refine ⟨h.serviceId, h.reasonCode, fun value hvalue => ?_, ?_, fun value hvalue => ?_,
      fun value hvalue => ⟨_, h.qpmRuntimeId value hvalue, rfl⟩,
      fun value hvalue => ⟨_, h.diagnostic value hvalue, rfl⟩⟩
    · obtain ⟨hlow, hhigh⟩ := h.reservationId value hvalue
      exact ⟨value, ⟨by omega, hhigh, fun _ => by omega⟩, rfl⟩
    · rintro ⟨hevaluate, hsome⟩
      exact hevaluate (h.granted.mp hsome).1
    · obtain ⟨hlow, hhigh⟩ := h.qpmGeneration value hvalue
      exact ⟨value, ⟨hlow, hhigh, nofun⟩, rfl⟩

lemma encodeServiceResults_eq_ok {items : List ServiceResult} {reserve : Bool}
    (h : ∀ item ∈ items, item.Sendable reserve) :
    encodeServiceResults reserve items =
      .ok (encodeAll ((items.map ServiceResult.item).map Field.serviceResult.tlv)) := by
  induction items with
  | nil => rfl
  | cons item items ih =>
    rw [encodeServiceResults, encodeServiceResult_eq_ok (h item List.mem_cons_self),
      ih fun other hother => h other (List.mem_cons_of_mem _ hother)]
    rfl

/-- Every result of a list that was encoded was encoded. -/
lemma encodeServiceResult_of_mem {items : List ServiceResult} {reserve : Bool} {bytes : List UInt8}
    (h : encodeServiceResults reserve items = .ok bytes) :
    ∀ item ∈ items, ∃ bytes, encodeServiceResult item reserve = .ok bytes := by
  induction items generalizing bytes with
  | nil => simp
  | cons item items ih =>
    obtain ⟨first, hfirst, h⟩ := bind_eq_ok_iff.mp h
    obtain ⟨rest, hrest, -⟩ := bind_eq_ok_iff.mp h
    exact List.forall_mem_cons.mpr ⟨⟨first, hfirst⟩, ih hrest⟩

lemma checkDecisions_eq_ok_iff {decision : AdmissionDecision} {decisions : List AdmissionDecision}
    (h : decisions ≠ []) :
    checkDecisions decision decisions = .ok () ↔ Agrees decision decisions := by
  rw [checkDecisions]
  simp only [check_bind_eq_ok_iff, refuseIf_eq_ok_iff]
  cases decision with
  | accepted =>
    have hmem : (∀ other ∈ decisions, other = .accepted) → AdmissionDecision.accepted ∈ decisions := by
      intro hall
      obtain ⟨first, hfirst⟩ := List.exists_mem_of_ne_nil decisions h
      exact hall first hfirst ▸ hfirst
    simp only [Agrees, reduceCtorEq, false_and, not_false_eq_true, and_true, true_and, not_not]
    exact ⟨And.right, fun hall => ⟨hmem hall, hall⟩⟩
  | rejected => simp [Agrees]
  | delayed => simp [Agrees]

/-- The values of a result within its bounds are bounded. -/
lemma ServiceResult.Sendable.bounded {item : ServiceResult} {reserve : Bool}
    (h : item.Sendable reserve) : Bounded item.scalars := by
  intro field value hvalue
  cases field
  case serviceId =>
    obtain rfl := Option.some.inj hvalue
    exact h.serviceId.bounded
  case qpmRuntimeId =>
    obtain ⟨content, hcontent, rfl⟩ := Option.map_eq_some_iff.mp hvalue
    exact (h.qpmRuntimeId content hcontent).bounded
  case diagnostic =>
    obtain ⟨content, hcontent, rfl⟩ := Option.map_eq_some_iff.mp hvalue
    exact (h.diagnostic content hcontent).bounded
  all_goals
    simp only [ServiceResult.scalars, Option.some.injEq, Option.map_eq_some_iff,
      reduceCtorEq] at hvalue
  all_goals
    first
    | (obtain rfl := hvalue; simp [Field.maxLength])
    | (obtain ⟨_, -, rfl⟩ := hvalue; simp [Field.maxLength])

/-- The largest admission response fits a frame. -/
lemma ReserveResponse.Sendable.length_payload_le {response : ReserveResponse} {reserve : Bool}
    (h : response.Sendable reserve) :
    response.payload.length ≤ maxFrameSize - headerSize := by
  have hbounded : Bounded response.scalars := by
    intro field value hvalue
    cases field
    all_goals
      simp only [ReserveResponse.scalars, Option.some.injEq, reduceCtorEq] at hvalue
    all_goals
      obtain rfl := hvalue
      simp [Field.maxLength]
  have hitems : ∀ item ∈ response.results.map ServiceResult.item, item.length ≤ 4774 := by
    intro item hitem
    obtain ⟨result, hmem, rfl⟩ := List.mem_map.mp hitem
    refine ((h.results result hmem).bounded.length_fieldTlvs_le serviceResultFields).trans ?_
    decide
  have hlength := hbounded.length_messageTlvs_le [.requestId, .admissionDecision] .serviceResult
    (by simpa using h.count.2) hitems
  refine hlength.trans ?_
  decide

/-- The encoder of admission responses accepts the responses within their bounds. -/
theorem encodeAdmissionResponse_eq_ok_iff {response : ReserveResponse} {correlationId : ℤ}
    {messageType : MessageType} {reserve : Bool} {bytes : List UInt8} :
    encodeAdmissionResponse response correlationId messageType reserve = .ok bytes ↔
      response.Sendable reserve ∧ Positive 64 correlationId ∧
        frameBytes messageType correlationId.toNat response.payload = bytes := by
  have hdecision : u32 .admissionDecision response.decision.code = _ :=
    u32_eq_ok (by have := response.decision.code_bounds; omega)
  have hwrite (h : response.Sendable reserve) : (do
      let requestId ← u64 .requestId response.requestId
      let decision ← u32 .admissionDecision response.decision.code
      let results ← encodeServiceResults reserve response.results
      frame messageType correlationId (requestId ++ (decision ++ results))) =
      frame messageType correlationId response.payload := by
    rw [u64_eq_ok h.requestId.inWidth, hdecision, encodeServiceResults_eq_ok h.results]
    simp [ReserveResponse.payload, messageTlvs, encodeAll_fieldTlvs_cons, ReserveResponse.scalars,
      bind, Except.bind]
  have hne (hcount : 0 < response.results.length) :
      response.results.map ServiceResult.decision ≠ [] := by
    simpa using List.length_pos_iff.mp hcount
  rw [encodeAdmissionResponse, validateAdmissionResponse]
  simp only [check_bind_eq_ok_iff, uint_nonzero_check_iff, refuseIf_eq_ok_iff, not_not,
    forM_eq_ok_iff]
  constructor
  · rintro ⟨⟨hid, hcount, hdistinct, hchecks, hdecisions⟩, h⟩
    obtain ⟨_, -, h'⟩ := bind_eq_ok_iff.mp h
    obtain ⟨_, -, h'⟩ := bind_eq_ok_iff.mp h'
    obtain ⟨_, hresults, -⟩ := bind_eq_ok_iff.mp h'
    have hencoded := encodeServiceResult_of_mem hresults
    have hsendable : response.Sendable reserve := ⟨hid, hcount, hdistinct, fun item hitem =>
      serviceResult_sendable_iff.mp ⟨hchecks item hitem, hencoded item hitem⟩,
      (checkDecisions_eq_ok_iff (hne hcount.1)).mp hdecisions⟩
    exact ⟨hsendable, (frame_eq_ok_of_le hsendable.length_payload_le).mp
      ((hwrite hsendable).symm.trans h)⟩
  · rintro ⟨h, hframe⟩
    exact ⟨⟨h.requestId, h.count, h.distinct, fun item hitem =>
      (serviceResult_sendable_iff.mpr (h.results item hitem)).1,
      (checkDecisions_eq_ok_iff (hne h.count.1)).mpr h.agrees⟩,
      (hwrite h).trans ((frame_eq_ok_of_le h.length_payload_le).mpr hframe)⟩

lemma encodeReserveResponse_eq_ok_iff {response : ReserveResponse} {correlationId : ℤ}
    {bytes : List UInt8} :
    encodeReserveResponse response correlationId = .ok bytes ↔
      response.Sendable true ∧ Positive 64 correlationId ∧
        frameBytes .reserveResponse correlationId.toNat response.payload = bytes :=
  encodeAdmissionResponse_eq_ok_iff

lemma encodeEvaluateResponse_eq_ok_iff {response : EvaluateResponse} {correlationId : ℤ}
    {bytes : List UInt8} :
    encodeEvaluateResponse response correlationId = .ok bytes ↔
      response.toReserveResponse.Sendable false ∧ Positive 64 correlationId ∧
        frameBytes .evaluateResponse correlationId.toNat response.toReserveResponse.payload =
          bytes :=
  encodeAdmissionResponse_eq_ok_iff

/-! ### Encoding the other responses -/

/-- The fields of a release result in the order of `encodeReleaseResult` are its contents. -/
lemma ReleaseResult.tlvs_eq (item : ReleaseResult) :
    item.tlvs = fieldTlvs releaseResultFields item.scalars := by
  cases hgateway : item.gatewayError <;> cases hdiagnostic : item.diagnostic <;>
    simp [ReleaseResult.tlvs, fieldTlvs, releaseResultFields, ReleaseResult.scalars, hgateway,
      hdiagnostic]

/-- The fields of a release response are its contents. -/
lemma ReleaseResponse.encodeAll_tlvs (response : ReleaseResponse) :
    encodeAll response.tlvs = response.payload := by
  have hitem : (fun item : ReleaseResult => Field.releaseResult.tlv (encodeAll item.tlvs)) =
      Field.releaseResult.tlv ∘ ReleaseResult.item := by
    funext item
    rw [item.tlvs_eq]
    rfl
  rw [ReleaseResponse.tlvs, ReleaseResponse.payload, messageTlvs, hitem, List.map_map]
  simp [fieldTlvs, ReleaseResponse.scalars]

/-- The encoder of release responses accepts the responses within their bounds. -/
lemma encodeReleaseResponse_eq_ok_payload_iff {response : ReleaseResponse} {correlationId : ℤ}
    {bytes : List UInt8} :
    encodeReleaseResponse response correlationId = .ok bytes ↔
      response.Sendable ∧ Positive 64 correlationId ∧
        frameBytes .releaseResponse correlationId.toNat response.payload = bytes := by
  rw [encodeReleaseResponse_eq_ok_iff, response.encodeAll_tlvs]
  rfl

lemma encodeReservation_eq_ok_iff {reservation : Reservation} {bytes : List UInt8} :
    encodeReservation reservation = .ok bytes ↔
      reservation.Sendable ∧ (Field.reservation.tlv reservation.item).encode = bytes := by
  have hwrite (h : reservation.Sendable) : (do
      let serviceId ← text .serviceId reservation.serviceId maxServiceId
      let reservationId ← u64 .reservationId reservation.reservationId
      return (Field.reservation.tlv (serviceId ++ reservationId)).encode) =
      (.ok (Field.reservation.tlv reservation.item).encode : Except PyError (List UInt8)) := by
    rw [text_eq_ok h.serviceId, u64_eq_ok h.reservationId.inWidth]
    simp [Reservation.item, fieldTlvs, Reservation.scalars, bind, Except.bind, pure, Except.pure]
  rw [encodeReservation]
  simp only [check_bind_eq_ok_iff, string_check_iff, uint_nonzero_check_iff]
  constructor
  · rintro ⟨hservice, hid, h⟩
    exact ⟨⟨hservice, hid⟩, Except.ok.inj ((hwrite ⟨hservice, hid⟩).symm.trans h)⟩
  · rintro ⟨h, rfl⟩
    exact ⟨h.serviceId, h.reservationId, hwrite h⟩

lemma encodeReservations_eq_ok_iff {items : List Reservation} {bytes : List UInt8} :
    encodeReservations items = .ok bytes ↔
      (∀ item ∈ items, item.Sendable) ∧
        encodeAll ((items.map Reservation.item).map Field.reservation.tlv) = bytes := by
  induction items generalizing bytes with
  | nil => simp [encodeReservations]
  | cons item items ih =>
    simp only [encodeReservations, bind_eq_ok_iff, encodeReservation_eq_ok_iff, ih,
      List.forall_mem_cons, List.map_cons, encodeAll_cons]
    constructor
    · rintro ⟨_, ⟨hitem, rfl⟩, _, ⟨hitems, rfl⟩, h⟩
      exact ⟨⟨hitem, hitems⟩, Except.ok.inj h⟩
    · rintro ⟨⟨hitem, hitems⟩, rfl⟩
      exact ⟨_, ⟨hitem, rfl⟩, _, ⟨hitems, rfl⟩, rfl⟩

/-- The values of a reservation within its bounds are bounded. -/
lemma Reservation.Sendable.length_item_le {reservation : Reservation} (h : reservation.Sendable) :
    reservation.item.length ≤ 286 := by
  have hbounded : Bounded reservation.scalars := by
    intro field value hvalue
    cases field
    case serviceId =>
      obtain rfl := Option.some.inj hvalue
      exact h.serviceId.bounded
    all_goals
      simp only [Reservation.scalars, Option.some.injEq, reduceCtorEq] at hvalue
    all_goals
      obtain rfl := hvalue
      simp [Field.maxLength]
  refine (hbounded.length_fieldTlvs_le [.serviceId, .reservationId]).trans ?_
  decide

lemma GetReservationsResponse.Sendable.length_payload_le {response : GetReservationsResponse}
    (h : response.Sendable) : response.payload.length ≤ maxFrameSize - headerSize := by
  have hbounded : Bounded response.scalars := by
    intro field value hvalue
    cases field
    all_goals
      simp only [GetReservationsResponse.scalars, Option.some.injEq, reduceCtorEq] at hvalue
    all_goals
      obtain rfl := hvalue
      simp [Field.maxLength]
  have hitems : ∀ item ∈ response.reservations.map Reservation.item, item.length ≤ 286 := by
    intro item hitem
    obtain ⟨reservation, hmem, rfl⟩ := List.mem_map.mp hitem
    exact (h.reservations reservation hmem).length_item_le
  have hlength := hbounded.length_messageTlvs_le [.requestId, .canonicalJobId] .reservation
    (by simpa using h.count.2) hitems
  refine hlength.trans ?_
  decide

/-- The encoder of get-reservations responses accepts the responses within their bounds. -/
theorem encodeGetReservationsResponse_eq_ok_iff {response : GetReservationsResponse}
    {correlationId : ℤ} {bytes : List UInt8} :
    encodeGetReservationsResponse response correlationId = .ok bytes ↔
      response.Sendable ∧ Positive 64 correlationId ∧
        frameBytes .getReservationsResponse correlationId.toNat response.payload = bytes := by
  have hwrite (h : response.Sendable) : (do
      let requestId ← u64 .requestId response.requestId
      let canonicalJobId ← u64 .canonicalJobId response.canonicalJobId
      let reservations ← encodeReservations response.reservations
      frame .getReservationsResponse correlationId
        (requestId ++ (canonicalJobId ++ reservations))) =
      frame .getReservationsResponse correlationId response.payload := by
    rw [u64_eq_ok h.requestId.inWidth, u64_eq_ok h.canonicalJobId.inWidth,
      encodeReservations_eq_ok_iff.mpr ⟨h.reservations, rfl⟩]
    simp [GetReservationsResponse.payload, messageTlvs, encodeAll_fieldTlvs_cons,
      GetReservationsResponse.scalars, bind, Except.bind]
  rw [encodeGetReservationsResponse]
  simp only [check_bind_eq_ok_iff, uint_nonzero_check_iff, refuseIf_eq_ok_iff, not_not]
  constructor
  · rintro ⟨hid, hcanonical, hcount, hdistinct, h⟩
    obtain ⟨_, -, h'⟩ := bind_eq_ok_iff.mp h
    obtain ⟨_, -, h'⟩ := bind_eq_ok_iff.mp h'
    obtain ⟨_, hitems, -⟩ := bind_eq_ok_iff.mp h'
    have hsendable : response.Sendable :=
      ⟨hid, hcanonical, hcount, hdistinct, (encodeReservations_eq_ok_iff.mp hitems).1⟩
    exact ⟨hsendable, (frame_eq_ok_of_le hsendable.length_payload_le).mp
      ((hwrite hsendable).symm.trans h)⟩
  · rintro ⟨h, hframe⟩
    exact ⟨h.requestId, h.canonicalJobId, h.count, h.distinct,
      (hwrite h).trans ((frame_eq_ok_of_le h.length_payload_le).mpr hframe)⟩

lemma ErrorResponse.Sendable.length_payload_le {response : ErrorResponse} (h : response.Sendable) :
    response.payload.length ≤ maxFrameSize - headerSize := by
  have hbounded : Bounded response.scalars := by
    intro field value hvalue
    cases field
    case diagnostic =>
      obtain ⟨content, hcontent, rfl⟩ := Option.map_eq_some_iff.mp hvalue
      exact (h.diagnostic content hcontent).bounded
    all_goals
      simp only [ErrorResponse.scalars, Option.some.injEq, Option.map_eq_some_iff,
        reduceCtorEq] at hvalue
    all_goals
      first
      | (obtain rfl := hvalue; simp [Field.maxLength])
      | (obtain ⟨_, -, rfl⟩ := hvalue; simp [Field.maxLength])
  refine (hbounded.length_fieldTlvs_le [.requestId, .gatewayErrorCode, .diagnostic]).trans ?_
  decide

/-- The encoder of errors accepts the responses within their bounds. -/
theorem encodeErrorResponse_eq_ok_iff {response : ErrorResponse} {correlationId : ℤ}
    {bytes : List UInt8} :
    encodeErrorResponse response correlationId = .ok bytes ↔
      response.Sendable ∧ Positive 64 correlationId ∧
        frameBytes .errorResponse correlationId.toNat response.payload = bytes := by
  have hcode : u32 .gatewayErrorCode response.errorCode.code = _ :=
    u32_eq_ok (by have := response.errorCode.code_bounds; omega)
  have hpayload : encodeAll ((response.requestId.map (bigEndian 8 ·.toNat)).toList.map
      Field.requestId.tlv) ++
        ((Field.gatewayErrorCode.tlv (bigEndian 4 response.errorCode.code.toNat)).encode ++
          encodeAll ((response.diagnostic.map utf8).toList.map Field.diagnostic.tlv)) =
        response.payload := by
    simp [ErrorResponse.payload, encodeAll_fieldTlvs_cons, ErrorResponse.scalars]
  rw [encodeErrorResponse, hcode]
  simp only [bind_eq_ok_iff, optional_u64_eq_ok_iff, optional_text_eq_ok_iff, Except.ok.injEq]
  constructor
  · rintro ⟨_, ⟨hid, rfl⟩, _, rfl, _, ⟨hdiagnostic, rfl⟩, h⟩
    have hsendable : response.Sendable := ⟨hid, hdiagnostic⟩
    rw [hpayload] at h
    exact ⟨hsendable, (frame_eq_ok_of_le hsendable.length_payload_le).mp h⟩
  · rintro ⟨h, hframe⟩
    refine ⟨_, ⟨h.requestId, rfl⟩, _, rfl, _, ⟨h.diagnostic, rfl⟩, ?_⟩
    rw [hpayload]
    exact (frame_eq_ok_of_le h.length_payload_le).mpr hframe

/-! ### Encoding any response -/

/-- A response within the bounds of its kind. -/
def Response.Sendable : Response → Prop
  | .evaluate response => response.toReserveResponse.Sendable false
  | .reserve response => response.Sendable true
  | .release response => response.Sendable
  | .getReservations response => response.Sendable
  | .error response => response.Sendable

/-- `encode_response` accepts exactly the responses within their bounds. -/
theorem encodeResponse_ok_iff {response : Response} {correlationId : ℤ} :
    (∃ bytes, encodeResponse response correlationId = .ok bytes) ↔
      response.Sendable ∧ Positive 64 correlationId := by
  have hiff {sendable : Prop} {frame : List UInt8} :
      (∃ bytes, sendable ∧ Positive 64 correlationId ∧ frame = bytes) ↔
        sendable ∧ Positive 64 correlationId := by
    simp
  cases response with
  | evaluate response =>
    simp only [encodeResponse, encodeEvaluateResponse_eq_ok_iff, hiff]
    rfl
  | reserve response =>
    simp only [encodeResponse, encodeReserveResponse_eq_ok_iff, hiff]
    rfl
  | release response =>
    simp only [encodeResponse, encodeReleaseResponse_eq_ok_payload_iff, hiff]
    rfl
  | getReservations response =>
    simp only [encodeResponse, encodeGetReservationsResponse_eq_ok_iff, hiff]
    rfl
  | error response =>
    simp only [encodeResponse, encodeErrorResponse_eq_ok_iff, hiff]
    rfl

/-! ### Decoding get-reservations responses -/

/-- A reservation is read back from its fields. -/
lemma decodeReservation_eq_ok_iff {payload : List UInt8} {reservation : Reservation} :
    decodeReservation payload = .ok reservation ↔
      reservation.Sendable ∧ ∃ collected, collect payload [] = .ok collected ∧
        collected.scalar = reservation.scalars := by
  rw [decodeReservation]
  simp only [↓check_bind_eq_ok_iff, bind_eq_ok_iff, refuseIf_eq_ok_iff, not_not,
    decodeU64_eq_ok_iff, decodeText_eq_ok_iff, uint_nonzero_check_iff]
  constructor
  · rintro ⟨collected, hcollect, honly, serviceId, ⟨hfits, hvalue₁⟩, reservationId,
      ⟨-, hvalue₂⟩, hid, hresult⟩
    obtain rfl := Except.ok.inj hresult
    refine ⟨⟨hfits, hid⟩, collected, hcollect, funext fun field => ?_⟩
    cases field
    case serviceId => exact hvalue₁
    case reservationId => exact hvalue₂
    all_goals exact honly.absent (by decide)
  · rintro ⟨h, collected, hcollect, hscalar⟩
    refine ⟨collected, hcollect, exactFields_iff.mpr fun field => ?_, reservation.serviceId,
      ⟨h.serviceId, by rw [hscalar]; rfl⟩, reservation.reservationId,
      ⟨h.reservationId.inWidth, by rw [hscalar]; rfl⟩, h.reservationId, rfl⟩
    rw [hscalar]
    cases field <;> simp [Reservation.scalars]

/-- What a decoded list of reservations is made of is within the bounds. -/
lemma sendable_of_decodeReservation {items : List (List UInt8)} {reservations : List Reservation}
    (h : List.Forall₂ (fun item result => decodeReservation item = .ok result) items
      reservations) : ∀ reservation ∈ reservations, reservation.Sendable := by
  induction h with
  | nil => simp
  | cons hitem _ ih => exact List.forall_mem_cons.mpr ⟨(decodeReservation_eq_ok_iff.mp hitem).1, ih⟩

/-- The decoder of get-reservations responses returns the responses within their bounds whose
contents the frame has. -/
theorem decodeGetReservationsResponse_eq_ok_iff {frame : List UInt8} {header : Header}
    {response : GetReservationsResponse} :
    decodeGetReservationsResponse frame = .ok (header, response) ↔
      ∃ correlationId payload, Framed .getReservationsResponse correlationId payload frame ∧
        header = Header.read .getReservationsResponse correlationId payload ∧ response.Sendable ∧
          Contains .reservation decodeReservation payload response.scalars
            response.reservations := by
  rw [decodeGetReservationsResponse]
  simp only [↓check_bind_eq_ok_iff, bind_eq_ok_iff, refuseIf_eq_ok_iff, not_not,
    decodeEach_eq_ok_iff, decodeU64_eq_ok_iff, uint_nonzero_check_iff]
  constructor
  · rintro ⟨read, hread, htype, collected, hcollect, honly, reservations, hitems, hcount,
      hdistinct, requestId, ⟨-, hvalue₁⟩, canonicalJobId, ⟨-, hvalue₂⟩, hid, hcanonical, hresult⟩
    obtain ⟨rfl, rfl⟩ := Prod.mk.inj (Except.ok.inj hresult)
    obtain ⟨correlationId, payload, hframed, rfl⟩ :=
      header_of_type_iff.mp ⟨hread, not_not.mpr htype⟩
    rw [hframed.drop] at hcollect
    refine ⟨correlationId, payload, hframed, rfl, ⟨hid, hcanonical, hcount, hdistinct,
      sendable_of_decodeReservation hitems⟩, collected, hcollect, funext fun field => ?_, hitems⟩
    cases field
    case requestId => exact hvalue₁
    case canonicalJobId => exact hvalue₂
    all_goals exact honly.absent (by decide)
  · rintro ⟨correlationId, payload, hframed, rfl, h, collected, hcollect, hscalar, hitems⟩
    obtain ⟨hread, htype⟩ := header_of_type_iff.mpr ⟨correlationId, payload, hframed, rfl⟩
    rw [← hframed.drop] at hcollect
    refine ⟨_, hread, not_not.mp htype, collected, hcollect, exactFields_iff.mpr fun field => ?_,
      response.reservations, hitems, h.count, h.distinct, response.requestId,
      ⟨h.requestId.inWidth, by rw [hscalar]; rfl⟩, response.canonicalJobId,
      ⟨h.canonicalJobId.inWidth, by rw [hscalar]; rfl⟩, h.requestId, h.canonicalJobId, rfl⟩
    rw [hscalar]
    cases field <;> simp [GetReservationsResponse.scalars]

end QfwSlurm
