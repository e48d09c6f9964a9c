import QfwSlurm.Native.Requests

/-!
# Decoding the other responses in the native client

The decoders of `src/protocol/qsgp_decode.c` for admission, get-reservations and error responses.
As for requests, each of them returns exactly the responses within their bounds (`Sendable`) whose
contents the frame has, with every absent field zero (`normalize`); so does the decoder of release
responses.
-/

namespace QfwSlurm.Native

open Wire

/-! ### Admission responses -/

/-- `QSGP_ADMISSION_ACCEPTED` -/
def admissionAccepted : ℕ := 1

/-- `QSGP_ADMISSION_DELAYED` -/
def admissionDelayed : ℕ := 2

/-- `QSGP_ADMISSION_REJECTED` -/
def admissionRejected : ℕ := 3

structure QsgpServiceResult where
  serviceId : List UInt8 := []
  decision : ℕ := 0
  reservationId : ℕ := 0
  reasonCode : ℕ := 0
  retryAfterNs : ℕ := 0
  estimatedStartNs : ℕ := 0
  estimatedFinishNs : ℕ := 0
  qpmRuntimeId : List UInt8 := []
  qpmGeneration : ℕ := 0
  diagnostic : List UInt8 := []
  hasReservationId : Bool := false
  hasRetryAfterNs : Bool := false
  hasEstimatedStartNs : Bool := false
  hasEstimatedFinishNs : Bool := false
  hasRuntimeId : Bool := false
  hasGeneration : Bool := false
  hasDiagnostic : Bool := false
  deriving DecidableEq

structure QsgpReserveResponse where
  requestId : ℕ := 0
  decision : ℕ := 0
  results : List QsgpServiceResult := []
  deriving DecidableEq

/-- The cases of `decode_service_result`. -/
def readServiceResult (result : QsgpServiceResult) (tlv : Tlv) :
    Except Status QsgpServiceResult :=
  match Field.ofCode tlv.type with
  | some .serviceId => do return { result with serviceId := ← tlvString tlv (maxServiceId + 1) }
  | some .admissionDecision => do return { result with decision := ← tlvU32 tlv }
  | some .reservationId => do
    return { result with reservationId := ← tlvU64 tlv, hasReservationId := true }
  | some .reasonCode => do return { result with reasonCode := ← tlvU64 tlv }
  | some .retryAfterNs => do
    return { result with retryAfterNs := ← tlvU64 tlv, hasRetryAfterNs := true }
  | some .estimatedStartNs => do
    return { result with estimatedStartNs := ← tlvU64 tlv, hasEstimatedStartNs := true }
  | some .estimatedFinishNs => do
    return { result with estimatedFinishNs := ← tlvU64 tlv, hasEstimatedFinishNs := true }
  | some .qpmRuntimeId => do
    return { result with
      qpmRuntimeId := ← tlvString tlv (maxServiceId + 1), hasRuntimeId := true }
  | some .qpmGeneration => do
    return { result with qpmGeneration := ← tlvU64 tlv, hasGeneration := true }
  | some .diagnostic => do
    return { result with diagnostic := ← tlvString tlv (maxDiagnostic + 1), hasDiagnostic := true }
  | _ => .error .invalid

/-- The checks after the loop of `decode_service_result`. -/
def finishServiceResult (reserve : Bool) (present : Field → Bool) (result : QsgpServiceResult) :
    Except Status QsgpServiceResult :=
  if ¬ present .serviceId ∨ ¬ present .admissionDecision ∨ ¬ present .reasonCode ∨
      result.decision < admissionAccepted ∨ admissionRejected < result.decision then
    .error .invalid
  else if reserve ∧ result.decision = admissionAccepted then
    if result.hasReservationId ∧ result.reservationId ≠ 0 then .ok result else .error .invalid
  else if result.hasReservationId then .error .invalid
  else .ok result

/-- `decode_service_result` -/
def decodeServiceResult (reserve : Bool) (container : Tlv) : Except Status QsgpServiceResult := do
  let ⟨fields, result⟩ ← scan cursorNext (fieldStep readServiceResult) container.value ⟨0, {}⟩
  finishServiceResult reserve (fieldPresent fields) result

/-- The container case of `decode_admission_response`. -/
def appendServiceResult (reserve : Bool) (response : QsgpReserveResponse) (tlv : Tlv) :
    Except Status QsgpReserveResponse := do
  if maxServices ≤ response.results.length then throw .bounds
  let result ← decodeServiceResult reserve tlv
  return { response with results := response.results ++ [result] }

/-- The scalar cases of `decode_admission_response`. -/
def readAdmissionResponse (response : QsgpReserveResponse) (tlv : Tlv) :
    Except Status QsgpReserveResponse :=
  match Field.ofCode tlv.type with
  | some .requestId => do return { response with requestId := ← tlvU64 tlv }
  | some .admissionDecision => do return { response with decision := ← tlvU32 tlv }
  | _ => .error .invalid

/-- The loop over the results in `decode_admission_response`, with the names of the results before
those that are left. -/
def checkResults (decision : ℕ) :
    List (List UInt8) → List QsgpServiceResult → Except Status Unit
  | _, [] => .ok ()
  | names, result :: results =>
    if result.serviceId ∈ names then .error .conflict
    else if decision = admissionAccepted ∧ result.decision ≠ admissionAccepted then .error .invalid
    else checkResults decision (result.serviceId :: names) results

/-- The checks after the loop of `decode_admission_response`. -/
def finishAdmissionResponse (present : Field → Bool) (response : QsgpReserveResponse) :
    Except Status QsgpReserveResponse := do
  if ¬ present .requestId ∨ ¬ present .admissionDecision ∨ response.requestId = 0 ∨
      response.results.length = 0 ∨ response.decision < admissionAccepted ∨
      admissionRejected < response.decision then
    throw .invalid
  checkResults response.decision [] response.results
  let foundDelayed := response.results.any (·.decision = admissionDelayed)
  let foundRejected := response.results.any (·.decision = admissionRejected)
  if response.decision = admissionRejected ∧ ¬ foundRejected then throw .invalid
  if response.decision = admissionDelayed ∧ (foundRejected ∨ ¬ foundDelayed) then throw .invalid
  return response

/-- `decode_admission_response` -/
def decodeAdmissionResponse (data : List UInt8) (messageType : MessageType) (reserve : Bool) :
    Except Status (QsgpHeader × QsgpReserveResponse) := do
  let (header, payload) ← decodeStart data messageType
  let ⟨fields, response⟩ ← scan cursorNext
    (messageStep .serviceResult (appendServiceResult reserve) readAdmissionResponse) payload ⟨0, {}⟩
  let response ← finishAdmissionResponse (fieldPresent fields) response
  return (header, response)

/-- `qsgp_decode_reserve_response` -/
def qsgpDecodeReserveResponse (data : List UInt8) :
    Except Status (QsgpHeader × QsgpReserveResponse) :=
  decodeAdmissionResponse data .reserveResponse true

/-- `qsgp_decode_evaluate_response` -/
def qsgpDecodeEvaluateResponse (data : List UInt8) :
    Except Status (QsgpHeader × QsgpReserveResponse) :=
  decodeAdmissionResponse data .evaluateResponse false

/-! ### Get-reservations responses and errors -/

structure QsgpReservation where
  serviceId : List UInt8 := []
  reservationId : ℕ := 0
  deriving DecidableEq

structure QsgpGetReservationsResponse where
  requestId : ℕ := 0
  canonicalJobId : ℕ := 0
  reservations : List QsgpReservation := []
  deriving DecidableEq

/-- The cases of `decode_reservation`. -/
def readReservation (reservation : QsgpReservation) (tlv : Tlv) : Except Status QsgpReservation :=
  match Field.ofCode tlv.type with
  | some .serviceId => do
    return { reservation with serviceId := ← tlvString tlv (maxServiceId + 1) }
  | some .reservationId => do return { reservation with reservationId := ← tlvU64 tlv }
  | _ => .error .invalid

/-- `decode_reservation` -/
def decodeReservation (container : Tlv) : Except Status QsgpReservation := do
  let ⟨fields, reservation⟩ ←
    scan cursorNext (fieldStep readReservation) container.value ⟨0, {}⟩
  if ¬ fieldPresent fields .serviceId ∨ ¬ fieldPresent fields .reservationId ∨
      reservation.reservationId = 0 then
    throw .invalid
  return reservation

/-- The container case of `qsgp_decode_get_reservations_response`. -/
def appendReservation (response : QsgpGetReservationsResponse) (tlv : Tlv) :
    Except Status QsgpGetReservationsResponse := do
  if maxServices ≤ response.reservations.length then throw .bounds
  let reservation ← decodeReservation tlv
  return { response with reservations := response.reservations ++ [reservation] }

/-- The scalar cases of `qsgp_decode_get_reservations_response`. -/
def readGetReservationsResponse (response : QsgpGetReservationsResponse) (tlv : Tlv) :
    Except Status QsgpGetReservationsResponse :=
  match Field.ofCode tlv.type with
  | some .requestId => do return { response with requestId := ← tlvU64 tlv }
  | some .canonicalJobId => do return { response with canonicalJobId := ← tlvU64 tlv }
  | _ => .error .invalid

/-- `qsgp_decode_get_reservations_response` -/
def qsgpDecodeGetReservationsResponse (data : List UInt8) :
    Except Status (QsgpHeader × QsgpGetReservationsResponse) := do
  let (header, payload) ← decodeStart data .getReservationsResponse
  let ⟨fields, response⟩ ← scan cursorNext
    (messageStep .reservation appendReservation readGetReservationsResponse) payload ⟨0, {}⟩
  if ¬ fieldPresent fields .requestId ∨ ¬ fieldPresent fields .canonicalJobId ∨
      response.requestId = 0 ∨ response.canonicalJobId = 0 ∨
      response.reservations.length = 0 then
    throw .invalid
  if ¬ (response.reservations.map QsgpReservation.serviceId).Nodup then throw .conflict
  return (header, response)

structure QsgpErrorResponse where
  requestId : ℕ := 0
  errorCode : ℕ := 0
  diagnostic : List UInt8 := []
  hasRequestId : Bool := false
  hasDiagnostic : Bool := false
  deriving DecidableEq

/-- The cases of `qsgp_decode_error_response`. -/
def readErrorResponse (response : QsgpErrorResponse) (tlv : Tlv) :
    Except Status QsgpErrorResponse :=
  match Field.ofCode tlv.type with
  | some .requestId => do return { response with requestId := ← tlvU64 tlv, hasRequestId := true }
  | some .gatewayErrorCode => do return { response with errorCode := ← tlvU32 tlv }
  | some .diagnostic => do
    return { response with
      diagnostic := ← tlvString tlv (maxDiagnostic + 1), hasDiagnostic := true }
  | _ => .error .invalid

/-- `qsgp_decode_error_response` -/
def qsgpDecodeErrorResponse (data : List UInt8) :
    Except Status (QsgpHeader × QsgpErrorResponse) := do
  let (header, payload) ← decodeStart data .errorResponse
  let ⟨fields, response⟩ ← scan cursorNext (fieldStep readErrorResponse) payload ⟨0, {}⟩
  if ¬ fieldPresent fields .gatewayErrorCode ∨ response.errorCode = 0 then throw .invalid
  return (header, response)

/-! ### Service results within their bounds -/

/-- A result within its bounds.  Exactly the accepted results of a reserve response have a
reservation id. -/
structure QsgpServiceResult.Sendable (reserve : Bool) (result : QsgpServiceResult) : Prop where
  serviceId : CharsFit result.serviceId maxServiceId
  decision : admissionAccepted ≤ result.decision ∧ result.decision ≤ admissionRejected
  granted : result.hasReservationId = true ↔
    reserve = true ∧ result.decision = admissionAccepted
  reservationId : result.hasReservationId → NonzeroWidth 64 result.reservationId
  reasonCode : result.reasonCode < 2 ^ 64
  retryAfterNs : result.hasRetryAfterNs → result.retryAfterNs < 2 ^ 64
  estimatedStartNs : result.hasEstimatedStartNs → result.estimatedStartNs < 2 ^ 64
  estimatedFinishNs : result.hasEstimatedFinishNs → result.estimatedFinishNs < 2 ^ 64
  qpmRuntimeId : result.hasRuntimeId → CharsFit result.qpmRuntimeId maxServiceId
  qpmGeneration : result.hasGeneration → result.qpmGeneration < 2 ^ 64
  diagnostic : result.hasDiagnostic → CharsFit result.diagnostic maxDiagnostic

/-- A result whose absent fields are zero, as the decoder leaves them. -/
def QsgpServiceResult.normalize (result : QsgpServiceResult) : QsgpServiceResult :=
  { result with
    reservationId := kept 0 result.hasReservationId result.reservationId
    retryAfterNs := kept 0 result.hasRetryAfterNs result.retryAfterNs
    estimatedStartNs := kept 0 result.hasEstimatedStartNs result.estimatedStartNs
    estimatedFinishNs := kept 0 result.hasEstimatedFinishNs result.estimatedFinishNs
    qpmRuntimeId := kept [] result.hasRuntimeId result.qpmRuntimeId
    qpmGeneration := kept 0 result.hasGeneration result.qpmGeneration
    diagnostic := kept [] result.hasDiagnostic result.diagnostic }

/-- The scalar fields of a result. -/
def QsgpServiceResult.scalars (result : QsgpServiceResult) : Scalars
  | .serviceId => some result.serviceId
  | .admissionDecision => some (bigEndian 4 result.decision)
  | .reservationId => present result.hasReservationId (bigEndian 8 result.reservationId)
  | .reasonCode => some (bigEndian 8 result.reasonCode)
  | .retryAfterNs => present result.hasRetryAfterNs (bigEndian 8 result.retryAfterNs)
  | .estimatedStartNs => present result.hasEstimatedStartNs (bigEndian 8 result.estimatedStartNs)
  | .estimatedFinishNs =>
    present result.hasEstimatedFinishNs (bigEndian 8 result.estimatedFinishNs)
  | .qpmRuntimeId => present result.hasRuntimeId result.qpmRuntimeId
  | .qpmGeneration => present result.hasGeneration (bigEndian 8 result.qpmGeneration)
  | .diagnostic => present result.hasDiagnostic result.diagnostic
  | _ => none

/-- The layout of a result. -/
def serviceResultLayout : Field → Option Shape
  | .reservationId | .reasonCode | .retryAfterNs | .estimatedStartNs | .estimatedFinishNs
  | .qpmGeneration => some .u64
  | .admissionDecision => some .u32
  | .serviceId | .qpmRuntimeId => some (.text maxServiceId)
  | .diagnostic => some (.text maxDiagnostic)
  | _ => none

/-- The result filled in with some values. -/
def serviceResultOf (scalars : Scalars) : QsgpServiceResult where
  serviceId := chars (scalars .serviceId)
  decision := number (scalars .admissionDecision)
  reservationId := number (scalars .reservationId)
  reasonCode := number (scalars .reasonCode)
  retryAfterNs := number (scalars .retryAfterNs)
  estimatedStartNs := number (scalars .estimatedStartNs)
  estimatedFinishNs := number (scalars .estimatedFinishNs)
  qpmRuntimeId := chars (scalars .qpmRuntimeId)
  qpmGeneration := number (scalars .qpmGeneration)
  diagnostic := chars (scalars .diagnostic)
  hasReservationId := (scalars .reservationId).isSome
  hasRetryAfterNs := (scalars .retryAfterNs).isSome
  hasEstimatedStartNs := (scalars .estimatedStartNs).isSome
  hasEstimatedFinishNs := (scalars .estimatedFinishNs).isSome
  hasRuntimeId := (scalars .qpmRuntimeId).isSome
  hasGeneration := (scalars .qpmGeneration).isSome
  hasDiagnostic := (scalars .diagnostic).isSome

lemma fills_serviceResult : Fills readServiceResult serviceResultLayout serviceResultOf where
  reads scalars field flags bytes value := by
    cases field <;>
      simp [readServiceResult, read_u64_iff, read_u32_iff, read_text_iff, Fitting,
        serviceResultLayout, Shape.Reads, serviceResultOf]

/-- The values of a result within its bounds have room in it. -/
lemma QsgpServiceResult.Sendable.allFitting {reserve : Bool} {result : QsgpServiceResult}
    (h : result.Sendable reserve) : AllFitting serviceResultLayout result.scalars := by
  intro field value hvalue
  cases field
  all_goals
    simp only [QsgpServiceResult.scalars, present_eq_some_iff, Option.some.injEq,
      reduceCtorEq] at hvalue
  case serviceId => exact hvalue ▸ fitting_text rfl h.serviceId
  case admissionDecision => exact hvalue ▸ fitting_u32 rfl _
  case reasonCode => exact hvalue ▸ fitting_u64 rfl _
  case qpmRuntimeId => exact hvalue.2 ▸ fitting_text rfl (h.qpmRuntimeId hvalue.1)
  case diagnostic => exact hvalue.2 ▸ fitting_text rfl (h.diagnostic hvalue.1)
  all_goals exact hvalue.2 ▸ fitting_u64 rfl _

lemma QsgpServiceResult.Sendable.serviceResultOf_scalars {reserve : Bool}
    {result : QsgpServiceResult} (h : result.Sendable reserve) :
    serviceResultOf result.scalars = result.normalize := by
  have hdecision : result.decision < 2 ^ 32 := by
    have := h.decision.2
    simp only [admissionRejected] at this
    omega
  simp only [serviceResultOf, QsgpServiceResult.scalars, isSome_present, number_some, chars_some,
    number_u32 hdecision, number_u64 h.reasonCode,
    number_present_u64 fun hhas => (h.reservationId hhas).2, number_present_u64 h.retryAfterNs,
    number_present_u64 h.estimatedStartNs, number_present_u64 h.estimatedFinishNs,
    number_present_u64 h.qpmGeneration, chars_present]
  rfl

lemma finishServiceResult_eq_ok_iff {reserve : Bool} {present : Field → Bool}
    {filled result : QsgpServiceResult} :
    finishServiceResult reserve present filled = .ok result ↔
      result = filled ∧
        (∀ field ∈ [.serviceId, .admissionDecision, .reasonCode], present field = true) ∧
        (admissionAccepted ≤ result.decision ∧ result.decision ≤ admissionRejected) ∧
        (result.hasReservationId = true ↔
          reserve = true ∧ result.decision = admissionAccepted) ∧
        (result.hasReservationId = true → result.reservationId ≠ 0) := by
  simp only [List.forall_mem_cons, List.not_mem_nil, false_implies, implies_true, and_true]
  constructor
  · intro h
    simp only [finishServiceResult] at h
    split_ifs at h with hmissing hgranted hid hextra
    all_goals
      obtain rfl := Except.ok.inj h
      simp only [not_or, not_not, not_lt] at hmissing
      obtain ⟨hservice, hdecision, hreason, hlow, hhigh⟩ := hmissing
    · exact ⟨rfl, ⟨hservice, hdecision, hreason⟩, ⟨hlow, hhigh⟩,
        ⟨fun _ => hgranted, fun _ => hid.1⟩, fun _ => hid.2⟩
    · exact ⟨rfl, ⟨hservice, hdecision, hreason⟩, ⟨hlow, hhigh⟩,
        ⟨fun h => absurd h hextra, fun h => absurd h hgranted⟩, fun h => absurd h hextra⟩
  · rintro ⟨rfl, ⟨hservice, hdecision, hreason⟩, ⟨hlow, hhigh⟩, hgranted, hid⟩
    have hmissing : ¬ (¬ present .serviceId ∨ ¬ present .admissionDecision ∨
        ¬ present .reasonCode ∨ result.decision < admissionAccepted ∨
        admissionRejected < result.decision) := by
      simp only [not_or, not_not, not_lt]
      exact ⟨hservice, hdecision, hreason, hlow, hhigh⟩
    rw [finishServiceResult, if_neg hmissing]
    by_cases hhas : result.hasReservationId = true
    · rw [if_pos (hgranted.mp hhas), if_pos ⟨hhas, hid hhas⟩]
    · rw [if_neg fun h => hhas (hgranted.mpr h), if_neg hhas]

/-- The native decoder of results returns the results within their bounds whose contents the
container has. -/
lemma decodeServiceResult_eq_ok_iff {reserve : Bool} {container : Tlv}
    {result : QsgpServiceResult} :
    decodeServiceResult reserve container = .ok result ↔
      result.Sendable reserve ∧ result.normalize = result ∧
        ∃ collected, collect container.value [] = .ok collected ∧
          collected.scalar = result.scalars := by
  refine (fills_serviceResult.run_iff (finishServiceResult reserve)).trans ?_
  constructor
  · rintro ⟨collected, hcollect, hfitting, hcheck⟩
    obtain ⟨rfl, hpresent, hdecision, hgranted, hid⟩ := finishServiceResult_eq_ok_iff.mp hcheck
    have hservice := hfitting.text_of_present rfl (hpresent .serviceId (by decide))
    refine ⟨?_, ?_, collected, hcollect, funext fun field => ?_⟩
    · exact {
        serviceId := hservice.1
        decision := hdecision
        granted := hgranted
        reservationId := fun hhas => ⟨Nat.pos_of_ne_zero (hid hhas), (hfitting.u64 rfl).1⟩
        reasonCode := (hfitting.u64 rfl).1
        retryAfterNs := fun _ => (hfitting.u64 rfl).1
        estimatedStartNs := fun _ => (hfitting.u64 rfl).1
        estimatedFinishNs := fun _ => (hfitting.u64 rfl).1
        qpmRuntimeId := (hfitting.text rfl).1
        qpmGeneration := fun _ => (hfitting.u64 rfl).1
        diagnostic := (hfitting.text rfl).1 }
    · simp only [QsgpServiceResult.normalize, serviceResultOf, kept_number, kept_chars]
    · cases field
      case serviceId => exact hservice.2
      case admissionDecision =>
        exact (hfitting.u32_of_present rfl (hpresent .admissionDecision (by decide))).2
      case reasonCode =>
        exact (hfitting.u64_of_present rfl (hpresent .reasonCode (by decide))).2
      case qpmRuntimeId => exact (hfitting.text rfl).2
      case diagnostic => exact (hfitting.text rfl).2
      all_goals first
        | exact hfitting.absent rfl
        | exact (hfitting.u64 rfl).2
  · rintro ⟨h, hnormal, collected, hcollect, hscalar⟩
    refine ⟨collected, hcollect, hscalar ▸ h.allFitting, ?_⟩
    rw [hscalar, h.serviceResultOf_scalars, hnormal]
    refine finishServiceResult_eq_ok_iff.mpr ⟨rfl, ?_, h.decision, h.granted,
      fun hhas => (h.reservationId hhas).1.ne'⟩
    simp [QsgpServiceResult.scalars]

/-! ### Admission responses within their bounds -/

/-- A decision that agrees with those of the results. -/
structure DecisionAgrees (decision : ℕ) (results : List QsgpServiceResult) : Prop where
  accepted : decision = admissionAccepted → ∀ result ∈ results, result.decision = admissionAccepted
  rejected : decision = admissionRejected → ∃ result ∈ results, result.decision = admissionRejected
  delayed : decision = admissionDelayed →
    (∃ result ∈ results, result.decision = admissionDelayed) ∧
      ∀ result ∈ results, result.decision ≠ admissionRejected

/-- An admission response within its bounds: between 1 and 32 results for distinct services, and a
decision that agrees with them. -/
structure QsgpReserveResponse.Sendable (reserve : Bool) (response : QsgpReserveResponse) :
    Prop where
  requestId : NonzeroWidth 64 response.requestId
  decision : admissionAccepted ≤ response.decision ∧ response.decision ≤ admissionRejected
  count : 0 < response.results.length ∧ response.results.length ≤ maxServices
  distinct : (response.results.map QsgpServiceResult.serviceId).Nodup
  results : ∀ result ∈ response.results, result.Sendable reserve
  agrees : DecisionAgrees response.decision response.results

/-- A response whose absent fields are zero, as the decoders leave them. -/
def QsgpReserveResponse.normalize (response : QsgpReserveResponse) : QsgpReserveResponse :=
  { response with results := response.results.map QsgpServiceResult.normalize }

/-- The scalar fields of an admission response. -/
def QsgpReserveResponse.scalars (response : QsgpReserveResponse) : Scalars
  | .requestId => some (bigEndian 8 response.requestId)
  | .admissionDecision => some (bigEndian 4 response.decision)
  | _ => none

/-- The layout of an admission response. -/
def admissionResponseLayout : Field → Option Shape
  | .requestId => some .u64
  | .admissionDecision => some .u32
  | _ => none

/-- The admission response filled in with some values and results. -/
def admissionResponseOf (scalars : Scalars) (results : List QsgpServiceResult) :
    QsgpReserveResponse where
  requestId := number (scalars .requestId)
  decision := number (scalars .admissionDecision)
  results := results

/-- The value of a service result container. -/
def serviceResultElement (reserve : Bool) (bytes : List UInt8) : Except Status QsgpServiceResult :=
  decodeServiceResult reserve (Field.serviceResult.tlv bytes)

/-- `decode_service_result` on the value of a container. -/
lemma serviceResultElement_eq_ok_iff {reserve : Bool} {bytes : List UInt8}
    {result : QsgpServiceResult} :
    serviceResultElement reserve bytes = .ok result ↔
      result.Sendable reserve ∧ result.normalize = result ∧
        ∃ collected, collect bytes [] = .ok collected ∧ collected.scalar = result.scalars :=
  decodeServiceResult_eq_ok_iff

lemma fillsMessage_admissionResponse (reserve : Bool) :
    FillsMessage .serviceResult (appendServiceResult reserve) readAdmissionResponse
      admissionResponseLayout (serviceResultElement reserve) admissionResponseOf where
  reads scalars results field flags bytes value hne := by
    cases field <;>
      simp [readAdmissionResponse, read_u64_iff, read_u32_iff, Fitting, admissionResponseLayout,
        Shape.Reads, admissionResponseOf]
  appends scalars results tlv value := by
    have helement : decodeServiceResult reserve tlv = serviceResultElement reserve tlv.value := rfl
    by_cases hroom : results.length < maxServices
    · simp [appendServiceResult, admissionResponseOf, helement, hroom, not_le.mpr hroom,
        map_eq_ok_iff]
    · simp [appendServiceResult, admissionResponseOf, not_lt.mp hroom, hroom, throw_bind]

/-- The loop over the results finds no repetition and, if the response accepts, no result that does
not. -/
lemma checkResults_eq_ok_iff {decision : ℕ} {names : List (List UInt8)}
    {results : List QsgpServiceResult} :
    checkResults decision names results = .ok () ↔
      (results.map QsgpServiceResult.serviceId).Nodup ∧
        (∀ result ∈ results, result.serviceId ∉ names) ∧
        (decision = admissionAccepted →
          ∀ result ∈ results, result.decision = admissionAccepted) := by
  induction results generalizing names with
  | nil => simp [checkResults]
  | cons result results ih =>
    rw [checkResults]
    split_ifs with hseen hinvalid
    · simp [hseen]
    · simp [hinvalid]
    · have hdecision : decision = admissionAccepted → result.decision = admissionAccepted := by
        tauto
      rw [ih]
      simp only [List.forall_mem_cons, List.map_cons, List.nodup_cons, List.mem_map, not_exists,
        not_and]
      simp only [List.mem_cons, not_or]
      constructor
      · rintro ⟨hnodup, hnames, haccepted⟩
        exact ⟨⟨fun other hother heq => (hnames other hother).1 heq, hnodup⟩,
          ⟨hseen, fun other hother => (hnames other hother).2⟩,
          fun h => ⟨hdecision h, haccepted h⟩⟩
      · rintro ⟨⟨hfirst, hnodup⟩, ⟨-, hnames⟩, haccepted⟩
        exact ⟨hnodup, fun other hother => ⟨hfirst other hother, hnames other hother⟩,
          fun h => (haccepted h).2⟩

/-- The three checks on the decision of a response. -/
lemma decisionAgrees_iff {decision : ℕ} {results : List QsgpServiceResult} :
    DecisionAgrees decision results ↔
      (decision = admissionAccepted →
        ∀ result ∈ results, result.decision = admissionAccepted) ∧
      ¬ (decision = admissionRejected ∧
        ¬ (results.any (·.decision = admissionRejected)) = true) ∧
      ¬ (decision = admissionDelayed ∧ ((results.any (·.decision = admissionRejected)) = true ∨
        ¬ (results.any (·.decision = admissionDelayed)) = true)) := by
  simp only [not_and, not_not, not_or, List.any_eq_true, decide_eq_true_eq]
  constructor
  · rintro ⟨haccepted, hrejected, hdelayed⟩
    refine ⟨haccepted, hrejected, fun h => ⟨?_, (hdelayed h).1⟩⟩
    rintro ⟨result, hmem, hresult⟩
    exact (hdelayed h).2 result hmem hresult
  · rintro ⟨haccepted, hrejected, hdelayed⟩
    exact ⟨haccepted, hrejected, fun h => ⟨(hdelayed h).2, fun result hmem hresult =>
      (hdelayed h).1 ⟨result, hmem, hresult⟩⟩⟩

lemma finishAdmissionResponse_eq_ok_iff {present : Field → Bool}
    {filled response : QsgpReserveResponse} :
    finishAdmissionResponse present filled = .ok response ↔
      response = filled ∧ present .requestId = true ∧ present .admissionDecision = true ∧
        response.requestId ≠ 0 ∧
        (admissionAccepted ≤ response.decision ∧ response.decision ≤ admissionRejected) ∧
        0 < response.results.length ∧
        (response.results.map QsgpServiceResult.serviceId).Nodup ∧
        DecisionAgrees response.decision response.results := by
  constructor
  · intro h
    rw [finishAdmissionResponse] at h
    split_ifs at h with hmissing
    · exact (nomatch h)
    obtain ⟨⟨⟩, hcheck, h⟩ := bind_eq_ok_iff.mp h
    simp only [throw_bind] at h
    split_ifs at h with hrejected hdelayed
    obtain rfl := Except.ok.inj h
    obtain ⟨hdistinct, -, haccepted⟩ := checkResults_eq_ok_iff.mp hcheck
    simp only [not_or, not_not, not_lt] at hmissing
    obtain ⟨hid, hdecision, hnonzero, hcount, hlow, hhigh⟩ := hmissing
    exact ⟨rfl, hid, hdecision, hnonzero, ⟨hlow, hhigh⟩, Nat.pos_of_ne_zero hcount, hdistinct,
      decisionAgrees_iff.mpr ⟨haccepted, hrejected, hdelayed⟩⟩
  · rintro ⟨rfl, hid, hdecision, hnonzero, ⟨hlow, hhigh⟩, hcount, hdistinct, hagrees⟩
    obtain ⟨haccepted, hrejected, hdelayed⟩ := decisionAgrees_iff.mp hagrees
    have hcheck : checkResults response.decision [] response.results = .ok () :=
      checkResults_eq_ok_iff.mpr ⟨hdistinct, by simp, haccepted⟩
    rw [finishAdmissionResponse, if_neg]
    · refine bind_eq_ok_iff.mpr ⟨(), hcheck, ?_⟩
      rw [if_neg hrejected, if_neg hdelayed]
      rfl
    · simp only [not_or, not_not, not_lt]
      exact ⟨hid, hdecision, hnonzero, hcount.ne', hlow, hhigh⟩

/-- The native decoder of admission responses returns the responses within their bounds whose
contents the frame has. -/
theorem decodeAdmissionResponse_eq_ok_iff {data : List UInt8} {messageType : MessageType}
    {reserve : Bool} {header : QsgpHeader} {response : QsgpReserveResponse} :
    decodeAdmissionResponse data messageType reserve = .ok (header, response) ↔
      ∃ correlationId payload, Framed messageType correlationId payload data ∧
        header = .read messageType correlationId payload ∧ response.Sendable reserve ∧
          response.normalize = response ∧
          Carries .serviceResult (serviceResultElement reserve) payload response.scalars
            response.results := by
  refine ((fillsMessage_admissionResponse reserve).decode_iff fun header present response => do
    let response ← finishAdmissionResponse present response
    return (header, response)).trans ?_
  constructor
  · rintro ⟨correlationId, payload, collected, results, hframed, hcollect, hfitting, hresults,
      hcheck⟩
    obtain ⟨finished, hfinish, hresult⟩ := bind_eq_ok_iff.mp hcheck
    obtain ⟨rfl, rfl⟩ := Prod.mk.inj (Except.ok.inj hresult)
    obtain ⟨rfl, hid, hdecision, hnonzero, hrange, hcount, hdistinct, hagrees⟩ :=
      finishAdmissionResponse_eq_ok_iff.mp hfinish
    have hid := hfitting.u64_of_present rfl hid
    have hsendable (result : QsgpServiceResult) (hmem : result ∈ results) :
        result.Sendable reserve ∧ result.normalize = result := by
      obtain ⟨bytes, helement⟩ := hresults.exists_value hmem
      obtain ⟨h, hnormal, -⟩ := serviceResultElement_eq_ok_iff.mp helement
      exact ⟨h, hnormal⟩
    refine ⟨correlationId, payload, hframed, rfl, ⟨⟨Nat.pos_of_ne_zero hnonzero, hid.1⟩, hrange,
      ⟨hcount, hresults.count⟩, hdistinct, fun result hmem => (hsendable result hmem).1, hagrees⟩,
      ?_, collected, hcollect, funext fun field => ?_, hresults⟩
    · have hmap : results.map QsgpServiceResult.normalize = results :=
        (List.map_congr_left fun result hmem => (hsendable result hmem).2).trans (List.map_id' _)
      simp only [QsgpReserveResponse.normalize, admissionResponseOf, hmap]
    · cases field
      case requestId => exact hid.2
      case admissionDecision => exact (hfitting.u32_of_present rfl hdecision).2
      all_goals exact hfitting.absent rfl
  · rintro ⟨correlationId, payload, hframed, rfl, h, hnormal, collected, hcollect, hscalar,
      hresults⟩
    have hdecision : response.decision < 2 ^ 32 := by
      have := h.decision.2
      simp only [admissionRejected] at this
      omega
    have hfitting : AllFitting admissionResponseLayout response.scalars := by
      intro field value hvalue
      cases field
      case requestId => exact Option.some.inj hvalue ▸ fitting_u64 rfl _
      case admissionDecision => exact Option.some.inj hvalue ▸ fitting_u32 rfl _
      all_goals exact (nomatch hvalue)
    have hfilled : admissionResponseOf response.scalars response.results = response := by
      simp only [admissionResponseOf, QsgpReserveResponse.scalars, number_some,
        number_u64 h.requestId.2, number_u32 hdecision]
    refine ⟨correlationId, payload, collected, response.results, hframed, hcollect,
      hscalar ▸ hfitting, hresults, ?_⟩
    refine bind_eq_ok_iff.mpr ⟨response, ?_, rfl⟩
    rw [hscalar, hfilled]
    exact finishAdmissionResponse_eq_ok_iff.mpr ⟨rfl, rfl, rfl, h.requestId.1.ne', h.decision,
      h.count.1, h.distinct, h.agrees⟩

/-! ### Get-reservations responses within their bounds -/

structure QsgpReservation.Sendable (reservation : QsgpReservation) : Prop where
  serviceId : CharsFit reservation.serviceId maxServiceId
  reservationId : NonzeroWidth 64 reservation.reservationId

structure QsgpGetReservationsResponse.Sendable (response : QsgpGetReservationsResponse) : Prop where
  requestId : NonzeroWidth 64 response.requestId
  canonicalJobId : NonzeroWidth 64 response.canonicalJobId
  count : 0 < response.reservations.length ∧ response.reservations.length ≤ maxServices
  distinct : (response.reservations.map QsgpReservation.serviceId).Nodup
  reservations : ∀ reservation ∈ response.reservations, reservation.Sendable

/-- The scalar fields of a reservation. -/
def QsgpReservation.scalars (reservation : QsgpReservation) : Scalars
  | .serviceId => some reservation.serviceId
  | .reservationId => some (bigEndian 8 reservation.reservationId)
  | _ => none

/-- The layout of a reservation. -/
def reservationLayout : Field → Option Shape
  | .serviceId => some (.text maxServiceId)
  | .reservationId => some .u64
  | _ => none

/-- The reservation filled in with some values. -/
def reservationOf (scalars : Scalars) : QsgpReservation where
  serviceId := chars (scalars .serviceId)
  reservationId := number (scalars .reservationId)

lemma fills_reservation : Fills readReservation reservationLayout reservationOf where
  reads scalars field flags bytes value := by
    cases field <;>
      simp [readReservation, read_u64_iff, read_text_iff, Fitting, reservationLayout, Shape.Reads,
        reservationOf]

/-- The native decoder of reservations returns the reservations within their bounds whose contents
the container has. -/
lemma decodeReservation_eq_ok_iff {container : Tlv} {reservation : QsgpReservation} :
    decodeReservation container = .ok reservation ↔
      reservation.Sendable ∧ ∃ collected, collect container.value [] = .ok collected ∧
        collected.scalar = reservation.scalars := by
  refine (fills_reservation.run_iff fun present reservation =>
    if ¬ present .serviceId ∨ ¬ present .reservationId ∨ reservation.reservationId = 0 then
      .error .invalid
    else .ok reservation).trans ?_
  constructor
  · rintro ⟨collected, hcollect, hfitting, hcheck⟩
    split_ifs at hcheck with hmissing
    obtain rfl := Except.ok.inj hcheck
    simp only [not_or, not_not] at hmissing
    obtain ⟨hservice, hid, hnonzero⟩ := hmissing
    have hservice := hfitting.text_of_present rfl hservice
    have hid := hfitting.u64_of_present rfl hid
    refine ⟨⟨hservice.1, Nat.pos_of_ne_zero hnonzero, hid.1⟩, collected, hcollect,
      funext fun field => ?_⟩
    cases field
    case serviceId => exact hservice.2
    case reservationId => exact hid.2
    all_goals exact hfitting.absent rfl
  · rintro ⟨h, collected, hcollect, hscalar⟩
    have hfitting : AllFitting reservationLayout reservation.scalars := by
      intro field value hvalue
      cases field
      case serviceId => exact Option.some.inj hvalue ▸ fitting_text rfl h.serviceId
      case reservationId => exact Option.some.inj hvalue ▸ fitting_u64 rfl _
      all_goals exact (nomatch hvalue)
    have hfilled : reservationOf reservation.scalars = reservation := by
      simp only [reservationOf, QsgpReservation.scalars, number_some, chars_some,
        number_u64 h.reservationId.2]
    refine ⟨collected, hcollect, hscalar ▸ hfitting, ?_⟩
    rw [hscalar, hfilled, if_neg]
    have := h.reservationId.1
    simp only [QsgpReservation.scalars, Option.isSome_some, not_true_eq_false, false_or]
    omega

/-- The scalar fields of a get-reservations response. -/
def QsgpGetReservationsResponse.scalars (response : QsgpGetReservationsResponse) : Scalars
  | .requestId => some (bigEndian 8 response.requestId)
  | .canonicalJobId => some (bigEndian 8 response.canonicalJobId)
  | _ => none

/-- The layout of a get-reservations response. -/
def getReservationsResponseLayout : Field → Option Shape
  | .requestId | .canonicalJobId => some .u64
  | _ => none

/-- The get-reservations response filled in with some values and reservations. -/
def getReservationsResponseOf (scalars : Scalars) (reservations : List QsgpReservation) :
    QsgpGetReservationsResponse where
  requestId := number (scalars .requestId)
  canonicalJobId := number (scalars .canonicalJobId)
  reservations := reservations

/-- The value of a reservation container. -/
def reservationElement (bytes : List UInt8) : Except Status QsgpReservation :=
  decodeReservation (Field.reservation.tlv bytes)

/-- `decode_reservation` on the value of a container. -/
lemma reservationElement_eq_ok_iff {bytes : List UInt8} {reservation : QsgpReservation} :
    reservationElement bytes = .ok reservation ↔
      reservation.Sendable ∧ ∃ collected, collect bytes [] = .ok collected ∧
        collected.scalar = reservation.scalars :=
  decodeReservation_eq_ok_iff

lemma fillsMessage_getReservationsResponse :
    FillsMessage .reservation appendReservation readGetReservationsResponse
      getReservationsResponseLayout reservationElement getReservationsResponseOf where
  reads scalars reservations field flags bytes value hne := by
    cases field <;>
      simp [readGetReservationsResponse, read_u64_iff, Fitting, getReservationsResponseLayout,
        Shape.Reads, getReservationsResponseOf]
  appends scalars reservations tlv value := by
    have helement : decodeReservation tlv = reservationElement tlv.value := rfl
    by_cases hroom : reservations.length < maxServices
    · simp [appendReservation, getReservationsResponseOf, helement, hroom, not_le.mpr hroom,
        map_eq_ok_iff]
    · simp [appendReservation, getReservationsResponseOf, not_lt.mp hroom, hroom, throw_bind]

/-- The native decoder of get-reservations responses returns the responses within their bounds
whose contents the frame has. -/
theorem qsgpDecodeGetReservationsResponse_eq_ok_iff {data : List UInt8} {header : QsgpHeader}
    {response : QsgpGetReservationsResponse} :
    qsgpDecodeGetReservationsResponse data = .ok (header, response) ↔
      ∃ correlationId payload, Framed .getReservationsResponse correlationId payload data ∧
        header = .read .getReservationsResponse correlationId payload ∧ response.Sendable ∧
          Carries .reservation reservationElement payload response.scalars
            response.reservations := by
  refine (fillsMessage_getReservationsResponse.decode_iff fun header present response => do
    if ¬ present .requestId ∨ ¬ present .canonicalJobId ∨ response.requestId = 0 ∨
        response.canonicalJobId = 0 ∨ response.reservations.length = 0 then
      throw .invalid
    if ¬ (response.reservations.map QsgpReservation.serviceId).Nodup then throw .conflict
    return (header, response)).trans ?_
  constructor
  · rintro ⟨correlationId, payload, collected, reservations, hframed, hcollect, hfitting,
      hreservations, hcheck⟩
    simp only [throw_bind] at hcheck
    split_ifs at hcheck with hmissing hrepeated
    obtain ⟨rfl, rfl⟩ := Prod.mk.inj (Except.ok.inj hcheck)
    simp only [not_or, not_not] at hmissing hrepeated
    obtain ⟨hid, hcanonical, hnonzero, hnonzero', hcount⟩ := hmissing
    have hid := hfitting.u64_of_present rfl hid
    have hcanonical := hfitting.u64_of_present rfl hcanonical
    refine ⟨correlationId, payload, hframed, rfl, ⟨⟨Nat.pos_of_ne_zero hnonzero, hid.1⟩,
      ⟨Nat.pos_of_ne_zero hnonzero', hcanonical.1⟩,
      ⟨Nat.pos_of_ne_zero hcount, hreservations.count⟩, hrepeated, fun reservation hmem => ?_⟩,
      collected, hcollect, funext fun field => ?_, hreservations⟩
    · obtain ⟨bytes, helement⟩ := hreservations.exists_value hmem
      exact (reservationElement_eq_ok_iff.mp helement).1
    · cases field
      case requestId => exact hid.2
      case canonicalJobId => exact hcanonical.2
      all_goals exact hfitting.absent rfl
  · rintro ⟨correlationId, payload, hframed, rfl, h, collected, hcollect, hscalar,
      hreservations⟩
    have hfitting : AllFitting getReservationsResponseLayout response.scalars := by
      intro field value hvalue
      cases field
      case requestId => exact Option.some.inj hvalue ▸ fitting_u64 rfl _
      case canonicalJobId => exact Option.some.inj hvalue ▸ fitting_u64 rfl _
      all_goals exact (nomatch hvalue)
    have hfilled : getReservationsResponseOf response.scalars response.reservations = response := by
      simp only [getReservationsResponseOf, QsgpGetReservationsResponse.scalars, number_some,
        number_u64 h.requestId.2, number_u64 h.canonicalJobId.2]
    refine ⟨correlationId, payload, collected, response.reservations, hframed, hcollect,
      hscalar ▸ hfitting, hreservations, ?_⟩
    rw [hscalar, hfilled]
    have hpresent : ¬ (¬ (response.scalars .requestId).isSome ∨
        ¬ (response.scalars .canonicalJobId).isSome ∨ response.requestId = 0 ∨
        response.canonicalJobId = 0 ∨ response.reservations.length = 0) := by
      have := h.requestId.1
      have := h.canonicalJobId.1
      have := h.count.1
      simp only [QsgpGetReservationsResponse.scalars, Option.isSome_some, not_true_eq_false,
        false_or]
      omega
    rw [if_neg hpresent, if_neg (not_not.mpr h.distinct)]
    rfl

/-! ### Error responses within their bounds -/

structure QsgpErrorResponse.Sendable (response : QsgpErrorResponse) : Prop where
  requestId : response.hasRequestId → response.requestId < 2 ^ 64
  errorCode : NonzeroWidth 32 response.errorCode
  diagnostic : response.hasDiagnostic → CharsFit response.diagnostic maxDiagnostic

/-- An error whose absent fields are zero, as the decoder leaves them. -/
def QsgpErrorResponse.normalize (response : QsgpErrorResponse) : QsgpErrorResponse :=
  { response with
    requestId := kept 0 response.hasRequestId response.requestId
    diagnostic := kept [] response.hasDiagnostic response.diagnostic }

/-- The fields of an error. -/
def QsgpErrorResponse.scalars (response : QsgpErrorResponse) : Scalars
  | .requestId => present response.hasRequestId (bigEndian 8 response.requestId)
  | .gatewayErrorCode => some (bigEndian 4 response.errorCode)
  | .diagnostic => present response.hasDiagnostic response.diagnostic
  | _ => none

/-- The layout of an error. -/
def errorResponseLayout : Field → Option Shape
  | .requestId => some .u64
  | .gatewayErrorCode => some .u32
  | .diagnostic => some (.text maxDiagnostic)
  | _ => none

/-- The error filled in with some values. -/
def errorResponseOf (scalars : Scalars) : QsgpErrorResponse where
  requestId := number (scalars .requestId)
  errorCode := number (scalars .gatewayErrorCode)
  diagnostic := chars (scalars .diagnostic)
  hasRequestId := (scalars .requestId).isSome
  hasDiagnostic := (scalars .diagnostic).isSome

lemma fills_errorResponse : Fills readErrorResponse errorResponseLayout errorResponseOf where
  reads scalars field flags bytes value := by
    cases field <;>
      simp [readErrorResponse, read_u64_iff, read_u32_iff, read_text_iff, Fitting,
        errorResponseLayout, Shape.Reads, errorResponseOf]

/-- The native decoder of errors returns the errors within their bounds whose contents the frame
has. -/
theorem qsgpDecodeErrorResponse_eq_ok_iff {data : List UInt8} {header : QsgpHeader}
    {response : QsgpErrorResponse} :
    qsgpDecodeErrorResponse data = .ok (header, response) ↔
      ∃ correlationId payload, Framed .errorResponse correlationId payload data ∧
        header = .read .errorResponse correlationId payload ∧ response.Sendable ∧
          response.normalize = response ∧
          ∃ collected, collect payload [] = .ok collected ∧
            collected.scalar = response.scalars := by
  refine (fills_errorResponse.decode_iff fun header present response =>
    if ¬ present .gatewayErrorCode ∨ response.errorCode = 0 then .error .invalid
    else .ok (header, response)).trans ?_
  constructor
  · rintro ⟨correlationId, payload, collected, hframed, hcollect, hfitting, hcheck⟩
    split_ifs at hcheck with hmissing
    obtain ⟨rfl, rfl⟩ := Prod.mk.inj (Except.ok.inj hcheck)
    simp only [not_or, not_not] at hmissing
    obtain ⟨hcode, hnonzero⟩ := hmissing
    have hcode := hfitting.u32_of_present rfl hcode
    refine ⟨correlationId, payload, hframed, rfl, ⟨fun _ => (hfitting.u64 rfl).1,
      ⟨Nat.pos_of_ne_zero hnonzero, hcode.1⟩, (hfitting.text rfl).1⟩, ?_, collected, hcollect,
      funext fun field => ?_⟩
    · simp only [QsgpErrorResponse.normalize, errorResponseOf, kept_number, kept_chars]
    · cases field
      case requestId => exact (hfitting.u64 rfl).2
      case gatewayErrorCode => exact hcode.2
      case diagnostic => exact (hfitting.text rfl).2
      all_goals exact hfitting.absent rfl
  · rintro ⟨correlationId, payload, hframed, rfl, h, hnormal, collected, hcollect, hscalar⟩
    have hfitting : AllFitting errorResponseLayout response.scalars := by
      intro field value hvalue
      cases field
      all_goals
        simp only [QsgpErrorResponse.scalars, present_eq_some_iff, Option.some.injEq,
          reduceCtorEq] at hvalue
      case requestId => exact hvalue.2 ▸ fitting_u64 rfl _
      case gatewayErrorCode => exact hvalue ▸ fitting_u32 rfl _
      case diagnostic => exact hvalue.2 ▸ fitting_text rfl (h.diagnostic hvalue.1)
    have hfilled : errorResponseOf response.scalars = response.normalize := by
      simp only [errorResponseOf, QsgpErrorResponse.scalars, isSome_present, number_some,
        number_u32 h.errorCode.2, number_present_u64 h.requestId, chars_present]
      rfl
    refine ⟨correlationId, payload, collected, hframed, hcollect, hscalar ▸ hfitting, ?_⟩
    rw [hscalar, hfilled, hnormal, if_neg]
    have := h.errorCode.1
    simp only [QsgpErrorResponse.scalars, Option.isSome_some, not_true_eq_false, false_or]
    omega

/-! ### Release responses within their bounds -/

/-- A release result within its bounds. -/
structure QsgpReleaseResult.Sendable (result : QsgpReleaseResult) : Prop where
  serviceId : CharsFit result.serviceId maxServiceId
  reservationId : NonzeroWidth 64 result.reservationId
  state : 1 ≤ result.state ∧ result.state ≤ 7
  gatewayError : result.hasGatewayError → result.gatewayError < 2 ^ 32
  diagnostic : result.hasDiagnostic → CharsFit result.diagnostic maxDiagnostic

/-- A release response within its bounds. -/
structure QsgpReleaseResponse.Sendable (response : QsgpReleaseResponse) : Prop where
  requestId : NonzeroWidth 64 response.requestId
  count : response.results.length ≤ maxServices
  results : ∀ result ∈ response.results, result.Sendable

/-- A result whose absent fields are zero, as the decoder leaves them. -/
def QsgpReleaseResult.normalize (result : QsgpReleaseResult) : QsgpReleaseResult :=
  { result with
    gatewayError := kept 0 result.hasGatewayError result.gatewayError
    diagnostic := kept [] result.hasDiagnostic result.diagnostic }

/-- A response whose absent fields are zero, as the decoder leaves them. -/
def QsgpReleaseResponse.normalize (response : QsgpReleaseResponse) : QsgpReleaseResponse :=
  { response with results := response.results.map QsgpReleaseResult.normalize }

/-- The scalar fields of a release result. -/
def QsgpReleaseResult.scalars (result : QsgpReleaseResult) : Scalars
  | .serviceId => some result.serviceId
  | .reservationId => some (bigEndian 8 result.reservationId)
  | .reservationState => some (bigEndian 4 result.state)
  | .gatewayErrorCode => present result.hasGatewayError (bigEndian 4 result.gatewayError)
  | .diagnostic => present result.hasDiagnostic result.diagnostic
  | _ => none

/-- The scalar field of a release response. -/
def QsgpReleaseResponse.scalars (response : QsgpReleaseResponse) : Scalars
  | .requestId => some (bigEndian 8 response.requestId)
  | _ => none

/-- The layout of a release result. -/
def releaseResultLayout : Field → Option Shape
  | .serviceId => some (.text maxServiceId)
  | .reservationId => some .u64
  | .reservationState | .gatewayErrorCode => some .u32
  | .diagnostic => some (.text maxDiagnostic)
  | _ => none

/-- The layout of a release response. -/
def releaseResponseLayout : Field → Option Shape
  | .requestId => some .u64
  | _ => none

/-- The release result filled in with some values. -/
def releaseResultOf (scalars : Scalars) : QsgpReleaseResult where
  serviceId := chars (scalars .serviceId)
  reservationId := number (scalars .reservationId)
  state := number (scalars .reservationState)
  gatewayError := number (scalars .gatewayErrorCode)
  diagnostic := chars (scalars .diagnostic)
  hasGatewayError := (scalars .gatewayErrorCode).isSome
  hasDiagnostic := (scalars .diagnostic).isSome

/-- The release response filled in with some values and results. -/
def releaseResponseOf (scalars : Scalars) (results : List QsgpReleaseResult) :
    QsgpReleaseResponse where
  requestId := number (scalars .requestId)
  results := results

lemma fills_releaseResult : Fills readReleaseResult releaseResultLayout releaseResultOf where
  reads scalars field flags bytes value := by
    cases field <;>
      simp [readReleaseResult, read_u64_iff, read_u32_iff, read_text_iff, Fitting,
        releaseResultLayout, Shape.Reads, releaseResultOf]

/-- The native decoder of release results returns the results within their bounds whose contents
the container has. -/
lemma decodeReleaseResult_eq_ok_iff {container : Tlv} {result : QsgpReleaseResult} :
    decodeReleaseResult container = .ok result ↔
      result.Sendable ∧ result.normalize = result ∧
        ∃ collected, collect container.value [] = .ok collected ∧
          collected.scalar = result.scalars := by
  refine (fills_releaseResult.run_iff fun present result =>
    if ¬ present .serviceId ∨ ¬ present .reservationId ∨ ¬ present .reservationState ∨
        result.reservationId = 0 ∨ result.state < 1 ∨ 7 < result.state then
      .error .invalid
    else .ok result).trans ?_
  constructor
  · rintro ⟨collected, hcollect, hfitting, hcheck⟩
    split_ifs at hcheck with hmissing
    obtain rfl := Except.ok.inj hcheck
    simp only [not_or, not_not, not_lt] at hmissing
    obtain ⟨hservice, hid, hstate, hnonzero, hlow, hhigh⟩ := hmissing
    have hservice := hfitting.text_of_present rfl hservice
    have hid := hfitting.u64_of_present rfl hid
    refine ⟨⟨hservice.1, ⟨Nat.pos_of_ne_zero hnonzero, hid.1⟩, ⟨hlow, hhigh⟩,
      fun _ => (hfitting.u32 rfl).1, (hfitting.text rfl).1⟩, ?_, collected, hcollect,
      funext fun field => ?_⟩
    · simp only [QsgpReleaseResult.normalize, releaseResultOf, kept_number, kept_chars]
    · cases field
      case serviceId => exact hservice.2
      case reservationId => exact hid.2
      case reservationState => exact (hfitting.u32_of_present rfl hstate).2
      case gatewayErrorCode => exact (hfitting.u32 rfl).2
      case diagnostic => exact (hfitting.text rfl).2
      all_goals exact hfitting.absent rfl
  · rintro ⟨h, hnormal, collected, hcollect, hscalar⟩
    have hstate : result.state < 2 ^ 32 := by
      have := h.state.2
      omega
    have hfitting : AllFitting releaseResultLayout result.scalars := by
      intro field value hvalue
      cases field
      all_goals
        simp only [QsgpReleaseResult.scalars, present_eq_some_iff, Option.some.injEq,
          reduceCtorEq] at hvalue
      case serviceId => exact hvalue ▸ fitting_text rfl h.serviceId
      case reservationId => exact hvalue ▸ fitting_u64 rfl _
      case reservationState => exact hvalue ▸ fitting_u32 rfl _
      case gatewayErrorCode => exact hvalue.2 ▸ fitting_u32 rfl _
      case diagnostic => exact hvalue.2 ▸ fitting_text rfl (h.diagnostic hvalue.1)
    have hfilled : releaseResultOf result.scalars = result.normalize := by
      simp only [releaseResultOf, QsgpReleaseResult.scalars, isSome_present, number_some,
        chars_some, number_u64 h.reservationId.2, number_u32 hstate,
        number_present_u32 h.gatewayError, chars_present]
      rfl
    refine ⟨collected, hcollect, hscalar ▸ hfitting, ?_⟩
    rw [hscalar, hfilled, hnormal, if_neg]
    have := h.reservationId.1
    have := h.state
    simp only [QsgpReleaseResult.scalars, Option.isSome_some, not_true_eq_false, false_or]
    omega

/-- The value of a release result container. -/
def releaseResultElement (bytes : List UInt8) : Except Status QsgpReleaseResult :=
  decodeReleaseResult (Field.releaseResult.tlv bytes)

/-- `decode_release_result` on the value of a container. -/
lemma releaseResultElement_eq_ok_iff {bytes : List UInt8} {result : QsgpReleaseResult} :
    releaseResultElement bytes = .ok result ↔
      result.Sendable ∧ result.normalize = result ∧
        ∃ collected, collect bytes [] = .ok collected ∧ collected.scalar = result.scalars :=
  decodeReleaseResult_eq_ok_iff

lemma fillsMessage_releaseResponse :
    FillsMessage .releaseResult appendReleaseResult readReleaseResponse releaseResponseLayout
      releaseResultElement releaseResponseOf where
  reads scalars results field flags bytes value hne := by
    cases field <;>
      simp [readReleaseResponse, read_u64_iff, Fitting, releaseResponseLayout, Shape.Reads,
        releaseResponseOf]
  appends scalars results tlv value := by
    have helement : decodeReleaseResult tlv = releaseResultElement tlv.value := rfl
    by_cases hroom : results.length < maxServices
    · simp [appendReleaseResult, releaseResponseOf, helement, hroom, not_le.mpr hroom,
        map_eq_ok_iff]
    · simp [appendReleaseResult, releaseResponseOf, not_lt.mp hroom, hroom, throw_bind]

/-- The native decoder of release responses returns the responses within their bounds whose
contents the frame has. -/
theorem qsgpDecodeReleaseResponse_eq_ok_iff {data : List UInt8} {header : QsgpHeader}
    {response : QsgpReleaseResponse} :
    qsgpDecodeReleaseResponse data = .ok (header, response) ↔
      ∃ correlationId payload, Framed .releaseResponse correlationId payload data ∧
        header = .read .releaseResponse correlationId payload ∧ response.Sendable ∧
          response.normalize = response ∧
          Carries .releaseResult releaseResultElement payload response.scalars
            response.results := by
  refine (fillsMessage_releaseResponse.decode_iff fun header present response =>
    if ¬ present .requestId ∨ response.requestId = 0 then .error .invalid
    else .ok (header, response)).trans ?_
  constructor
  · rintro ⟨correlationId, payload, collected, results, hframed, hcollect, hfitting, hresults,
      hcheck⟩
    split_ifs at hcheck with hmissing
    obtain ⟨rfl, rfl⟩ := Prod.mk.inj (Except.ok.inj hcheck)
    simp only [not_or, not_not] at hmissing
    obtain ⟨hid, hnonzero⟩ := hmissing
    have hid := hfitting.u64_of_present rfl hid
    have hsendable (result : QsgpReleaseResult) (hmem : result ∈ results) :
        result.Sendable ∧ result.normalize = result := by
      obtain ⟨bytes, helement⟩ := hresults.exists_value hmem
      obtain ⟨h, hnormal, -⟩ := releaseResultElement_eq_ok_iff.mp helement
      exact ⟨h, hnormal⟩
    refine ⟨correlationId, payload, hframed, rfl, ⟨⟨Nat.pos_of_ne_zero hnonzero, hid.1⟩,
      hresults.count, fun result hmem => (hsendable result hmem).1⟩, ?_, collected, hcollect,
      funext fun field => ?_, hresults⟩
    · have hmap : results.map QsgpReleaseResult.normalize = results :=
        (List.map_congr_left fun result hmem => (hsendable result hmem).2).trans (List.map_id' _)
      simp only [QsgpReleaseResponse.normalize, releaseResponseOf, hmap]
    · cases field
      case requestId => exact hid.2
      all_goals exact hfitting.absent rfl
  · rintro ⟨correlationId, payload, hframed, rfl, h, hnormal, collected, hcollect, hscalar,
      hresults⟩
    have hfitting : AllFitting releaseResponseLayout response.scalars := by
      intro field value hvalue
      cases field
      case requestId => exact Option.some.inj hvalue ▸ fitting_u64 rfl _
      all_goals exact (nomatch hvalue)
    have hfilled : releaseResponseOf response.scalars response.results = response := by
      simp only [releaseResponseOf, QsgpReleaseResponse.scalars, number_some,
        number_u64 h.requestId.2]
    refine ⟨correlationId, payload, collected, response.results, hframed, hcollect,
      hscalar ▸ hfitting, hresults, ?_⟩
    rw [hscalar, hfilled, if_neg]
    have := h.requestId.1
    simp only [QsgpReleaseResponse.scalars, Option.isSome_some, not_true_eq_false, false_or]
    omega

end QfwSlurm.Native
