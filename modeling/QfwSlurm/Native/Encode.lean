import QfwSlurm.Native.Responses

/-!
# Encoding messages in the native client

The builder and the encoders of `src/protocol/qsgp_encode.c`.  A builder is the list of the bytes
added so far; it refuses to grow beyond the largest frame.

Adding fields `Writes` their bytes: it ends well when the values are good and there is room, and
then the bytes stand behind those that were there before.  Writes are composed field by field, so
that an encoder accepts exactly the messages that pass its checks and writes their contents in a
frame.  The checks are those of `Sendable`, except that the encoder of release responses does not
look at the reservation ids and the states of its results (`QsgpReleaseResponse.Writable`).
-/

namespace QfwSlurm.Native

open Wire

/-! ### The builder -/

/-- `UINT32_MAX` -/
def uint32Max : ℕ := 2 ^ 32 - 1

/-- Adding to a builder. -/
abbrev Writer : Type := List UInt8 → Except Status (List UInt8)

/-- `bounded_strlen` -/
def boundedStrlen (value : List UInt8) (maximum : ℕ) : ℕ :=
  if value.length ≤ maximum then value.length else maximum + 1

/-- `builder_reserve` -/
def builderReserve (builder : List UInt8) (additional : ℕ) : Except Status Unit :=
  if maxFrameSize < additional ∨ maxFrameSize - additional < builder.length then .error .bounds
  else .ok ()

/-- `qsgp_builder_init` -/
def builderInit (initialSize : ℕ) : Except Status (List UInt8) :=
  if maxFrameSize < initialSize then .error .invalid
  else do
    builderReserve [] initialSize
    return List.replicate initialSize 0

/-- `qsgp_builder_add_raw` -/
def builderAddRaw (data : List UInt8) : Writer := fun builder => do
  builderReserve builder data.length
  return builder ++ data

/-- `qsgp_builder_add_tlv` -/
def builderAddTlv (type flags : ℕ) (value : List UInt8) : Writer := fun builder => do
  if uint32Max < value.length then throw .invalid
  let builder ← builderAddRaw (bigEndian 2 type ++ bigEndian 2 flags ++ bigEndian 4 value.length)
    builder
  let builder ← builderAddRaw value builder
  builderAddRaw (List.replicate (padding value.length) 0) builder

/-- `qsgp_builder_add_u32` -/
def builderAddU32 (field : Field) (value : ℕ) : Writer :=
  builderAddTlv field.code tlvRequired (bigEndian 4 value)

/-- `qsgp_builder_add_u64` -/
def builderAddU64 (field : Field) (value : ℕ) : Writer :=
  builderAddTlv field.code tlvRequired (bigEndian 8 value)

/-- `qsgp_builder_add_string` -/
def builderAddString (field : Field) (value : List UInt8) (maximumSize : ℕ) : Writer :=
  if boundedStrlen value maximumSize = 0 ∨ maximumSize < boundedStrlen value maximumSize then
    fun _ => .error .invalid
  else builderAddTlv field.code tlvRequired value

/-- `qsgp_builder_finish` -/
def builderFinish (builder : List UInt8) (messageType : MessageType) (correlationId : ℕ) :
    Except Status (List UInt8) :=
  let payloadSize := builder.length - headerSize
  if correlationId = 0 ∨ builder.length < headerSize then .error .invalid
  else if uint32Max < payloadSize then .error .bounds
  else .ok (headerBytes messageType correlationId payloadSize ++ builder.drop headerSize)

/-- Fields that are added in turn, up to the first that fails, as `ADD_FIELD` and `ADD_NESTED`
do. -/
def addFields (writers : List Writer) : Writer := fun builder =>
  writers.foldlM (fun builder write => write builder) builder

/-- A field that is added if the message has it. -/
def addWhen (has : Bool) (write : Writer) : Writer := fun builder =>
  if has then write builder else .ok builder

/-- A container, whose fields are added to a builder of their own. -/
def addNested (container : Field) (write : Writer) : Writer := fun builder => do
  let nested ← builderInit 0
  let nested ← write nested
  builderAddTlv container.code tlvRequired nested builder

/-- The frame of a message whose fields are added by `write`. -/
def buildFrame (write : Writer) (messageType : MessageType) (correlationId : ℕ) :
    Except Status (List UInt8) := do
  let builder ← builderInit headerSize
  let builder ← write builder
  builderFinish builder messageType correlationId

/-! ### Requests -/

/-- `add_service_request` -/
def addServiceRequest (serviceId : List UInt8) : Writer :=
  addNested .serviceRequest (builderAddString .serviceId serviceId maxServiceId)

/-- The loop of `validate_service_set`, with the services before those that are left. -/
def validateServices : List (List UInt8) → List (List UInt8) → Except Status Unit
  | _, [] => .ok ()
  | before, serviceId :: serviceIds =>
    let length := boundedStrlen serviceId maxServiceId
    if length = 0 ∨ maxServiceId < length then .error .invalid
    else if serviceId ∈ before then .error .conflict
    else validateServices (serviceId :: before) serviceIds

/-- `validate_service_set` -/
def validateServiceSet (request : QsgpReserveRequest) : Except Status Unit :=
  validateServices [] request.serviceIds

/-- The fields of an admission request. -/
def addAdmissionRequest (request : QsgpReserveRequest) : Writer :=
  let workload := request.workload
  addFields ([
    builderAddU64 .requestId request.requestId,
    builderAddString .clusterName request.clusterName maxClusterName,
    builderAddU64 .canonicalJobId request.canonicalJobId,
    addWhen request.hasHeteroJobId (builderAddU64 .heteroJobId request.heteroJobId),
    addWhen request.hasHeteroComponent (builderAddU32 .heteroComponent request.heteroComponent),
    builderAddU32 .jobUid request.jobUid,
    builderAddU32 .jobGid request.jobGid,
    addWhen request.hasWorkload (builderAddU32 .workloadKind workload.kind),
    addWhen request.hasWorkload (builderAddU64 .walltimeNs workload.walltimeNs),
    addWhen request.hasWorkload (builderAddU64 .circuitCount workload.circuitCount),
    addWhen request.hasWorkload (builderAddU32 .maxQubits workload.maxQubits),
    addWhen request.hasWorkload (builderAddU64 .maxDepth workload.maxDepth),
    addWhen request.hasWorkload (builderAddU64 .maxShots workload.maxShots),
    addWhen (request.hasWorkload && workload.hasMaxOneQGates)
      (builderAddU64 .maxOneQGates workload.maxOneQGates),
    addWhen (request.hasWorkload && workload.hasMaxTwoQGates)
      (builderAddU64 .maxTwoQGates workload.maxTwoQGates),
    addWhen (request.hasWorkload && workload.hasMaxMeasurements)
      (builderAddU64 .maxMeasurements workload.maxMeasurements)] ++
    request.serviceIds.map addServiceRequest)

/-- `encode_admission_request` -/
def encodeAdmissionRequest (request : QsgpReserveRequest) (messageType : MessageType)
    (correlationId : ℕ) : Except Status (List UInt8) := do
  if request.requestId = 0 ∨ request.canonicalJobId = 0 ∨ request.serviceIds.length = 0 ∨
      maxServices < request.serviceIds.length then
    throw .invalid
  if request.hasHeteroJobId ≠ request.hasHeteroComponent then throw .invalid
  validateServiceSet request
  if request.hasWorkload ∧ request.workload.invalid then throw .invalid
  buildFrame (addAdmissionRequest request) messageType correlationId

/-- `qsgp_encode_reserve_request` -/
def qsgpEncodeReserveRequest (request : QsgpReserveRequest) (correlationId : ℕ) :
    Except Status (List UInt8) :=
  if ¬ request.hasWorkload then .error .invalid
  else encodeAdmissionRequest request .reserveRequest correlationId

/-- `qsgp_encode_evaluate_request` -/
def qsgpEncodeEvaluateRequest (request : QsgpReserveRequest) (correlationId : ℕ) :
    Except Status (List UInt8) :=
  if ¬ request.hasWorkload then .error .invalid
  else encodeAdmissionRequest request .evaluateRequest correlationId

/-- The fields of a release request. -/
def addReleaseRequest (request : QsgpReleaseRequest) : Writer :=
  addFields [
    builderAddU64 .requestId request.requestId,
    builderAddString .clusterName request.clusterName maxClusterName,
    builderAddU64 .canonicalJobId request.canonicalJobId,
    builderAddU32 .releaseReason request.reason]

/-- `qsgp_encode_release_request` -/
def qsgpEncodeReleaseRequest (request : QsgpReleaseRequest) (correlationId : ℕ) :
    Except Status (List UInt8) :=
  if request.requestId = 0 ∨ request.canonicalJobId = 0 then .error .invalid
  else buildFrame (addReleaseRequest request) .releaseRequest correlationId

/-- The fields of a get-reservations request. -/
def addGetReservationsRequest (request : QsgpGetReservationsRequest) : Writer :=
  addFields [
    builderAddU64 .requestId request.requestId,
    builderAddString .clusterName request.clusterName maxClusterName,
    builderAddU64 .observedJobId request.observedJobId,
    builderAddU32 .jobUid request.jobUid,
    builderAddU32 .jobGid request.jobGid]

/-- `qsgp_encode_get_reservations_request` -/
def qsgpEncodeGetReservationsRequest (request : QsgpGetReservationsRequest)
    (correlationId : ℕ) : Except Status (List UInt8) :=
  if request.requestId = 0 ∨ request.observedJobId = 0 then .error .invalid
  else buildFrame (addGetReservationsRequest request) .getReservationsRequest correlationId

/-! ### Responses -/

/-- `add_service_result` -/
def addServiceResult (result : QsgpServiceResult) : Writer :=
  addNested .serviceResult (addFields [
    builderAddString .serviceId result.serviceId maxServiceId,
    builderAddU32 .admissionDecision result.decision,
    builderAddU64 .reasonCode result.reasonCode,
    addWhen result.hasReservationId (builderAddU64 .reservationId result.reservationId),
    addWhen result.hasRetryAfterNs (builderAddU64 .retryAfterNs result.retryAfterNs),
    addWhen result.hasEstimatedStartNs (builderAddU64 .estimatedStartNs result.estimatedStartNs),
    addWhen result.hasEstimatedFinishNs
      (builderAddU64 .estimatedFinishNs result.estimatedFinishNs),
    addWhen result.hasRuntimeId (builderAddString .qpmRuntimeId result.qpmRuntimeId maxServiceId),
    addWhen result.hasGeneration (builderAddU64 .qpmGeneration result.qpmGeneration),
    addWhen result.hasDiagnostic (builderAddString .diagnostic result.diagnostic maxDiagnostic)])

/-- The checks of `validate_admission_response` on one result. -/
def invalidServiceResult (result : QsgpServiceResult) (reserve : Bool) : Bool :=
  let length := boundedStrlen result.serviceId maxServiceId
  length = 0 ∨ maxServiceId < length ∨ result.decision < admissionAccepted ∨
    admissionRejected < result.decision ∨
    (reserve ∧ result.decision = admissionAccepted ∧
      (¬ result.hasReservationId ∨ result.reservationId = 0)) ∨
    (¬ reserve ∧ result.hasReservationId) ∨
    (result.decision ≠ admissionAccepted ∧ result.hasReservationId)

/-- The loop of `validate_admission_response`, with the names of the results before those that are
left. -/
def validateResults (decision : ℕ) (reserve : Bool) :
    List (List UInt8) → List QsgpServiceResult → Except Status Unit
  | _, [] => .ok ()
  | names, result :: results =>
    if invalidServiceResult result reserve then .error .invalid
    else if result.serviceId ∈ names then .error .conflict
    else if decision = admissionAccepted ∧ result.decision ≠ admissionAccepted then .error .invalid
    else validateResults decision reserve (result.serviceId :: names) results

/-- `validate_admission_response` -/
def validateAdmissionResponse (response : QsgpReserveResponse) (reserve : Bool) :
    Except Status Unit := do
  validateResults response.decision reserve [] response.results
  let foundDelayed := response.results.any (·.decision = admissionDelayed)
  let foundRejected := response.results.any (·.decision = admissionRejected)
  if response.decision = admissionRejected ∧ ¬ foundRejected then throw .invalid
  if response.decision = admissionDelayed ∧ (foundRejected ∨ ¬ foundDelayed) then throw .invalid

/-- The fields of an admission response. -/
def addAdmissionResponse (response : QsgpReserveResponse) : Writer :=
  addFields ([
    builderAddU64 .requestId response.requestId,
    builderAddU32 .admissionDecision response.decision] ++
    response.results.map addServiceResult)

/-- `encode_admission_response` -/
def encodeAdmissionResponse (response : QsgpReserveResponse) (messageType : MessageType)
    (reserve : Bool) (correlationId : ℕ) : Except Status (List UInt8) := do
  if response.requestId = 0 ∨ response.decision < admissionAccepted ∨
      admissionRejected < response.decision ∨ response.results.length = 0 ∨
      maxServices < response.results.length then
    throw .invalid
  validateAdmissionResponse response reserve
  buildFrame (addAdmissionResponse response) messageType correlationId

/-- `qsgp_encode_reserve_response` -/
def qsgpEncodeReserveResponse (response : QsgpReserveResponse) (correlationId : ℕ) :
    Except Status (List UInt8) :=
  encodeAdmissionResponse response .reserveResponse true correlationId

/-- `qsgp_encode_evaluate_response` -/
def qsgpEncodeEvaluateResponse (response : QsgpReserveResponse) (correlationId : ℕ) :
    Except Status (List UInt8) :=
  encodeAdmissionResponse response .evaluateResponse false correlationId

/-- `add_release_result` -/
def addReleaseResult (result : QsgpReleaseResult) : Writer :=
  addNested .releaseResult (addFields [
    builderAddString .serviceId result.serviceId maxServiceId,
    builderAddU64 .reservationId result.reservationId,
    builderAddU32 .reservationState result.state,
    addWhen result.hasGatewayError (builderAddU32 .gatewayErrorCode result.gatewayError),
    addWhen result.hasDiagnostic (builderAddString .diagnostic result.diagnostic maxDiagnostic)])

/-- The fields of a release response. -/
def addReleaseResponse (response : QsgpReleaseResponse) : Writer :=
  addFields ([builderAddU64 .requestId response.requestId] ++
    response.results.map addReleaseResult)

/-- `qsgp_encode_release_response` -/
def qsgpEncodeReleaseResponse (response : QsgpReleaseResponse) (correlationId : ℕ) :
    Except Status (List UInt8) :=
  if response.requestId = 0 ∨ maxServices < response.results.length then .error .invalid
  else buildFrame (addReleaseResponse response) .releaseResponse correlationId

/-- `add_reservation` -/
def addReservation (reservation : QsgpReservation) : Writer :=
  addNested .reservation (addFields [
    builderAddString .serviceId reservation.serviceId maxServiceId,
    builderAddU64 .reservationId reservation.reservationId])

/-- The loop of `qsgp_encode_get_reservations_response`, with the services before those that are
left. -/
def validateReservations : List (List UInt8) → List QsgpReservation → Except Status Unit
  | _, [] => .ok ()
  | names, reservation :: reservations =>
    if reservation.serviceId = [] ∨ reservation.reservationId = 0 then .error .invalid
    else if reservation.serviceId ∈ names then .error .conflict
    else validateReservations (reservation.serviceId :: names) reservations

/-- The fields of a get-reservations response. -/
def addGetReservationsResponse (response : QsgpGetReservationsResponse) : Writer :=
  addFields ([
    builderAddU64 .requestId response.requestId,
    builderAddU64 .canonicalJobId response.canonicalJobId] ++
    response.reservations.map addReservation)

/-- `qsgp_encode_get_reservations_response` -/
def qsgpEncodeGetReservationsResponse (response : QsgpGetReservationsResponse)
    (correlationId : ℕ) : Except Status (List UInt8) := do
  if response.requestId = 0 ∨ response.canonicalJobId = 0 ∨ response.reservations.length = 0 ∨
      maxServices < response.reservations.length then
    throw .invalid
  validateReservations [] response.reservations
  buildFrame (addGetReservationsResponse response) .getReservationsResponse correlationId

/-- The fields of an error. -/
def addErrorResponse (response : QsgpErrorResponse) : Writer :=
  addFields [
    addWhen response.hasRequestId (builderAddU64 .requestId response.requestId),
    builderAddU32 .gatewayErrorCode response.errorCode,
    addWhen response.hasDiagnostic
      (builderAddString .diagnostic response.diagnostic maxDiagnostic)]

/-- `qsgp_encode_error_response` -/
def qsgpEncodeErrorResponse (response : QsgpErrorResponse) (correlationId : ℕ) :
    Except Status (List UInt8) :=
  if response.errorCode = 0 then .error .invalid
  else buildFrame (addErrorResponse response) .errorResponse correlationId

/-! ### What is written -/

/-- An addition to a builder: it ends well when `good` holds and there is room for the bytes, which
then stand behind those that were there before. -/
structure Writes (write : Writer) (good : Prop) (bytes : List UInt8) : Prop where
  spec : ∀ {builder result}, builder.length ≤ maxFrameSize →
    (write builder = .ok result ↔
      good ∧ builder.length + bytes.length ≤ maxFrameSize ∧ result = builder ++ bytes)

lemma builderReserve_eq_ok_iff {builder : List UInt8} {additional : ℕ} :
    builderReserve builder additional = .ok () ↔ builder.length + additional ≤ maxFrameSize := by
  unfold builderReserve
  split_ifs with h
  · simp only [false_iff]
    omega
  · simp only [true_iff]
    omega

lemma builderAddRaw_eq_ok_iff {data builder result : List UInt8} :
    builderAddRaw data builder = .ok result ↔
      builder.length + data.length ≤ maxFrameSize ∧ result = builder ++ data := by
  rw [builderAddRaw, bind_eq_ok_iff]
  constructor
  · rintro ⟨⟨⟩, hroom, hresult⟩
    exact ⟨builderReserve_eq_ok_iff.mp hroom, (Except.ok.inj hresult).symm⟩
  · rintro ⟨hroom, rfl⟩
    exact ⟨(), builderReserve_eq_ok_iff.mpr hroom, rfl⟩

/-- A field writes its encoding. -/
lemma writes_tlv (type flags : ℕ) (value : List UInt8) :
    Writes (builderAddTlv type flags value) True (Tlv.encode ⟨type, flags, value⟩) where
  spec {builder result} hbuilder := by
    have hlength := Tlv.length_encode ⟨type, flags, value⟩
    simp only at hlength
    by_cases hsize : uint32Max < value.length
    · simp only [builderAddTlv, if_pos hsize, throw_bind, reduceCtorEq, true_and, false_iff,
        not_and]
      simp only [uint32Max, maxFrameSize] at *
      omega
    · simp only [builderAddTlv, if_neg hsize, bind_eq_ok_iff, builderAddRaw_eq_ok_iff]
      simp only [List.length_append, length_bigEndian, List.length_replicate, true_and]
      constructor
      · rintro ⟨_, ⟨-, rfl⟩, _, ⟨-, rfl⟩, hroom, rfl⟩
        simp only [List.length_append, length_bigEndian] at hroom
        refine ⟨by rw [hlength, tlvHeaderSize]; omega, ?_⟩
        simp [Tlv.encode]
      · rintro ⟨hroom, rfl⟩
        rw [hlength, tlvHeaderSize] at hroom
        refine ⟨_, ⟨by omega, rfl⟩, _, ⟨?_, rfl⟩, ?_, ?_⟩
        · simp only [List.length_append, length_bigEndian]
          omega
        · simp only [List.length_append, length_bigEndian]
          omega
        · simp [Tlv.encode]

/-- A text that the builder accepts. -/
def WritableText (value : List UInt8) (maximum : ℕ) : Prop :=
  value ≠ [] ∧ value.length ≤ maximum

lemma boundedStrlen_iff {value : List UInt8} {maximum : ℕ} :
    ¬ (boundedStrlen value maximum = 0 ∨ maximum < boundedStrlen value maximum) ↔
      WritableText value maximum := by
  have hnil : value.length = 0 ↔ value = [] := List.length_eq_zero_iff
  unfold boundedStrlen WritableText
  rw [ne_eq, ← hnil]
  split_ifs <;> omega

/-- A field with the given value, as it is written. -/
def fieldBytes (field : Field) (value : Option (List UInt8)) : List UInt8 :=
  encodeAll (value.toList.map field.tlv)

/-- A required field that is added. -/
lemma writes_field (field : Field) (value : List UInt8) :
    Writes (builderAddTlv field.code tlvRequired value) True (fieldBytes field (some value)) := by
  have h := writes_tlv field.code tlvRequired value
  rwa [show fieldBytes field (some value) = Tlv.encode ⟨field.code, tlvRequired, value⟩ by
    simp [fieldBytes, Field.tlv]]

lemma writes_u64 (field : Field) (value : ℕ) :
    Writes (builderAddU64 field value) True (fieldBytes field (some (bigEndian 8 value))) :=
  writes_field field _

lemma writes_u32 (field : Field) (value : ℕ) :
    Writes (builderAddU32 field value) True (fieldBytes field (some (bigEndian 4 value))) :=
  writes_field field _

lemma writes_string (field : Field) (value : List UInt8) (maximum : ℕ) :
    Writes (builderAddString field value maximum) (WritableText value maximum)
      (fieldBytes field (some value)) where
  spec {builder result} hbuilder := by
    unfold builderAddString
    split_ifs with h
    · rw [← boundedStrlen_iff]
      simp [h]
    · rw [(writes_field field value).spec hbuilder]
      simp [boundedStrlen_iff.mp h]

/-- A field that is added when it is there. -/
lemma Writes.when {write : Writer} {good : Prop} {field : Field} {value : List UInt8}
    (h : Writes write good (fieldBytes field (some value))) (has : Bool) :
    Writes (addWhen has write) (has = true → good) (fieldBytes field (present has value)) where
  spec {builder result} hbuilder := by
    cases has with
    | true => simpa [addWhen] using h.spec hbuilder
    | false => simp [addWhen, fieldBytes, hbuilder, eq_comm]

lemma Writes.congr {write : Writer} {good good' : Prop} {bytes : List UInt8}
    (h : Writes write good bytes) (hgood : good ↔ good') : Writes write good' bytes where
  spec {builder result} hbuilder := by rw [h.spec hbuilder, hgood]

lemma writes_u64_when (field : Field) (value : ℕ) (has : Bool) :
    Writes (addWhen has (builderAddU64 field value)) True
      (fieldBytes field (present has (bigEndian 8 value))) :=
  ((writes_u64 field value).when has).congr (by simp)

lemma writes_u32_when (field : Field) (value : ℕ) (has : Bool) :
    Writes (addWhen has (builderAddU32 field value)) True
      (fieldBytes field (present has (bigEndian 4 value))) :=
  ((writes_u32 field value).when has).congr (by simp)

lemma writes_string_when (field : Field) (value : List UInt8) (maximum : ℕ) (has : Bool) :
    Writes (addWhen has (builderAddString field value maximum))
      (has = true → WritableText value maximum) (fieldBytes field (present has value)) :=
  (writes_string field value maximum).when has

/-- Nothing is added. -/
lemma writes_nil : Writes (addFields []) True [] where
  spec {builder result} hbuilder := by
    simp [addFields, pure, Except.pure, hbuilder, eq_comm]

/-- One addition after another. -/
lemma Writes.bind {write write' : Writer} {good good' : Prop} {bytes bytes' : List UInt8}
    (h : Writes write good bytes) (h' : Writes write' good' bytes') :
    Writes (fun builder => write builder >>= write') (good ∧ good') (bytes ++ bytes') where
  spec {builder result} hbuilder := by
    rw [bind_eq_ok_iff, List.length_append]
    constructor
    · rintro ⟨_, hfirst, hsecond⟩
      obtain ⟨hgood, hroom, rfl⟩ := (h.spec hbuilder).mp hfirst
      rw [← List.length_append] at hroom
      obtain ⟨hgood', hroom', rfl⟩ := (h'.spec hroom).mp hsecond
      rw [List.length_append] at hroom'
      exact ⟨⟨hgood, hgood'⟩, by omega, List.append_assoc _ _ _⟩
    · rintro ⟨⟨hgood, hgood'⟩, hroom, rfl⟩
      refine ⟨builder ++ bytes, (h.spec hbuilder).mpr ⟨hgood, by omega, rfl⟩, ?_⟩
      refine (h'.spec (by rw [List.length_append]; omega)).mpr ⟨hgood', ?_, ?_⟩
      · rw [List.length_append]
        omega
      · exact (List.append_assoc _ _ _).symm

lemma Writes.cons {write : Writer} {writers : List Writer} {good goods : Prop}
    {bytes rest : List UInt8} (h : Writes write good bytes)
    (hrest : Writes (addFields writers) goods rest) :
    Writes (addFields (write :: writers)) (good ∧ goods) (bytes ++ rest) :=
  h.bind hrest

lemma Writes.append {writers writers' : List Writer} {good good' : Prop}
    {bytes bytes' : List UInt8} (h : Writes (addFields writers) good bytes)
    (h' : Writes (addFields writers') good' bytes') :
    Writes (addFields (writers ++ writers')) (good ∧ good') (bytes ++ bytes') := by
  have hsplit : addFields (writers ++ writers') =
      fun builder => addFields writers builder >>= addFields writers' := by
    funext builder
    exact List.foldlM_append
  rw [hsplit]
  exact h.bind h'

/-- A text in the order of its message. -/
lemma Writes.text {write : Writer} {writers : List Writer} {good goods : Prop} {field : Field}
    {order : List Field} {scalars : Scalars}
    (h : Writes write good (fieldBytes field (scalars field)))
    (hrest : Writes (addFields writers) goods (encodeAll (fieldTlvs order scalars))) :
    Writes (addFields (write :: writers)) (good ∧ goods)
      (encodeAll (fieldTlvs (field :: order) scalars)) := by
  rw [encodeAll_fieldTlvs_cons]
  exact h.cons hrest

/-- A number in the order of its message; it is never refused. -/
lemma Writes.number {write : Writer} {writers : List Writer} {goods : Prop} {field : Field}
    {order : List Field} {scalars : Scalars}
    (h : Writes write True (fieldBytes field (scalars field)))
    (hrest : Writes (addFields writers) goods (encodeAll (fieldTlvs order scalars))) :
    Writes (addFields (write :: writers)) goods
      (encodeAll (fieldTlvs (field :: order) scalars)) :=
  (h.text hrest).congr (iff_of_eq (true_and goods))

lemma writes_no_fields (scalars : Scalars) :
    Writes (addFields []) True (encodeAll (fieldTlvs [] scalars)) :=
  writes_nil

/-- A container is added when its fields can be. -/
lemma Writes.nested {write : Writer} {good : Prop} {bytes : List UInt8} (h : Writes write good bytes)
    (container : Field) :
    Writes (addNested container write) good (fieldBytes container (some bytes)) where
  spec {builder result} hbuilder := by
    have hempty : builderInit 0 = .ok [] := rfl
    have hlength : (container.tlv bytes).encode.length = _ + bytes.length + _ :=
      Tlv.length_encode (container.tlv bytes)
    have hroom_empty : ([] : List UInt8).length ≤ maxFrameSize := Nat.zero_le _
    rw [addNested, hempty]
    change (write [] >>= fun nested =>
      builderAddTlv container.code tlvRequired nested builder) = .ok result ↔ _
    simp only [bind_eq_ok_iff, h.spec hroom_empty, (writes_field container _).spec hbuilder]
    constructor
    · rintro ⟨_, ⟨hgood, -, rfl⟩, -, hroom, rfl⟩
      exact ⟨hgood, hroom, rfl⟩
    · rintro ⟨hgood, hroom, rfl⟩
      refine ⟨bytes, ⟨hgood, ?_, rfl⟩, trivial, hroom, rfl⟩
      simp only [fieldBytes, Option.toList_some, List.map_singleton, encodeAll_cons, encodeAll_nil,
        List.append_nil, hlength] at hroom
      rw [List.length_nil]
      omega

/-- Containers are added one after the other. -/
lemma writes_containers {β : Type} (container : Field) {write : β → Writer} {good : β → Prop}
    {item : β → List UInt8}
    (h : ∀ value, Writes (write value) (good value) (fieldBytes container (some (item value))))
    (values : List β) :
    Writes (addFields (values.map write)) (∀ value ∈ values, good value)
      (encodeAll ((values.map item).map container.tlv)) := by
  induction values with
  | nil => simpa using writes_nil
  | cons value values ih =>
    have hcons := (h value).cons ih
    have hbytes : encodeAll (((value :: values).map item).map container.tlv) =
        fieldBytes container (some (item value)) ++
          encodeAll ((values.map item).map container.tlv) := by
      simp [fieldBytes]
    rw [hbytes, List.map_cons]
    refine ⟨fun {builder result} hbuilder => ?_⟩
    rw [hcons.spec hbuilder, List.forall_mem_cons]

/-- The scalar fields of a message and its containers. -/
lemma Writes.message {β : Type} {writers : List Writer} {good : Prop} {order : List Field}
    {scalars : Scalars} (h : Writes (addFields writers) good (encodeAll (fieldTlvs order scalars)))
    {container : Field} {write : β → Writer} {goods : β → Prop} {item : β → List UInt8}
    (hitem : ∀ value, Writes (write value) (goods value) (fieldBytes container (some (item value))))
    (values : List β) :
    Writes (addFields (writers ++ values.map write)) (good ∧ ∀ value ∈ values, goods value)
      (encodeAll (messageTlvs order scalars container (values.map item))) := by
  rw [messageTlvs, encodeAll_append]
  exact h.append (writes_containers container hitem values)

/-- A frame is built when its fields can be added and there is room for them. -/
lemma Writes.buildFrame_eq_ok_iff {write : Writer} {good : Prop} {payload : List UInt8}
    (h : Writes write good payload) {messageType : MessageType} {correlationId : ℕ}
    {bytes : List UInt8} :
    buildFrame write messageType correlationId = .ok bytes ↔
      good ∧ headerSize + payload.length ≤ maxFrameSize ∧ correlationId ≠ 0 ∧
        bytes = frameBytes messageType correlationId payload := by
  have hinit : builderInit headerSize = .ok (List.replicate headerSize 0) := rfl
  have hroom : (List.replicate headerSize (0 : UInt8)).length ≤ maxFrameSize := by
    rw [List.length_replicate]
    decide
  have hfinish (hsize : headerSize + payload.length ≤ maxFrameSize) :
      builderFinish (List.replicate headerSize 0 ++ payload) messageType correlationId =
        .ok bytes ↔
        correlationId ≠ 0 ∧ bytes = frameBytes messageType correlationId payload := by
    have hlength : (List.replicate headerSize (0 : UInt8) ++ payload).length =
        headerSize + payload.length := by
      rw [List.length_append, List.length_replicate]
    have hdrop : (List.replicate headerSize (0 : UInt8) ++ payload).drop headerSize = payload :=
      List.drop_left' List.length_replicate
    by_cases hzero : correlationId = 0
    · simp [builderFinish, hzero]
    · have hfits : ¬ uint32Max < payload.length := by
        simp only [uint32Max, maxFrameSize] at *
        omega
      simp only [builderFinish, hlength, hdrop, Nat.add_sub_cancel_left, hzero, hfits, false_or,
        if_false, not_lt.mpr (Nat.le_add_right headerSize payload.length), frameBytes, ne_eq,
        not_false_eq_true, true_and, Except.ok.injEq, eq_comm]
  simp only [buildFrame, hinit, bind_eq_ok_iff, Except.ok.injEq, exists_eq_left', h.spec hroom]
  rw [List.length_replicate]
  constructor
  · rintro ⟨_, ⟨hgood, hsize, rfl⟩, hframe⟩
    exact ⟨hgood, hsize, (hfinish hsize).mp hframe⟩
  · rintro ⟨hgood, hsize, hframe⟩
    exact ⟨_, ⟨hgood, hsize, rfl⟩, (hfinish hsize).mpr hframe⟩

/-- An encoder whose checks and texts are those of `sendable`. -/
lemma Writes.encode_eq_ok_iff {write : Writer} {good : Prop} {payload : List UInt8}
    (h : Writes write good payload) {passed sendable : Prop}
    (hsendable : sendable ↔ passed ∧ good)
    (hsize : sendable → headerSize + payload.length ≤ maxFrameSize) {messageType : MessageType}
    {correlationId : ℕ} {bytes : List UInt8} :
    (passed ∧ buildFrame write messageType correlationId = .ok bytes) ↔
      sendable ∧ correlationId ≠ 0 ∧ bytes = frameBytes messageType correlationId payload := by
  rw [h.buildFrame_eq_ok_iff]
  constructor
  · rintro ⟨hpassed, hgood, -, hframe⟩
    exact ⟨hsendable.mpr ⟨hpassed, hgood⟩, hframe⟩
  · rintro ⟨hall, hframe⟩
    obtain ⟨hpassed, hgood⟩ := hsendable.mp hall
    exact ⟨hpassed, hgood, hsize hall, hframe⟩

section Checks

variable {α : Type} {refused : Prop} [Decidable refused] {status : Status}
  {next : Except Status α} {result : α}

/-- A check before the rest of an encoder has to pass. -/
lemma error_or_eq_ok_iff :
    (if refused then .error status else next) = .ok result ↔ ¬ refused ∧ next = .ok result := by
  by_cases h : refused <;> simp [h]

/-- A check before the rest of an encoder has to pass. -/
lemma throw_or_eq_ok_iff {β : Type} {rest : β → Except Status α} :
    (if refused then (throw status : Except Status β) >>= rest else next) = .ok result ↔
      ¬ refused ∧ next = .ok result := by
  by_cases h : refused <;> simp [h, throw_bind]

end Checks

end QfwSlurm.Native
