import QfwSlurm.Native.Encode

/-!
# The frames the native encoders write

Each encoder of `src/protocol/qsgp_encode.c` accepts, among the values of its C type (`Typed`),
exactly those within their bounds, and writes a frame with their contents; none fails for the size
of the frame.  Release responses are the exception: what their encoder accepts is `Writable`.
-/

namespace QfwSlurm.Native

open Wire

/-! ### Release and get-reservations requests -/

/-- A value of `struct qsgp_release_request`: numbers of their width and a text without NUL. -/
structure QsgpReleaseRequest.Typed (request : QsgpReleaseRequest) : Prop where
  requestId : request.requestId < 2 ^ 64
  clusterName : 0 ∉ request.clusterName
  canonicalJobId : request.canonicalJobId < 2 ^ 64
  reason : request.reason < 2 ^ 32

/-- A value of `struct qsgp_get_reservations_request`. -/
structure QsgpGetReservationsRequest.Typed (request : QsgpGetReservationsRequest) : Prop where
  requestId : request.requestId < 2 ^ 64
  clusterName : 0 ∉ request.clusterName
  observedJobId : request.observedJobId < 2 ^ 64
  jobUid : request.jobUid < 2 ^ 32
  jobGid : request.jobGid < 2 ^ 32

/-- The payload of a release request as it is written. -/
def QsgpReleaseRequest.payload (request : QsgpReleaseRequest) : List UInt8 :=
  encodeAll (fieldTlvs releaseFields request.scalars)

/-- The payload of a get-reservations request as it is written. -/
def QsgpGetReservationsRequest.payload (request : QsgpGetReservationsRequest) : List UInt8 :=
  encodeAll (fieldTlvs getReservationsFields request.scalars)

/-- A text without NUL fits when it can be written. -/
lemma charsFit_iff {value : List UInt8} {maximum : ℕ} (hplain : 0 ∉ value) :
    CharsFit value maximum ↔ WritableText value maximum :=
  ⟨fun h => ⟨h.nonempty, h.bounded⟩, fun h => ⟨h.1, h.2, hplain⟩⟩

lemma writes_releaseRequest (request : QsgpReleaseRequest) :
    Writes (addReleaseRequest request) (WritableText request.clusterName maxClusterName ∧ True)
      request.payload :=
  .number (writes_u64 _ _) <| .text (writes_string _ _ _) <| .number (writes_u64 _ _) <|
    .number (writes_u32 _ _) <| writes_no_fields _

lemma writes_getReservationsRequest (request : QsgpGetReservationsRequest) :
    Writes (addGetReservationsRequest request)
      (WritableText request.clusterName maxClusterName ∧ True) request.payload :=
  .number (writes_u64 _ _) <| .text (writes_string _ _ _) <| .number (writes_u64 _ _) <|
    .number (writes_u32 _ _) <| .number (writes_u32 _ _) <| writes_no_fields _

lemma QsgpReleaseRequest.Sendable.length_payload_le {request : QsgpReleaseRequest}
    (h : request.Sendable) : headerSize + request.payload.length ≤ maxFrameSize := by
  have hbounded : Bounded request.scalars := by
    intro field value hvalue
    cases field
    case clusterName => exact Option.some.inj hvalue ▸ h.clusterName.bounded
    all_goals simp only [QsgpReleaseRequest.scalars, Option.some.injEq, reduceCtorEq] at hvalue
    all_goals exact hvalue ▸ by simp [Field.maxLength]
  have hlength := hbounded.length_fieldTlvs_le releaseFields
  refine (Nat.add_le_add_left hlength headerSize).trans ?_
  decide

lemma QsgpGetReservationsRequest.Sendable.length_payload_le {request : QsgpGetReservationsRequest}
    (h : request.Sendable) : headerSize + request.payload.length ≤ maxFrameSize := by
  have hbounded : Bounded request.scalars := by
    intro field value hvalue
    cases field
    case clusterName => exact Option.some.inj hvalue ▸ h.clusterName.bounded
    all_goals
      simp only [QsgpGetReservationsRequest.scalars, Option.some.injEq, reduceCtorEq] at hvalue
    all_goals exact hvalue ▸ by simp [Field.maxLength]
  have hlength := hbounded.length_fieldTlvs_le getReservationsFields
  refine (Nat.add_le_add_left hlength headerSize).trans ?_
  decide

/-- The encoder of release requests accepts the requests within their bounds. -/
theorem qsgpEncodeReleaseRequest_eq_ok_iff {request : QsgpReleaseRequest} (h : request.Typed)
    {correlationId : ℕ} {bytes : List UInt8} :
    qsgpEncodeReleaseRequest request correlationId = .ok bytes ↔
      request.Sendable ∧ correlationId ≠ 0 ∧
        bytes = frameBytes .releaseRequest correlationId request.payload := by
  have hsendable : request.Sendable ↔ ¬ (request.requestId = 0 ∨ request.canonicalJobId = 0) ∧
      WritableText request.clusterName maxClusterName := by
    rw [← charsFit_iff h.clusterName]
    constructor
    · rintro ⟨hid, hcluster, hcanonical, -⟩
      have := hid.1
      have := hcanonical.1
      exact ⟨by omega, hcluster⟩
    · rintro ⟨hnonzero, hcluster⟩
      rw [not_or] at hnonzero
      exact ⟨⟨Nat.pos_of_ne_zero hnonzero.1, h.requestId⟩, hcluster,
        ⟨Nat.pos_of_ne_zero hnonzero.2, h.canonicalJobId⟩, h.reason⟩
  rw [qsgpEncodeReleaseRequest, error_or_eq_ok_iff]
  refine (writes_releaseRequest request).encode_eq_ok_iff ?_ fun hall => hall.length_payload_le
  simpa using hsendable

/-- The encoder of get-reservations requests accepts the requests within their bounds. -/
theorem qsgpEncodeGetReservationsRequest_eq_ok_iff {request : QsgpGetReservationsRequest}
    (h : request.Typed) {correlationId : ℕ} {bytes : List UInt8} :
    qsgpEncodeGetReservationsRequest request correlationId = .ok bytes ↔
      request.Sendable ∧ correlationId ≠ 0 ∧
        bytes = frameBytes .getReservationsRequest correlationId request.payload := by
  have hsendable : request.Sendable ↔ ¬ (request.requestId = 0 ∨ request.observedJobId = 0) ∧
      WritableText request.clusterName maxClusterName := by
    rw [← charsFit_iff h.clusterName]
    constructor
    · rintro ⟨hid, hcluster, hobserved, -, -⟩
      have := hid.1
      have := hobserved.1
      exact ⟨by omega, hcluster⟩
    · rintro ⟨hnonzero, hcluster⟩
      rw [not_or] at hnonzero
      exact ⟨⟨Nat.pos_of_ne_zero hnonzero.1, h.requestId⟩, hcluster,
        ⟨Nat.pos_of_ne_zero hnonzero.2, h.observedJobId⟩, h.jobUid, h.jobGid⟩
  rw [qsgpEncodeGetReservationsRequest, error_or_eq_ok_iff]
  refine (writes_getReservationsRequest request).encode_eq_ok_iff ?_
    fun hall => hall.length_payload_le
  simpa using hsendable

/-! ### Admission requests -/

/-- A value of `struct qsgp_workload`. -/
structure QsgpWorkload.Typed (workload : QsgpWorkload) : Prop where
  kind : workload.kind < 2 ^ 32
  walltimeNs : workload.walltimeNs < 2 ^ 64
  circuitCount : workload.circuitCount < 2 ^ 64
  maxQubits : workload.maxQubits < 2 ^ 32
  maxDepth : workload.maxDepth < 2 ^ 64
  maxShots : workload.maxShots < 2 ^ 64
  maxOneQGates : workload.maxOneQGates < 2 ^ 64
  maxTwoQGates : workload.maxTwoQGates < 2 ^ 64
  maxMeasurements : workload.maxMeasurements < 2 ^ 64

/-- A value of `struct qsgp_reserve_request`. -/
structure QsgpReserveRequest.Typed (request : QsgpReserveRequest) : Prop where
  requestId : request.requestId < 2 ^ 64
  clusterName : 0 ∉ request.clusterName
  canonicalJobId : request.canonicalJobId < 2 ^ 64
  heteroJobId : request.heteroJobId < 2 ^ 64
  heteroComponent : request.heteroComponent < 2 ^ 32
  jobUid : request.jobUid < 2 ^ 32
  jobGid : request.jobGid < 2 ^ 32
  workload : request.workload.Typed
  serviceIds : ∀ serviceId ∈ request.serviceIds, 0 ∉ serviceId

/-- The payload of an admission request as it is written. -/
def QsgpReserveRequest.payload (request : QsgpReserveRequest) : List UInt8 :=
  encodeAll (messageTlvs admissionFields request.scalars .serviceRequest
    (request.serviceIds.map serviceItem))

lemma writes_serviceRequest (serviceId : List UInt8) :
    Writes (addServiceRequest serviceId) (WritableText serviceId maxServiceId)
      (fieldBytes .serviceRequest (some (serviceItem serviceId))) := by
  have h : Writes (builderAddString .serviceId serviceId maxServiceId)
      (WritableText serviceId maxServiceId) (serviceItem serviceId) := by
    rw [serviceItem, encodeAll_fieldTlvs_cons, fieldTlvs_nil, encodeAll_nil, List.append_nil]
    exact writes_string _ _ _
  exact h.nested .serviceRequest

/-- The scalar fields of an admission request, in the order of the encoder. -/
lemma writes_admissionRequest (request : QsgpReserveRequest) :
    Writes (addAdmissionRequest request)
      ((WritableText request.clusterName maxClusterName ∧ True) ∧
        ∀ serviceId ∈ request.serviceIds, WritableText serviceId maxServiceId)
      request.payload := by
  refine .message ?_ writes_serviceRequest request.serviceIds
  refine .number (writes_u64 _ _) ?_
  refine .text (writes_string _ _ _) ?_
  refine .number (writes_u64 _ _) ?_
  refine .number (writes_u64_when _ _ _) ?_
  refine .number (writes_u32_when _ _ _) ?_
  refine .number (writes_u32 _ _) (.number (writes_u32 _ _) ?_)
  -- The workload envelope, of which each field is written only with the kind.
  refine .number (writes_u32_when _ _ _) ?_
  refine .number (writes_u64_when _ _ _) ?_
  refine .number (writes_u64_when _ _ _) ?_
  refine .number (writes_u32_when _ _ _) ?_
  refine .number (writes_u64_when _ _ _) ?_
  refine .number (writes_u64_when _ _ _) ?_
  refine .number (writes_u64_when _ _ _) ?_
  refine .number (writes_u64_when _ _ _) ?_
  refine .number (writes_u64_when _ _ _) ?_
  exact writes_no_fields _

/-- The loop over the services finds no name that cannot be written and no repetition. -/
lemma validateServices_eq_ok_iff {before serviceIds : List (List UInt8)} :
    validateServices before serviceIds = .ok () ↔
      (∀ serviceId ∈ serviceIds, WritableText serviceId maxServiceId) ∧ serviceIds.Nodup ∧
        ∀ serviceId ∈ serviceIds, serviceId ∉ before := by
  induction serviceIds generalizing before with
  | nil => simp [validateServices]
  | cons serviceId serviceIds ih =>
    simp only [validateServices, error_or_eq_ok_iff, boundedStrlen_iff, ih, List.forall_mem_cons,
      List.nodup_cons]
    simp only [List.mem_cons, not_or]
    constructor
    · rintro ⟨hfirst, hseen, hall, hnodup, hnew⟩
      exact ⟨⟨hfirst, hall⟩, ⟨fun hmem => (hnew serviceId hmem).1 rfl, hnodup⟩, hseen,
        fun other hother => (hnew other hother).2⟩
    · rintro ⟨⟨hfirst, hall⟩, ⟨hfresh, hnodup⟩, hseen, hnew⟩
      refine ⟨hfirst, hseen, hall, hnodup, fun other hother => ⟨?_, hnew other hother⟩⟩
      rintro rfl
      exact hfresh hother

/-- The length of a service request as it is written. -/
lemma length_serviceItem_le {serviceId : List UInt8} (h : serviceId.length ≤ maxServiceId) :
    (serviceItem serviceId).length ≤ 267 := by
  have htlv := Field.serviceId.length_tlv_le serviceId
  rw [maxServiceId] at h
  simp only [serviceItem, fieldTlvs, serviceScalars, List.filterMap_cons, Option.map_some,
    List.filterMap_nil, encodeAll_cons, encodeAll_nil, List.append_nil]
  omega

lemma QsgpReserveRequest.Sendable.length_payload_le {request : QsgpReserveRequest}
    (h : request.Sendable) : headerSize + request.payload.length ≤ maxFrameSize := by
  have hbounded : Bounded request.scalars := by
    intro field value hvalue
    cases field
    case clusterName => exact Option.some.inj hvalue ▸ h.clusterName.bounded
    all_goals
      simp only [QsgpReserveRequest.scalars, present_eq_some_iff, Option.some.injEq,
        reduceCtorEq] at hvalue
    all_goals first
      | exact hvalue ▸ by simp [Field.maxLength]
      | exact hvalue.2 ▸ by simp [Field.maxLength]
  have hitems : ∀ item ∈ request.serviceIds.map serviceItem, item.length ≤ 267 := by
    intro item hitem
    obtain ⟨serviceId, hmem, rfl⟩ := List.mem_map.mp hitem
    exact length_serviceItem_le (h.services serviceId hmem).bounded
  have hlength := hbounded.length_messageTlvs_le admissionFields .serviceRequest
    (by simpa using h.count.2) hitems
  refine (Nat.add_le_add_left hlength headerSize).trans ?_
  decide

/-- The checks of the encoder and the texts it writes are those of a request within its bounds. -/
lemma QsgpReserveRequest.Typed.sendable_iff {request : QsgpReserveRequest} (h : request.Typed) :
    request.Sendable ↔ (request.hasWorkload = true ∧
      ¬ (request.requestId = 0 ∨ request.canonicalJobId = 0 ∨ request.serviceIds.length = 0 ∨
        maxServices < request.serviceIds.length) ∧
      request.hasHeteroJobId = request.hasHeteroComponent ∧
      validateServiceSet request = .ok () ∧ request.workload.invalid = false) ∧
      (WritableText request.clusterName maxClusterName ∧ True) ∧
        ∀ serviceId ∈ request.serviceIds, WritableText serviceId maxServiceId := by
  rw [validateServiceSet, validateServices_eq_ok_iff, QsgpWorkload.invalid_eq_false_iff,
    ← charsFit_iff h.clusterName]
  constructor
  · intro hall
    have hwork := hall.workload
    have hservices (serviceId : List UInt8) (hmem : serviceId ∈ request.serviceIds) :
        WritableText serviceId maxServiceId :=
      (charsFit_iff (h.serviceIds serviceId hmem)).mp (hall.services serviceId hmem)
    have hid := hall.requestId.1
    have hcanonical := hall.canonicalJobId.1
    have hcount := hall.count
    exact ⟨⟨hall.hasWorkload, by omega, hall.together, ⟨hservices, hall.distinct, by simp⟩,
      hwork.kind, hwork.walltimeNs.1.ne', hwork.circuitCount.1.ne', hwork.maxQubits.1.ne',
      hwork.maxDepth.1.ne', hwork.maxShots.1.ne'⟩, ⟨hall.clusterName, trivial⟩, hservices⟩
  · rintro ⟨⟨hworkload, hnonzero, htogether, ⟨hservices, hdistinct, -⟩, hkind, hwalltime, hcircuits,
      hqubits, hdepth, hshots⟩, ⟨hcluster, -⟩, -⟩
    have hwork := h.workload
    push Not at hnonzero
    obtain ⟨hid, hcanonical, hpositive, hcount⟩ := hnonzero
    exact {
      requestId := ⟨Nat.pos_of_ne_zero hid, h.requestId⟩
      clusterName := hcluster
      canonicalJobId := ⟨Nat.pos_of_ne_zero hcanonical, h.canonicalJobId⟩
      together := htogether
      heteroJobId := fun _ => h.heteroJobId
      heteroComponent := fun _ => h.heteroComponent
      jobUid := h.jobUid
      jobGid := h.jobGid
      hasWorkload := hworkload
      workload := {
        kind := hkind
        walltimeNs := ⟨Nat.pos_of_ne_zero hwalltime, hwork.walltimeNs⟩
        circuitCount := ⟨Nat.pos_of_ne_zero hcircuits, hwork.circuitCount⟩
        maxQubits := ⟨Nat.pos_of_ne_zero hqubits, hwork.maxQubits⟩
        maxDepth := ⟨Nat.pos_of_ne_zero hdepth, hwork.maxDepth⟩
        maxShots := ⟨Nat.pos_of_ne_zero hshots, hwork.maxShots⟩
        maxOneQGates := fun _ => hwork.maxOneQGates
        maxTwoQGates := fun _ => hwork.maxTwoQGates
        maxMeasurements := fun _ => hwork.maxMeasurements }
      count := ⟨Nat.pos_of_ne_zero hpositive, hcount⟩
      distinct := hdistinct
      services := fun serviceId hmem =>
        (charsFit_iff (h.serviceIds serviceId hmem)).mpr (hservices serviceId hmem) }

/-- The encoders of admission requests accept the requests within their bounds. -/
lemma encodeAdmissionRequest_eq_ok_iff {request : QsgpReserveRequest} (h : request.Typed)
    {messageType : MessageType} {correlationId : ℕ} {bytes : List UInt8} :
    (request.hasWorkload = true ∧
      encodeAdmissionRequest request messageType correlationId = .ok bytes) ↔
      request.Sendable ∧ correlationId ≠ 0 ∧
        bytes = frameBytes messageType correlationId request.payload := by
  have hchecks : (request.hasWorkload = true ∧
      encodeAdmissionRequest request messageType correlationId = .ok bytes) ↔
      (request.hasWorkload = true ∧
        ¬ (request.requestId = 0 ∨ request.canonicalJobId = 0 ∨ request.serviceIds.length = 0 ∨
          maxServices < request.serviceIds.length) ∧
        request.hasHeteroJobId = request.hasHeteroComponent ∧
        validateServiceSet request = .ok () ∧ request.workload.invalid = false) ∧
      buildFrame (addAdmissionRequest request) messageType correlationId = .ok bytes := by
    simp only [encodeAdmissionRequest, throw_or_eq_ok_iff, ne_eq, not_not, bind_eq_ok_iff]
    constructor
    · rintro ⟨hworkload, hnonzero, htogether, ⟨⟩, hservices, hbounds, hbuild⟩
      simp only [hworkload, true_and, Bool.not_eq_true] at hbounds
      exact ⟨⟨hworkload, hnonzero, htogether, hservices, hbounds⟩, hbuild⟩
    · rintro ⟨⟨hworkload, hnonzero, htogether, hservices, hbounds⟩, hbuild⟩
      exact ⟨hworkload, hnonzero, htogether, (), hservices, by simp [hbounds], hbuild⟩
  rw [hchecks]
  exact (writes_admissionRequest request).encode_eq_ok_iff h.sendable_iff
    fun hall => hall.length_payload_le

/-- The encoder of reserve requests accepts the requests within their bounds. -/
theorem qsgpEncodeReserveRequest_eq_ok_iff {request : QsgpReserveRequest} (h : request.Typed)
    {correlationId : ℕ} {bytes : List UInt8} :
    qsgpEncodeReserveRequest request correlationId = .ok bytes ↔
      request.Sendable ∧ correlationId ≠ 0 ∧
        bytes = frameBytes .reserveRequest correlationId request.payload := by
  rw [qsgpEncodeReserveRequest, error_or_eq_ok_iff, not_not]
  exact encodeAdmissionRequest_eq_ok_iff h

/-- The encoder of evaluate requests accepts the requests within their bounds. -/
theorem qsgpEncodeEvaluateRequest_eq_ok_iff {request : QsgpReserveRequest} (h : request.Typed)
    {correlationId : ℕ} {bytes : List UInt8} :
    qsgpEncodeEvaluateRequest request correlationId = .ok bytes ↔
      request.Sendable ∧ correlationId ≠ 0 ∧
        bytes = frameBytes .evaluateRequest correlationId request.payload := by
  rw [qsgpEncodeEvaluateRequest, error_or_eq_ok_iff, not_not]
  exact encodeAdmissionRequest_eq_ok_iff h

/-! ### Admission responses -/

/-- A value of `struct qsgp_service_result`. -/
structure QsgpServiceResult.Typed (result : QsgpServiceResult) : Prop where
  serviceId : 0 ∉ result.serviceId
  decision : result.decision < 2 ^ 32
  reservationId : result.reservationId < 2 ^ 64
  reasonCode : result.reasonCode < 2 ^ 64
  retryAfterNs : result.retryAfterNs < 2 ^ 64
  estimatedStartNs : result.estimatedStartNs < 2 ^ 64
  estimatedFinishNs : result.estimatedFinishNs < 2 ^ 64
  qpmRuntimeId : 0 ∉ result.qpmRuntimeId
  qpmGeneration : result.qpmGeneration < 2 ^ 64
  diagnostic : 0 ∉ result.diagnostic

/-- A value of `struct qsgp_reserve_response`. -/
structure QsgpReserveResponse.Typed (response : QsgpReserveResponse) : Prop where
  requestId : response.requestId < 2 ^ 64
  decision : response.decision < 2 ^ 32
  results : ∀ result ∈ response.results, result.Typed

/-- A result as it is written. -/
def QsgpServiceResult.item (result : QsgpServiceResult) : List UInt8 :=
  encodeAll (fieldTlvs serviceResultFields result.scalars)

/-- The payload of an admission response as it is written. -/
def QsgpReserveResponse.payload (response : QsgpReserveResponse) : List UInt8 :=
  encodeAll (messageTlvs [.requestId, .admissionDecision] response.scalars .serviceResult
    (response.results.map QsgpServiceResult.item))

/-- The texts of a result can be written. -/
def QsgpServiceResult.WritableTexts (result : QsgpServiceResult) : Prop :=
  WritableText result.serviceId maxServiceId ∧
    (result.hasRuntimeId = true → WritableText result.qpmRuntimeId maxServiceId) ∧
      (result.hasDiagnostic = true → WritableText result.diagnostic maxDiagnostic) ∧ True

lemma writes_serviceResult (result : QsgpServiceResult) :
    Writes (addServiceResult result) result.WritableTexts
      (fieldBytes .serviceResult (some result.item)) := by
  have h : Writes _ result.WritableTexts result.item :=
    .text (writes_string _ _ _) <| .number (writes_u32 _ _) <| .number (writes_u64 _ _) <|
      .number (writes_u64_when _ _ _) <| .number (writes_u64_when _ _ _) <|
      .number (writes_u64_when _ _ _) <| .number (writes_u64_when _ _ _) <|
      .text (writes_string_when _ _ _ _) <| .number (writes_u64_when _ _ _) <|
      .text (writes_string_when _ _ _ _) <| writes_no_fields _
  exact h.nested .serviceResult

lemma writes_admissionResponse (response : QsgpReserveResponse) :
    Writes (addAdmissionResponse response)
      (True ∧ ∀ result ∈ response.results, result.WritableTexts) response.payload :=
  .message (.number (writes_u64 _ _) <| .number (writes_u32 _ _) <| writes_no_fields _)
    writes_serviceResult response.results

lemma invalidServiceResult_eq_false_iff {result : QsgpServiceResult} {reserve : Bool} :
    invalidServiceResult result reserve = false ↔
      WritableText result.serviceId maxServiceId ∧
        (admissionAccepted ≤ result.decision ∧ result.decision ≤ admissionRejected) ∧
        (result.hasReservationId = true ↔
          reserve = true ∧ result.decision = admissionAccepted) ∧
        (result.hasReservationId = true → result.reservationId ≠ 0) := by
  simp only [invalidServiceResult, decide_eq_false_iff_not]
  rw [← or_assoc, not_or, boundedStrlen_iff]
  refine and_congr_right' ?_
  by_cases haccepted : result.decision = admissionAccepted
  · have hrange : admissionAccepted ≤ result.decision ∧ result.decision ≤ admissionRejected := by
      rw [haccepted]
      decide
    cases reserve <;> cases result.hasReservationId <;>
      simp [haccepted, admissionAccepted, admissionRejected]
  · cases reserve <;> cases result.hasReservationId <;> simp [haccepted]

/-- The checks of the encoder on a result and the texts it writes are those of a result within its
bounds. -/
lemma QsgpServiceResult.Typed.sendable_iff {result : QsgpServiceResult} (h : result.Typed)
    {reserve : Bool} :
    result.Sendable reserve ↔
      invalidServiceResult result reserve = false ∧ result.WritableTexts := by
  rw [invalidServiceResult_eq_false_iff, QsgpServiceResult.WritableTexts,
    ← charsFit_iff h.serviceId, ← charsFit_iff h.qpmRuntimeId, ← charsFit_iff h.diagnostic]
  constructor
  · intro hall
    exact ⟨⟨hall.serviceId, hall.decision, hall.granted,
      fun hhas => (hall.reservationId hhas).1.ne'⟩, hall.serviceId, hall.qpmRuntimeId,
      hall.diagnostic, trivial⟩
  · rintro ⟨⟨hservice, hdecision, hgranted, hid⟩, -, hruntime, hdiagnostic, -⟩
    exact {
      serviceId := hservice
      decision := hdecision
      granted := hgranted
      reservationId := fun hhas => ⟨Nat.pos_of_ne_zero (hid hhas), h.reservationId⟩
      reasonCode := h.reasonCode
      retryAfterNs := fun _ => h.retryAfterNs
      estimatedStartNs := fun _ => h.estimatedStartNs
      estimatedFinishNs := fun _ => h.estimatedFinishNs
      qpmRuntimeId := hruntime
      qpmGeneration := fun _ => h.qpmGeneration
      diagnostic := hdiagnostic }

/-- The loop over the results finds no invalid result, no repetition and, if the response accepts,
no result that does not. -/
lemma validateResults_eq_ok_iff {decision : ℕ} {reserve : Bool} {names : List (List UInt8)}
    {results : List QsgpServiceResult} :
    validateResults decision reserve names results = .ok () ↔
      (∀ result ∈ results, invalidServiceResult result reserve = false) ∧
        (results.map QsgpServiceResult.serviceId).Nodup ∧
        (∀ result ∈ results, result.serviceId ∉ names) ∧
        (decision = admissionAccepted →
          ∀ result ∈ results, result.decision = admissionAccepted) := by
  induction results generalizing names with
  | nil => simp [validateResults]
  | cons result results ih =>
    simp only [validateResults, error_or_eq_ok_iff, ih, List.forall_mem_cons, List.map_cons,
      List.nodup_cons, List.mem_map, not_exists, not_and, Bool.not_eq_true]
    simp only [List.mem_cons, not_or, not_not]
    constructor
    · rintro ⟨hvalid, hseen, haccepted, hall, hnodup, hnew, hrest⟩
      exact ⟨⟨hvalid, hall⟩, ⟨fun other hother heq => (hnew other hother).1 heq, hnodup⟩,
        ⟨hseen, fun other hother => (hnew other hother).2⟩, fun h => ⟨haccepted h, hrest h⟩⟩
    · rintro ⟨⟨hvalid, hall⟩, ⟨hfresh, hnodup⟩, ⟨hseen, hnew⟩, hrest⟩
      exact ⟨hvalid, hseen, fun h => (hrest h).1, hall, hnodup, fun other hother =>
        ⟨hfresh other hother, hnew other hother⟩, fun h => (hrest h).2⟩

lemma validateAdmissionResponse_eq_ok_iff {response : QsgpReserveResponse} {reserve : Bool} :
    validateAdmissionResponse response reserve = .ok () ↔
      (∀ result ∈ response.results, invalidServiceResult result reserve = false) ∧
        (response.results.map QsgpServiceResult.serviceId).Nodup ∧
        DecisionAgrees response.decision response.results := by
  rw [decisionAgrees_iff, validateAdmissionResponse, bind_eq_ok_iff]
  constructor
  · rintro ⟨⟨⟩, hresults, h⟩
    simp only [throw_bind] at h
    split_ifs at h with hrejected hdelayed
    obtain ⟨hvalid, hdistinct, -, haccepted⟩ := validateResults_eq_ok_iff.mp hresults
    exact ⟨hvalid, hdistinct, haccepted, hrejected, hdelayed⟩
  · rintro ⟨hvalid, hdistinct, haccepted, hrejected, hdelayed⟩
    refine ⟨(), validateResults_eq_ok_iff.mpr ⟨hvalid, hdistinct, by simp, haccepted⟩, ?_⟩
    rw [if_neg hrejected, if_neg hdelayed]
    rfl

lemma QsgpServiceResult.Sendable.length_item_le {reserve : Bool} {result : QsgpServiceResult}
    (h : result.Sendable reserve) : result.item.length ≤ 5120 := by
  have hbounded : Bounded result.scalars := by
    intro field value hvalue
    cases field
    all_goals
      simp only [QsgpServiceResult.scalars, present_eq_some_iff, Option.some.injEq,
        reduceCtorEq] at hvalue
    case serviceId => exact hvalue ▸ h.serviceId.bounded
    case qpmRuntimeId => exact hvalue.2 ▸ (h.qpmRuntimeId hvalue.1).bounded
    case diagnostic => exact hvalue.2 ▸ (h.diagnostic hvalue.1).bounded
    all_goals first
      | exact hvalue ▸ by simp [Field.maxLength]
      | exact hvalue.2 ▸ by simp [Field.maxLength]
  refine (hbounded.length_fieldTlvs_le serviceResultFields).trans ?_
  decide

lemma QsgpReserveResponse.Sendable.length_payload_le {reserve : Bool}
    {response : QsgpReserveResponse} (h : response.Sendable reserve) :
    headerSize + response.payload.length ≤ maxFrameSize := by
  have hbounded : Bounded response.scalars := by
    intro field value hvalue
    cases field
    all_goals simp only [QsgpReserveResponse.scalars, Option.some.injEq, reduceCtorEq] at hvalue
    all_goals exact hvalue ▸ by simp [Field.maxLength]
  have hitems : ∀ item ∈ response.results.map QsgpServiceResult.item, item.length ≤ 5120 := by
    intro item hitem
    obtain ⟨result, hmem, rfl⟩ := List.mem_map.mp hitem
    exact (h.results result hmem).length_item_le
  have hlength := hbounded.length_messageTlvs_le [.requestId, .admissionDecision] .serviceResult
    (by simpa using h.count.2) hitems
  refine (Nat.add_le_add_left hlength headerSize).trans ?_
  decide

/-- The encoders of admission responses accept the responses within their bounds. -/
theorem encodeAdmissionResponse_eq_ok_iff {response : QsgpReserveResponse} (h : response.Typed)
    {messageType : MessageType} {reserve : Bool} {correlationId : ℕ} {bytes : List UInt8} :
    encodeAdmissionResponse response messageType reserve correlationId = .ok bytes ↔
      response.Sendable reserve ∧ correlationId ≠ 0 ∧
        bytes = frameBytes messageType correlationId response.payload := by
  have hsendable : response.Sendable reserve ↔
      (¬ (response.requestId = 0 ∨ response.decision < admissionAccepted ∨
          admissionRejected < response.decision ∨ response.results.length = 0 ∨
          maxServices < response.results.length) ∧
        validateAdmissionResponse response reserve = .ok ()) ∧
        True ∧ ∀ result ∈ response.results, result.WritableTexts := by
    rw [validateAdmissionResponse_eq_ok_iff]
    constructor
    · intro hall
      have hresult (result : QsgpServiceResult) (hmem : result ∈ response.results) :=
        (h.results result hmem).sendable_iff.mp (hall.results result hmem)
      have hid := hall.requestId.1
      have hdecision := hall.decision
      have hcount := hall.count
      exact ⟨⟨by omega, fun result hmem => (hresult result hmem).1, hall.distinct, hall.agrees⟩,
        trivial, fun result hmem => (hresult result hmem).2⟩
    · rintro ⟨⟨hnonzero, hvalid, hdistinct, hagrees⟩, -, htexts⟩
      push Not at hnonzero
      obtain ⟨hid, hlow, hhigh, hpositive, hcount⟩ := hnonzero
      exact ⟨⟨Nat.pos_of_ne_zero hid, h.requestId⟩, ⟨hlow, hhigh⟩,
        ⟨Nat.pos_of_ne_zero hpositive, hcount⟩, hdistinct, fun result hmem =>
          (h.results result hmem).sendable_iff.mpr ⟨hvalid result hmem, htexts result hmem⟩,
        hagrees⟩
  have hchecks : encodeAdmissionResponse response messageType reserve correlationId = .ok bytes ↔
      (¬ (response.requestId = 0 ∨ response.decision < admissionAccepted ∨
          admissionRejected < response.decision ∨ response.results.length = 0 ∨
          maxServices < response.results.length) ∧
        validateAdmissionResponse response reserve = .ok ()) ∧
      buildFrame (addAdmissionResponse response) messageType correlationId = .ok bytes := by
    simp only [encodeAdmissionResponse, throw_or_eq_ok_iff, bind_eq_ok_iff]
    constructor
    · rintro ⟨hnonzero, ⟨⟩, hvalid, hbuild⟩
      exact ⟨⟨hnonzero, hvalid⟩, hbuild⟩
    · rintro ⟨⟨hnonzero, hvalid⟩, hbuild⟩
      exact ⟨hnonzero, (), hvalid, hbuild⟩
  rw [hchecks]
  exact (writes_admissionResponse response).encode_eq_ok_iff hsendable
    fun hall => hall.length_payload_le

/-! ### Get-reservations responses -/

/-- A value of `struct qsgp_reservation`. -/
structure QsgpReservation.Typed (reservation : QsgpReservation) : Prop where
  serviceId : 0 ∉ reservation.serviceId
  reservationId : reservation.reservationId < 2 ^ 64

/-- A value of `struct qsgp_get_reservations_response`. -/
structure QsgpGetReservationsResponse.Typed (response : QsgpGetReservationsResponse) : Prop where
  requestId : response.requestId < 2 ^ 64
  canonicalJobId : response.canonicalJobId < 2 ^ 64
  reservations : ∀ reservation ∈ response.reservations, reservation.Typed

/-- A reservation as it is written. -/
def QsgpReservation.item (reservation : QsgpReservation) : List UInt8 :=
  encodeAll (fieldTlvs [.serviceId, .reservationId] reservation.scalars)

/-- The payload of a get-reservations response as it is written. -/
def QsgpGetReservationsResponse.payload (response : QsgpGetReservationsResponse) : List UInt8 :=
  encodeAll (messageTlvs [.requestId, .canonicalJobId] response.scalars .reservation
    (response.reservations.map QsgpReservation.item))

lemma writes_reservation (reservation : QsgpReservation) :
    Writes (addReservation reservation)
      (WritableText reservation.serviceId maxServiceId ∧ True)
      (fieldBytes .reservation (some reservation.item)) := by
  have h : Writes _ (WritableText reservation.serviceId maxServiceId ∧ True) reservation.item :=
    .text (writes_string _ _ _) <| .number (writes_u64 _ _) <| writes_no_fields _
  exact h.nested .reservation

lemma writes_getReservationsResponse (response : QsgpGetReservationsResponse) :
    Writes (addGetReservationsResponse response)
      (True ∧ ∀ reservation ∈ response.reservations,
        WritableText reservation.serviceId maxServiceId ∧ True) response.payload :=
  .message (.number (writes_u64 _ _) <| .number (writes_u64 _ _) <| writes_no_fields _)
    writes_reservation response.reservations

/-- The loop over the reservations finds no empty name, no zero id and no repetition. -/
lemma validateReservations_eq_ok_iff {names : List (List UInt8)}
    {reservations : List QsgpReservation} :
    validateReservations names reservations = .ok () ↔
      (∀ reservation ∈ reservations,
        reservation.serviceId ≠ [] ∧ reservation.reservationId ≠ 0) ∧
        (reservations.map QsgpReservation.serviceId).Nodup ∧
        (∀ reservation ∈ reservations, reservation.serviceId ∉ names) := by
  induction reservations generalizing names with
  | nil => simp [validateReservations]
  | cons reservation reservations ih =>
    simp only [validateReservations, error_or_eq_ok_iff, ih, List.forall_mem_cons, List.map_cons,
      List.nodup_cons, List.mem_map, not_exists, not_and]
    simp only [List.mem_cons, not_or]
    constructor
    · rintro ⟨hvalid, hseen, hall, hnodup, hnew⟩
      exact ⟨⟨hvalid, hall⟩, ⟨fun other hother heq => (hnew other hother).1 heq, hnodup⟩, hseen,
        fun other hother => (hnew other hother).2⟩
    · rintro ⟨⟨hvalid, hall⟩, ⟨hfresh, hnodup⟩, hseen, hnew⟩
      exact ⟨hvalid, hseen, hall, hnodup, fun other hother =>
        ⟨hfresh other hother, hnew other hother⟩⟩

lemma QsgpReservation.Sendable.length_item_le {reservation : QsgpReservation}
    (h : reservation.Sendable) : reservation.item.length ≤ 512 := by
  have hbounded : Bounded reservation.scalars := by
    intro field value hvalue
    cases field
    all_goals simp only [QsgpReservation.scalars, Option.some.injEq, reduceCtorEq] at hvalue
    case serviceId => exact hvalue ▸ h.serviceId.bounded
    all_goals exact hvalue ▸ by simp [Field.maxLength]
  refine (hbounded.length_fieldTlvs_le [.serviceId, .reservationId]).trans ?_
  decide

lemma QsgpGetReservationsResponse.Sendable.length_payload_le
    {response : QsgpGetReservationsResponse} (h : response.Sendable) :
    headerSize + response.payload.length ≤ maxFrameSize := by
  have hbounded : Bounded response.scalars := by
    intro field value hvalue
    cases field
    all_goals
      simp only [QsgpGetReservationsResponse.scalars, Option.some.injEq, reduceCtorEq] at hvalue
    all_goals exact hvalue ▸ by simp [Field.maxLength]
  have hitems : ∀ item ∈ response.reservations.map QsgpReservation.item, item.length ≤ 512 := by
    intro item hitem
    obtain ⟨reservation, hmem, rfl⟩ := List.mem_map.mp hitem
    exact (h.reservations reservation hmem).length_item_le
  have hlength := hbounded.length_messageTlvs_le [.requestId, .canonicalJobId] .reservation
    (by simpa using h.count.2) hitems
  refine (Nat.add_le_add_left hlength headerSize).trans ?_
  decide

/-- The encoder of get-reservations responses accepts the responses within their bounds. -/
theorem qsgpEncodeGetReservationsResponse_eq_ok_iff {response : QsgpGetReservationsResponse}
    (h : response.Typed) {correlationId : ℕ} {bytes : List UInt8} :
    qsgpEncodeGetReservationsResponse response correlationId = .ok bytes ↔
      response.Sendable ∧ correlationId ≠ 0 ∧
        bytes = frameBytes .getReservationsResponse correlationId response.payload := by
  have hsendable : response.Sendable ↔
      (¬ (response.requestId = 0 ∨ response.canonicalJobId = 0 ∨
          response.reservations.length = 0 ∨ maxServices < response.reservations.length) ∧
        validateReservations [] response.reservations = .ok ()) ∧
        True ∧ ∀ reservation ∈ response.reservations,
          WritableText reservation.serviceId maxServiceId ∧ True := by
    rw [validateReservations_eq_ok_iff]
    constructor
    · intro hall
      have hid := hall.requestId.1
      have hcanonical := hall.canonicalJobId.1
      have hcount := hall.count
      exact ⟨⟨by omega, fun reservation hmem => ⟨(hall.reservations reservation hmem).serviceId.nonempty,
        (hall.reservations reservation hmem).reservationId.1.ne'⟩, hall.distinct, by simp⟩, trivial,
        fun reservation hmem => ⟨(charsFit_iff (h.reservations reservation hmem).serviceId).mp
          (hall.reservations reservation hmem).serviceId, trivial⟩⟩
    · rintro ⟨⟨hnonzero, hvalid, hdistinct, -⟩, -, htexts⟩
      push Not at hnonzero
      obtain ⟨hid, hcanonical, hpositive, hcount⟩ := hnonzero
      exact ⟨⟨Nat.pos_of_ne_zero hid, h.requestId⟩,
        ⟨Nat.pos_of_ne_zero hcanonical, h.canonicalJobId⟩,
        ⟨Nat.pos_of_ne_zero hpositive, hcount⟩, hdistinct, fun reservation hmem =>
          ⟨(charsFit_iff (h.reservations reservation hmem).serviceId).mpr
            (htexts reservation hmem).1,
          ⟨Nat.pos_of_ne_zero (hvalid reservation hmem).2,
            (h.reservations reservation hmem).reservationId⟩⟩⟩
  have hchecks : qsgpEncodeGetReservationsResponse response correlationId = .ok bytes ↔
      (¬ (response.requestId = 0 ∨ response.canonicalJobId = 0 ∨
          response.reservations.length = 0 ∨ maxServices < response.reservations.length) ∧
        validateReservations [] response.reservations = .ok ()) ∧
      buildFrame (addGetReservationsResponse response) .getReservationsResponse correlationId =
        .ok bytes := by
    simp only [qsgpEncodeGetReservationsResponse, throw_or_eq_ok_iff, bind_eq_ok_iff]
    constructor
    · rintro ⟨hnonzero, ⟨⟩, hvalid, hbuild⟩
      exact ⟨⟨hnonzero, hvalid⟩, hbuild⟩
    · rintro ⟨⟨hnonzero, hvalid⟩, hbuild⟩
      exact ⟨hnonzero, (), hvalid, hbuild⟩
  rw [hchecks]
  exact (writes_getReservationsResponse response).encode_eq_ok_iff hsendable
    fun hall => hall.length_payload_le

/-! ### Errors -/

/-- A value of `struct qsgp_error_response`. -/
structure QsgpErrorResponse.Typed (response : QsgpErrorResponse) : Prop where
  requestId : response.requestId < 2 ^ 64
  errorCode : response.errorCode < 2 ^ 32
  diagnostic : 0 ∉ response.diagnostic

/-- The payload of an error as it is written. -/
def QsgpErrorResponse.payload (response : QsgpErrorResponse) : List UInt8 :=
  encodeAll (fieldTlvs [.requestId, .gatewayErrorCode, .diagnostic] response.scalars)

lemma writes_errorResponse (response : QsgpErrorResponse) :
    Writes (addErrorResponse response)
      ((response.hasDiagnostic = true → WritableText response.diagnostic maxDiagnostic) ∧ True)
      response.payload :=
  .number (writes_u64_when _ _ _) <| .number (writes_u32 _ _) <|
    .text (writes_string_when _ _ _ _) <| writes_no_fields _

lemma QsgpErrorResponse.Sendable.length_payload_le {response : QsgpErrorResponse}
    (h : response.Sendable) : headerSize + response.payload.length ≤ maxFrameSize := by
  have hbounded : Bounded response.scalars := by
    intro field value hvalue
    cases field
    all_goals
      simp only [QsgpErrorResponse.scalars, present_eq_some_iff, Option.some.injEq,
        reduceCtorEq] at hvalue
    case diagnostic => exact hvalue.2 ▸ (h.diagnostic hvalue.1).bounded
    all_goals first
      | exact hvalue ▸ by simp [Field.maxLength]
      | exact hvalue.2 ▸ by simp [Field.maxLength]
  have hlength := hbounded.length_fieldTlvs_le [.requestId, .gatewayErrorCode, .diagnostic]
  refine (Nat.add_le_add_left hlength headerSize).trans ?_
  decide

/-- The encoder of errors accepts the errors within their bounds. -/
theorem qsgpEncodeErrorResponse_eq_ok_iff {response : QsgpErrorResponse} (h : response.Typed)
    {correlationId : ℕ} {bytes : List UInt8} :
    qsgpEncodeErrorResponse response correlationId = .ok bytes ↔
      response.Sendable ∧ correlationId ≠ 0 ∧
        bytes = frameBytes .errorResponse correlationId response.payload := by
  have hsendable : response.Sendable ↔ ¬ response.errorCode = 0 ∧
      (response.hasDiagnostic = true → WritableText response.diagnostic maxDiagnostic) ∧ True := by
    rw [← charsFit_iff h.diagnostic]
    constructor
    · intro hall
      exact ⟨hall.errorCode.1.ne', hall.diagnostic, trivial⟩
    · rintro ⟨hcode, hdiagnostic, -⟩
      exact ⟨fun _ => h.requestId, ⟨Nat.pos_of_ne_zero hcode, h.errorCode⟩, hdiagnostic⟩
  rw [qsgpEncodeErrorResponse, error_or_eq_ok_iff]
  exact (writes_errorResponse response).encode_eq_ok_iff hsendable
    fun hall => hall.length_payload_le

/-! ### Release responses -/

/-- A value of `struct qsgp_release_result`. -/
structure QsgpReleaseResult.Typed (result : QsgpReleaseResult) : Prop where
  serviceId : 0 ∉ result.serviceId
  reservationId : result.reservationId < 2 ^ 64
  state : result.state < 2 ^ 32
  gatewayError : result.gatewayError < 2 ^ 32
  diagnostic : 0 ∉ result.diagnostic

/-- A value of `struct qsgp_release_response`. -/
structure QsgpReleaseResponse.Typed (response : QsgpReleaseResponse) : Prop where
  requestId : response.requestId < 2 ^ 64
  results : ∀ result ∈ response.results, result.Typed

/-- The encoder looks at the texts of a result only. -/
structure QsgpReleaseResult.Writable (result : QsgpReleaseResult) : Prop where
  serviceId : CharsFit result.serviceId maxServiceId
  diagnostic : result.hasDiagnostic → CharsFit result.diagnostic maxDiagnostic

/-- A release response that the encoder accepts. -/
structure QsgpReleaseResponse.Writable (response : QsgpReleaseResponse) : Prop where
  requestId : NonzeroWidth 64 response.requestId
  count : response.results.length ≤ maxServices
  results : ∀ result ∈ response.results, result.Writable

/-- A release result as it is written. -/
def QsgpReleaseResult.item (result : QsgpReleaseResult) : List UInt8 :=
  encodeAll (fieldTlvs releaseResultFields result.scalars)

/-- The payload of a release response as it is written. -/
def QsgpReleaseResponse.payload (response : QsgpReleaseResponse) : List UInt8 :=
  encodeAll (messageTlvs [.requestId] response.scalars .releaseResult
    (response.results.map QsgpReleaseResult.item))

/-- The texts of a release result can be written. -/
def QsgpReleaseResult.WritableTexts (result : QsgpReleaseResult) : Prop :=
  WritableText result.serviceId maxServiceId ∧
    (result.hasDiagnostic = true → WritableText result.diagnostic maxDiagnostic) ∧ True

lemma writes_releaseResult (result : QsgpReleaseResult) :
    Writes (addReleaseResult result) result.WritableTexts
      (fieldBytes .releaseResult (some result.item)) := by
  have h : Writes _ result.WritableTexts result.item :=
    .text (writes_string _ _ _) <| .number (writes_u64 _ _) <| .number (writes_u32 _ _) <|
      .number (writes_u32_when _ _ _) <| .text (writes_string_when _ _ _ _) <|
      writes_no_fields _
  exact h.nested .releaseResult

lemma writes_releaseResponse (response : QsgpReleaseResponse) :
    Writes (addReleaseResponse response)
      (True ∧ ∀ result ∈ response.results, result.WritableTexts) response.payload :=
  .message (.number (writes_u64 _ _) <| writes_no_fields _) writes_releaseResult response.results

lemma QsgpReleaseResult.Typed.writable_iff {result : QsgpReleaseResult} (h : result.Typed) :
    result.Writable ↔ result.WritableTexts := by
  rw [QsgpReleaseResult.WritableTexts, ← charsFit_iff h.serviceId, ← charsFit_iff h.diagnostic]
  exact ⟨fun hall => ⟨hall.serviceId, hall.diagnostic, trivial⟩,
    fun ⟨hservice, hdiagnostic, _⟩ => ⟨hservice, hdiagnostic⟩⟩

/-- A result is within its bounds when it can be written, its reservation id is not zero and its
state is known. -/
lemma QsgpReleaseResult.Typed.sendable_iff {result : QsgpReleaseResult} (h : result.Typed) :
    result.Sendable ↔
      result.Writable ∧ result.reservationId ≠ 0 ∧ 1 ≤ result.state ∧ result.state ≤ 7 :=
  ⟨fun hall => ⟨⟨hall.serviceId, hall.diagnostic⟩, hall.reservationId.1.ne', hall.state⟩,
    fun ⟨hwritable, hid, hstate⟩ => ⟨hwritable.serviceId, ⟨Nat.pos_of_ne_zero hid,
      h.reservationId⟩, hstate, fun _ => h.gatewayError, hwritable.diagnostic⟩⟩

lemma QsgpReleaseResult.Writable.length_item_le {result : QsgpReleaseResult} (h : result.Writable) :
    result.item.length ≤ 5120 := by
  have hbounded : Bounded result.scalars := by
    intro field value hvalue
    cases field
    all_goals
      simp only [QsgpReleaseResult.scalars, present_eq_some_iff, Option.some.injEq,
        reduceCtorEq] at hvalue
    case serviceId => exact hvalue ▸ h.serviceId.bounded
    case diagnostic => exact hvalue.2 ▸ (h.diagnostic hvalue.1).bounded
    all_goals first
      | exact hvalue ▸ by simp [Field.maxLength]
      | exact hvalue.2 ▸ by simp [Field.maxLength]
  refine (hbounded.length_fieldTlvs_le releaseResultFields).trans ?_
  decide

lemma QsgpReleaseResponse.Writable.length_payload_le {response : QsgpReleaseResponse}
    (h : response.Writable) : headerSize + response.payload.length ≤ maxFrameSize := by
  have hbounded : Bounded response.scalars := by
    intro field value hvalue
    cases field
    all_goals simp only [QsgpReleaseResponse.scalars, Option.some.injEq, reduceCtorEq] at hvalue
    all_goals exact hvalue ▸ by simp [Field.maxLength]
  have hitems : ∀ item ∈ response.results.map QsgpReleaseResult.item, item.length ≤ 5120 := by
    intro item hitem
    obtain ⟨result, hmem, rfl⟩ := List.mem_map.mp hitem
    exact (h.results result hmem).length_item_le
  have hlength := hbounded.length_messageTlvs_le [.requestId] .releaseResult
    (by simpa using h.count) hitems
  refine (Nat.add_le_add_left hlength headerSize).trans ?_
  decide

/-- The encoder of release responses accepts the responses it can write, whatever their reservation
ids and states are. -/
theorem qsgpEncodeReleaseResponse_eq_ok_iff {response : QsgpReleaseResponse} (h : response.Typed)
    {correlationId : ℕ} {bytes : List UInt8} :
    qsgpEncodeReleaseResponse response correlationId = .ok bytes ↔
      response.Writable ∧ correlationId ≠ 0 ∧
        bytes = frameBytes .releaseResponse correlationId response.payload := by
  have hwritable : response.Writable ↔
      ¬ (response.requestId = 0 ∨ maxServices < response.results.length) ∧
        True ∧ ∀ result ∈ response.results, result.WritableTexts := by
    constructor
    · intro hall
      have hid := hall.requestId.1
      have hcount := hall.count
      exact ⟨by omega, trivial, fun result hmem =>
        (h.results result hmem).writable_iff.mp (hall.results result hmem)⟩
    · rintro ⟨hnonzero, -, htexts⟩
      push Not at hnonzero
      exact ⟨⟨Nat.pos_of_ne_zero hnonzero.1, h.requestId⟩, hnonzero.2, fun result hmem =>
        (h.results result hmem).writable_iff.mpr (htexts result hmem)⟩
  rw [qsgpEncodeReleaseResponse, error_or_eq_ok_iff]
  exact (writes_releaseResponse response).encode_eq_ok_iff hwritable
    fun hall => hall.length_payload_le

end QfwSlurm.Native
