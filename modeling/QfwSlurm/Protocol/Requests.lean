import QfwSlurm.Protocol.Contents

/-!
# Requests on the wire

The encoders and decoders of `gateway/qfw_slurm_gateway/protocol.py` for reserve, evaluate, release
and get-reservations requests, and `decode_request`, which reads any of them.

Both directions are described by the contents of a request (`ReserveRequest.scalars` and so on) and
by the bounds on its fields (`ReserveRequest.Sendable`): the encoder accepts the requests within
the bounds and writes their contents, and the decoder returns the requests within the bounds whose
contents the frame has, in whatever order.
-/

namespace QfwSlurm

open Wire

/-! ### Admission requests -/

/-- The workload fields of `_encode_admission_request`. -/
def encodeWorkload (workload : Workload) : Except PyError (List UInt8) := do
  let kind ← u32 .workloadKind workload.kind.code
  let walltimeNs ← u64 .walltimeNs workload.walltimeNs
  let circuitCount ← u64 .circuitCount workload.circuitCount
  let maxQubits ← u32 .maxQubits workload.maxQubits
  let maxDepth ← u64 .maxDepth workload.maxDepth
  let maxShots ← u64 .maxShots workload.maxShots
  let maxOneQGates ← optionalField (u64 .maxOneQGates ·) workload.maxOneQGates
  let maxTwoQGates ← optionalField (u64 .maxTwoQGates ·) workload.maxTwoQGates
  let maxMeasurements ← optionalField (u64 .maxMeasurements ·) workload.maxMeasurements
  return kind ++ (walltimeNs ++ (circuitCount ++ (maxQubits ++ (maxDepth ++ (maxShots ++
    (maxOneQGates ++ (maxTwoQGates ++ maxMeasurements)))))))

/-- The service loop of `_encode_admission_request`. -/
def encodeServiceRequests : List String → Except PyError (List UInt8)
  | [] => .ok []
  | serviceId :: serviceIds => do
    let nested ← text .serviceId serviceId maxServiceId
    let rest ← encodeServiceRequests serviceIds
    return (Field.serviceRequest.tlv nested).encode ++ rest

/-- `_encode_admission_request` -/
def encodeAdmissionRequest (request : ReserveRequest) (correlationId : ℤ)
    (messageType : MessageType) : Except PyError (List UInt8) := do
  validateReserveRequest request
  let requestId ← u64 .requestId request.requestId
  let clusterName ← text .clusterName request.clusterName maxClusterName
  let canonicalJobId ← u64 .canonicalJobId request.canonicalJobId
  let heteroJobId ← optionalField (u64 .heteroJobId ·) request.heteroJobId
  let heteroComponent ← optionalField (u32 .heteroComponent ·) request.heteroComponent
  let jobUid ← u32 .jobUid request.jobUid
  let jobGid ← u32 .jobGid request.jobGid
  let workload ← optionalField encodeWorkload request.workload
  let services ← encodeServiceRequests request.serviceIds
  frame messageType correlationId (requestId ++ (clusterName ++ (canonicalJobId ++ (heteroJobId ++
    (heteroComponent ++ (jobUid ++ (jobGid ++ (workload ++ services))))))))

/-- `encode_reserve_request` -/
def encodeReserveRequest (request : ReserveRequest) (correlationId : ℤ) :
    Except PyError (List UInt8) := do
  refuseIf (request.workload = none) "reserve request requires a workload envelope"
  encodeAdmissionRequest request correlationId .reserveRequest

/-- `encode_evaluate_request` -/
def encodeEvaluateRequest (request : EvaluateRequest) (correlationId : ℤ) :
    Except PyError (List UInt8) := do
  refuseIf (request.workload = none) "evaluate request requires a workload envelope"
  encodeAdmissionRequest request.toReserveRequest correlationId .evaluateRequest

/-- `set(values) == allowed` -/
def exactFields (values : Scalars) (allowed : List Field) : Prop :=
  ∀ field ∈ Field.all, (values field).isSome ↔ field ∈ allowed

/-- `not set(values) - allowed` -/
def onlyFields (values : Scalars) (allowed : List Field) : Prop :=
  ∀ field ∈ Field.all, (values field).isSome → field ∈ allowed

instance (values : Scalars) (allowed : List Field) : Decidable (exactFields values allowed) := by
  unfold exactFields
  infer_instance

instance (values : Scalars) (allowed : List Field) : Decidable (onlyFields values allowed) := by
  unfold onlyFields
  infer_instance

/-- `_decode_service_request` -/
def decodeServiceRequest (payload : List UInt8) : Except PyError String := do
  let collected ← collect payload []
  refuseIf (¬ exactFields collected.scalar [.serviceId]) "service request contains invalid fields"
  decodeText (collected.scalar .serviceId) maxServiceId "service_id"

/-- The scalar fields `_decode_admission_request` allows. -/
def admissionFields : List Field :=
  [.requestId, .clusterName, .canonicalJobId, .heteroJobId, .heteroComponent, .jobUid, .jobGid,
    .workloadKind, .walltimeNs, .circuitCount, .maxQubits, .maxDepth, .maxShots, .maxOneQGates,
    .maxTwoQGates, .maxMeasurements]

/-- The fields of a complete workload envelope. -/
def workloadFields : List Field :=
  [.workloadKind, .walltimeNs, .circuitCount, .maxQubits, .maxDepth, .maxShots]

/-- The fields that may join a workload envelope. -/
def optionalWorkloadFields : List Field := [.maxOneQGates, .maxTwoQGates, .maxMeasurements]

/-- `WorkloadKind(value)` -/
def workloadKindOf (value : ℤ) : Except PyError WorkloadKind :=
  if value = 1 then .ok .quantum
  else if value = 2 then .ok .hybrid
  else .error (protocolError "workload kind is invalid")

/-- `_decode_workload` -/
def decodeWorkload (values : Scalars) : Except PyError Workload := do
  let code ← decodeU32 (values .workloadKind) "workload_kind"
  let kind ← workloadKindOf code
  let walltimeNs ← decodeU64 (values .walltimeNs) "walltime_ns"
  let circuitCount ← decodeU64 (values .circuitCount) "circuit_count"
  let maxQubits ← decodeU32 (values .maxQubits) "max_qubits"
  let maxDepth ← decodeU64 (values .maxDepth) "max_depth"
  let maxShots ← decodeU64 (values .maxShots) "max_shots"
  let maxOneQGates ← decodeOptional (decodeU64 · "max_one_q_gates") (values .maxOneQGates)
  let maxTwoQGates ← decodeOptional (decodeU64 · "max_two_q_gates") (values .maxTwoQGates)
  let maxMeasurements ← decodeOptional (decodeU64 · "max_measurements") (values .maxMeasurements)
  return ⟨kind, walltimeNs, circuitCount, maxQubits, maxDepth, maxShots, maxOneQGates,
    maxTwoQGates, maxMeasurements⟩

/-- `workload_fields & set(values)` -/
def presentWorkload (values : Scalars) : List Field :=
  workloadFields.filter fun field => (values field).isSome

/-- `_decode_workload(values) if present else None` -/
def decodeEnvelope (values : Scalars) : Except PyError (Option Workload) :=
  if presentWorkload values = [] then .ok none
  else do return some (← decodeWorkload values)

/-- `_decode_admission_request` -/
def decodeAdmissionRequest (frame : List UInt8) (messageType : MessageType) :
    Except PyError (Header × ReserveRequest) := do
  let header ← decodeHeader frame
  refuseIf (header.messageType ≠ messageType) "unexpected admission request type"
  let collected ← collect (frame.drop headerSize) [.serviceRequest]
  let values := collected.scalar
  refuseIf (¬ onlyFields values admissionFields) "reserve request contains invalid fields"
  let services ← decodeEach decodeServiceRequest (collected.groups .serviceRequest)
  refuseIf (¬ (0 < services.length ∧ services.length ≤ maxServices) ∨ ¬ services.Nodup)
    "reserve request service set is invalid"
  refuseIf (presentWorkload values ≠ [] ∧ presentWorkload values ≠ workloadFields)
    "workload envelope is incomplete"
  refuseIf (presentWorkload values = [] ∧ ∃ field ∈ optionalWorkloadFields, (values field).isSome)
    "optional workload fields lack an envelope"
  let workload ← decodeEnvelope values
  let requestId ← decodeU64 (← one values .requestId) "request_id"
  let clusterName ← decodeText (← one values .clusterName) maxClusterName "cluster_name"
  let canonicalJobId ← decodeU64 (← one values .canonicalJobId) "canonical_job_id"
  let jobUid ← decodeU32 (← one values .jobUid) "job_uid"
  let jobGid ← decodeU32 (← one values .jobGid) "job_gid"
  let heteroJobId ← decodeOptional (decodeU64 · "hetero_job_id") (values .heteroJobId)
  let heteroComponent ← decodeOptional (decodeU32 · "hetero_component") (values .heteroComponent)
  let request : ReserveRequest := ⟨requestId, clusterName, canonicalJobId, jobUid, jobGid,
    workload, services, heteroJobId, heteroComponent⟩
  validateReserveRequest request
  return (header, request)

/-- `decode_reserve_request` -/
def decodeReserveRequest (frame : List UInt8) : Except PyError (Header × ReserveRequest) := do
  let (header, request) ← decodeAdmissionRequest frame .reserveRequest
  refuseIf (request.workload = none) "reserve request requires a workload envelope"
  return (header, request)

/-- `decode_evaluate_request`; what it decodes is an `EvaluateRequest` by construction. -/
def decodeEvaluateRequest (frame : List UInt8) : Except PyError (Header × EvaluateRequest) := do
  let (header, request) ← decodeAdmissionRequest frame .evaluateRequest
  refuseIf (request.workload = none) "evaluate request requires a workload envelope"
  return (header, ⟨request⟩)

/-! ### Release and get-reservations requests -/

/-- `encode_release_request` -/
def encodeReleaseRequest (request : ReleaseRequest) (correlationId : ℤ) :
    Except PyError (List UInt8) := do
  discard <| uint request.requestId 64 "request_id" true
  discard <| string request.clusterName maxClusterName "cluster_name"
  discard <| uint request.canonicalJobId 64 "canonical_job_id" true
  discard <| uint request.reason 32 "release_reason"
  let requestId ← u64 .requestId request.requestId
  let clusterName ← text .clusterName request.clusterName maxClusterName
  let canonicalJobId ← u64 .canonicalJobId request.canonicalJobId
  let reason ← u32 .releaseReason request.reason
  frame .releaseRequest correlationId (requestId ++ (clusterName ++ (canonicalJobId ++ reason)))

/-- The fields of a release request. -/
def releaseFields : List Field := [.requestId, .clusterName, .canonicalJobId, .releaseReason]

/-- `decode_release_request` -/
def decodeReleaseRequest (frame : List UInt8) : Except PyError (Header × ReleaseRequest) := do
  let header ← decodeHeader frame
  refuseIf (header.messageType ≠ .releaseRequest) "expected release request"
  let collected ← collect (frame.drop headerSize) []
  let values := collected.scalar
  refuseIf (¬ exactFields values releaseFields) "release request fields are invalid"
  let requestId ← decodeU64 (values .requestId) "request_id"
  let clusterName ← decodeText (values .clusterName) maxClusterName "cluster_name"
  let canonicalJobId ← decodeU64 (values .canonicalJobId) "canonical_job_id"
  let reason ← decodeU32 (values .releaseReason) "release_reason"
  discard <| uint requestId 64 "request_id" true
  discard <| uint canonicalJobId 64 "canonical_job_id" true
  return (header, ⟨requestId, clusterName, canonicalJobId, reason⟩)

/-- `encode_get_reservations_request` -/
def encodeGetReservationsRequest (request : GetReservationsRequest) (correlationId : ℤ) :
    Except PyError (List UInt8) := do
  discard <| uint request.requestId 64 "request_id" true
  discard <| string request.clusterName maxClusterName "cluster_name"
  discard <| uint request.observedJobId 64 "observed_job_id" true
  discard <| uint request.jobUid 32 "job_uid"
  discard <| uint request.jobGid 32 "job_gid"
  let requestId ← u64 .requestId request.requestId
  let clusterName ← text .clusterName request.clusterName maxClusterName
  let observedJobId ← u64 .observedJobId request.observedJobId
  let jobUid ← u32 .jobUid request.jobUid
  let jobGid ← u32 .jobGid request.jobGid
  frame .getReservationsRequest correlationId
    (requestId ++ (clusterName ++ (observedJobId ++ (jobUid ++ jobGid))))

/-- The fields of a get-reservations request. -/
def getReservationsFields : List Field :=
  [.requestId, .clusterName, .observedJobId, .jobUid, .jobGid]

/-- `decode_get_reservations_request` -/
def decodeGetReservationsRequest (frame : List UInt8) :
    Except PyError (Header × GetReservationsRequest) := do
  let header ← decodeHeader frame
  refuseIf (header.messageType ≠ .getReservationsRequest) "expected get-reservations request"
  let collected ← collect (frame.drop headerSize) []
  let values := collected.scalar
  refuseIf (¬ exactFields values getReservationsFields) "get-reservations request fields are invalid"
  let requestId ← decodeU64 (values .requestId) "request_id"
  let clusterName ← decodeText (values .clusterName) maxClusterName "cluster_name"
  let observedJobId ← decodeU64 (values .observedJobId) "observed_job_id"
  let jobUid ← decodeU32 (values .jobUid) "job_uid"
  let jobGid ← decodeU32 (values .jobGid) "job_gid"
  discard <| uint requestId 64 "request_id" true
  discard <| uint observedJobId 64 "observed_job_id" true
  return (header, ⟨requestId, clusterName, observedJobId, jobUid, jobGid⟩)

/-- `decode_request` -/
def decodeRequest (frame : List UInt8) : Except PyError (Header × Request) := do
  let header ← decodeHeader frame
  match header.messageType with
  | .evaluateRequest => do
    let (header, request) ← decodeEvaluateRequest frame
    return (header, .evaluate request)
  | .reserveRequest => do
    let (header, request) ← decodeReserveRequest frame
    return (header, .reserve request)
  | .releaseRequest => do
    let (header, request) ← decodeReleaseRequest frame
    return (header, .release request)
  | .getReservationsRequest => do
    let (header, request) ← decodeGetReservationsRequest frame
    return (header, .getReservations request)
  | _ => .error (protocolError "gateway accepts only request message types")

/-! ### Requests within their bounds -/

/-- A number of the given width. -/
def InWidth (bits : ℕ) (value : ℤ) : Prop := 0 ≤ value ∧ value < 2 ^ bits

/-- A nonzero number of the given width. -/
def Positive (bits : ℕ) (value : ℤ) : Prop := 0 < value ∧ value < 2 ^ bits

instance (bits : ℕ) (value : ℤ) : Decidable (InWidth bits value) :=
  inferInstanceAs (Decidable (_ ∧ _))

instance (bits : ℕ) (value : ℤ) : Decidable (Positive bits value) :=
  inferInstanceAs (Decidable (_ ∧ _))

lemma Positive.inWidth {bits : ℕ} {value : ℤ} (h : Positive bits value) : InWidth bits value :=
  ⟨h.1.le, h.2⟩

@[mk_iff]
structure Workload.Sendable (workload : Workload) : Prop where
  walltimeNs : Positive 64 workload.walltimeNs
  circuitCount : Positive 64 workload.circuitCount
  maxQubits : Positive 32 workload.maxQubits
  maxDepth : Positive 64 workload.maxDepth
  maxShots : Positive 64 workload.maxShots
  maxOneQGates : ∀ value ∈ workload.maxOneQGates, InWidth 64 value
  maxTwoQGates : ∀ value ∈ workload.maxTwoQGates, InWidth 64 value
  maxMeasurements : ∀ value ∈ workload.maxMeasurements, InWidth 64 value

/-- An admission request within its bounds: its numbers fit their types, its texts their fields, it
names between 1 and 32 distinct services, and its heterogeneous fields come together. -/
structure ReserveRequest.Sendable (request : ReserveRequest) : Prop where
  requestId : Positive 64 request.requestId
  canonicalJobId : Positive 64 request.canonicalJobId
  jobUid : InWidth 32 request.jobUid
  jobGid : InWidth 32 request.jobGid
  clusterName : TextFits request.clusterName maxClusterName
  count : 0 < request.serviceIds.length ∧ request.serviceIds.length ≤ maxServices
  distinct : request.serviceIds.Nodup
  services : ∀ serviceId ∈ request.serviceIds, TextFits serviceId maxServiceId
  together : request.heteroJobId.isSome = request.heteroComponent.isSome
  heteroJobId : ∀ value ∈ request.heteroJobId, Positive 64 value
  heteroComponent : ∀ value ∈ request.heteroComponent, InWidth 32 value
  workload : ∀ workload ∈ request.workload, workload.Sendable

structure ReleaseRequest.Sendable (request : ReleaseRequest) : Prop where
  requestId : Positive 64 request.requestId
  clusterName : TextFits request.clusterName maxClusterName
  canonicalJobId : Positive 64 request.canonicalJobId
  reason : InWidth 32 request.reason

structure GetReservationsRequest.Sendable (request : GetReservationsRequest) : Prop where
  requestId : Positive 64 request.requestId
  clusterName : TextFits request.clusterName maxClusterName
  observedJobId : Positive 64 request.observedJobId
  jobUid : InWidth 32 request.jobUid
  jobGid : InWidth 32 request.jobGid

/-! ### The checks accept what is within the bounds -/

lemma uint_check_iff {value : ℤ} {bits : ℕ} {label : String} :
    (discard (uint value bits label) : Except PyError Unit) = .ok () ↔ InWidth bits value := by
  simp [discard_eq_ok_iff, uint_eq_ok_iff, InWidth]

lemma uint_nonzero_check_iff {value : ℤ} {bits : ℕ} {label : String} :
    (discard (uint value bits label true) : Except PyError Unit) = .ok () ↔
      Positive bits value := by
  simp only [discard_eq_ok_iff, uint_eq_ok_iff, Positive, exists_and_left, exists_eq', and_true]
  constructor
  · rintro ⟨hlow, hhigh, hzero⟩
    have := hzero trivial
    exact ⟨by omega, hhigh⟩
  · rintro ⟨hlow, hhigh⟩
    exact ⟨by omega, hhigh, fun _ => by omega⟩

lemma string_check_iff {value : String} {maximum : ℕ} {label : String} :
    (discard (string value maximum label) : Except PyError Unit) = .ok () ↔
      TextFits value maximum := by
  simp [discard_eq_ok_iff, string_eq_ok_iff]

/-- A check before the rest of a computation has to pass. -/
lemma check_bind_eq_ok_iff {α : Type} {check : Except PyError Unit}
    {next : Unit → Except PyError α} {result : α} :
    check >>= next = .ok result ↔ check = .ok () ∧ next () = .ok result := by
  rw [bind_eq_ok_iff]
  exact ⟨fun ⟨_, hcheck, hnext⟩ => ⟨hcheck, hnext⟩, fun ⟨hcheck, hnext⟩ => ⟨(), hcheck, hnext⟩⟩

lemma validateWorkload_eq_ok_iff {workload : Workload} :
    validateWorkload workload = .ok () ↔ workload.Sendable := by
  rw [validateWorkload, Workload.sendable_iff]
  cases workload.maxOneQGates <;> cases workload.maxTwoQGates <;>
    cases workload.maxMeasurements <;>
    simp [check_bind_eq_ok_iff, uint_nonzero_check_iff, uint_check_iff, pure, Except.pure]

lemma validateHetero_eq_ok_iff {request : ReserveRequest} :
    validateHetero request = .ok () ↔
      request.heteroJobId.isSome = request.heteroComponent.isSome ∧
        (∀ value ∈ request.heteroJobId, Positive 64 value) ∧
          ∀ value ∈ request.heteroComponent, InWidth 32 value := by
  unfold validateHetero
  cases request.heteroJobId <;> cases request.heteroComponent <;>
    simp [check_bind_eq_ok_iff, uint_nonzero_check_iff, uint_check_iff]

lemma validateServices_eq_ok_iff {serviceIds : List String} :
    validateServices serviceIds = .ok () ↔
      (0 < serviceIds.length ∧ serviceIds.length ≤ maxServices) ∧ serviceIds.Nodup ∧
        ∀ serviceId ∈ serviceIds, TextFits serviceId maxServiceId := by
  rw [validateServices]
  by_cases hcount : 0 < serviceIds.length ∧ serviceIds.length ≤ maxServices
  · by_cases hnodup : serviceIds.Nodup
    · rw [if_neg (not_not.mpr hcount), if_neg (not_not.mpr hnodup)]
      simp only [forM_eq_ok_iff, string_check_iff, hcount, hnodup, true_and, and_self]
    · rw [if_neg (not_not.mpr hcount), if_pos hnodup]
      simp [hnodup]
  · rw [if_pos hcount]
    simp only [reduceCtorEq, hcount, false_and]

/-- `_validate_reserve_request` passes the requests within their bounds. -/
theorem validateReserveRequest_eq_ok_iff {request : ReserveRequest} :
    validateReserveRequest request = .ok () ↔ request.Sendable := by
  rw [validateReserveRequest, validateIdentity]
  simp only [check_bind_eq_ok_iff, uint_check_iff, uint_nonzero_check_iff, string_check_iff,
    validateServices_eq_ok_iff, validateHetero_eq_ok_iff]
  constructor
  · rintro ⟨⟨h₁, h₂, h₃, h₄, h₅⟩, ⟨h₆, h₇, h₈⟩, ⟨h₉, h₁₀, h₁₁⟩, h₁₂⟩
    refine ⟨h₁, h₂, h₃, h₄, h₅, h₆, h₇, h₈, h₉, h₁₀, h₁₁, fun workload hworkload => ?_⟩
    rw [Option.mem_def.mp hworkload] at h₁₂
    exact validateWorkload_eq_ok_iff.mp h₁₂
  · rintro ⟨h₁, h₂, h₃, h₄, h₅, h₆, h₇, h₈, h₉, h₁₀, h₁₁, h₁₂⟩
    refine ⟨⟨h₁, h₂, h₃, h₄, h₅⟩, ⟨h₆, h₇, h₈⟩, ⟨h₉, h₁₀, h₁₁⟩, ?_⟩
    cases hworkload : request.workload with
    | none => rfl
    | some workload => exact validateWorkload_eq_ok_iff.mpr (h₁₂ workload hworkload)

/-! ### The contents of requests -/

/-- The scalar fields of a workload. -/
def Workload.scalars (workload : Workload) : Scalars
  | .workloadKind => some (bigEndian 4 workload.kind.code.toNat)
  | .walltimeNs => some (bigEndian 8 workload.walltimeNs.toNat)
  | .circuitCount => some (bigEndian 8 workload.circuitCount.toNat)
  | .maxQubits => some (bigEndian 4 workload.maxQubits.toNat)
  | .maxDepth => some (bigEndian 8 workload.maxDepth.toNat)
  | .maxShots => some (bigEndian 8 workload.maxShots.toNat)
  | .maxOneQGates => workload.maxOneQGates.map (bigEndian 8 ·.toNat)
  | .maxTwoQGates => workload.maxTwoQGates.map (bigEndian 8 ·.toNat)
  | .maxMeasurements => workload.maxMeasurements.map (bigEndian 8 ·.toNat)
  | _ => none

/-- The scalar fields of an admission request. -/
def ReserveRequest.scalars (request : ReserveRequest) : Scalars
  | .requestId => some (bigEndian 8 request.requestId.toNat)
  | .clusterName => some (utf8 request.clusterName)
  | .canonicalJobId => some (bigEndian 8 request.canonicalJobId.toNat)
  | .heteroJobId => request.heteroJobId.map (bigEndian 8 ·.toNat)
  | .heteroComponent => request.heteroComponent.map (bigEndian 4 ·.toNat)
  | .jobUid => some (bigEndian 4 request.jobUid.toNat)
  | .jobGid => some (bigEndian 4 request.jobGid.toNat)
  | field => request.workload.bind (·.scalars field)

/-- The one field of a service request. -/
def serviceScalars (serviceId : List UInt8) : Scalars
  | .serviceId => some serviceId
  | _ => none

/-- The scalar fields of a release request. -/
def ReleaseRequest.scalars (request : ReleaseRequest) : Scalars
  | .requestId => some (bigEndian 8 request.requestId.toNat)
  | .clusterName => some (utf8 request.clusterName)
  | .canonicalJobId => some (bigEndian 8 request.canonicalJobId.toNat)
  | .releaseReason => some (bigEndian 4 request.reason.toNat)
  | _ => none

/-- The scalar fields of a get-reservations request. -/
def GetReservationsRequest.scalars (request : GetReservationsRequest) : Scalars
  | .requestId => some (bigEndian 8 request.requestId.toNat)
  | .clusterName => some (utf8 request.clusterName)
  | .observedJobId => some (bigEndian 8 request.observedJobId.toNat)
  | .jobUid => some (bigEndian 4 request.jobUid.toNat)
  | .jobGid => some (bigEndian 4 request.jobGid.toNat)
  | _ => none

/-- A service request as it is written. -/
def serviceItem (serviceId : List UInt8) : List UInt8 :=
  encodeAll (fieldTlvs [.serviceId] (serviceScalars serviceId))

/-- The payload of an admission request as it is written. -/
def ReserveRequest.payload (request : ReserveRequest) : List UInt8 :=
  encodeAll (messageTlvs admissionFields request.scalars .serviceRequest
    (request.serviceIds.map fun serviceId => serviceItem (utf8 serviceId)))

/-- The payload of a release request as it is written. -/
def ReleaseRequest.payload (request : ReleaseRequest) : List UInt8 :=
  encodeAll (fieldTlvs releaseFields request.scalars)

/-- The payload of a get-reservations request as it is written. -/
def GetReservationsRequest.payload (request : GetReservationsRequest) : List UInt8 :=
  encodeAll (fieldTlvs getReservationsFields request.scalars)

/-! ### Encoding requests -/

lemma encodeServiceRequests_eq_ok {serviceIds : List String}
    (h : ∀ serviceId ∈ serviceIds, TextFits serviceId maxServiceId) :
    encodeServiceRequests serviceIds = .ok (encodeAll
      ((serviceIds.map fun serviceId => serviceItem (utf8 serviceId)).map
        Field.serviceRequest.tlv)) := by
  induction serviceIds with
  | nil => rfl
  | cons serviceId serviceIds ih =>
    have hnested : (Field.serviceId.tlv (utf8 serviceId)).encode = serviceItem (utf8 serviceId) := by
      simp [serviceItem, fieldTlvs, serviceScalars]
    rw [encodeServiceRequests, text_eq_ok (h serviceId List.mem_cons_self),
      ih fun other hother => h other (List.mem_cons_of_mem _ hother), hnested]
    rfl

/-- An optional number within its width is written as no field or as one. -/
lemma optional_u64_eq_ok {field : Field} {value : Option ℤ} (h : ∀ number ∈ value, InWidth 64 number) :
    optionalField (u64 field ·) value =
      .ok (encodeAll ((value.map (bigEndian 8 ·.toNat)).toList.map field.tlv)) := by
  cases value with
  | none => rfl
  | some number => simpa [optionalField] using u64_eq_ok (h number rfl)

/-- An optional number within its width is written as no field or as one. -/
lemma optional_u32_eq_ok {field : Field} {value : Option ℤ} (h : ∀ number ∈ value, InWidth 32 number) :
    optionalField (u32 field ·) value =
      .ok (encodeAll ((value.map (bigEndian 4 ·.toNat)).toList.map field.tlv)) := by
  cases value with
  | none => rfl
  | some number => simpa [optionalField] using u32_eq_ok (h number rfl)

lemma WorkloadKind.code_bounds (kind : WorkloadKind) : 1 ≤ kind.code ∧ kind.code ≤ 2 := by
  cases kind <;> decide

lemma encodeWorkload_eq_ok {workload : Workload} (h : workload.Sendable) :
    encodeWorkload workload = .ok (encodeAll
      (fieldTlvs (workloadFields ++ optionalWorkloadFields) workload.scalars)) := by
  have hkind : u32 .workloadKind workload.kind.code = _ :=
    u32_eq_ok (by have := workload.kind.code_bounds; omega)
  rw [encodeWorkload, hkind, u64_eq_ok h.walltimeNs.inWidth, u64_eq_ok h.circuitCount.inWidth,
    u32_eq_ok h.maxQubits.inWidth, u64_eq_ok h.maxDepth.inWidth, u64_eq_ok h.maxShots.inWidth,
    optional_u64_eq_ok h.maxOneQGates, optional_u64_eq_ok h.maxTwoQGates,
    optional_u64_eq_ok h.maxMeasurements]
  simp [workloadFields, optionalWorkloadFields, encodeAll_fieldTlvs_cons, Workload.scalars, bind,
    Except.bind, pure, Except.pure]

/-- The workload fields of a request come from its workload. -/
lemma ReserveRequest.scalars_workload (request : ReserveRequest) {field : Field}
    (h : field ∈ workloadFields ++ optionalWorkloadFields) :
    request.scalars field = request.workload.bind (·.scalars field) := by
  cases field <;> first | rfl | exact absurd h (by decide)

/-- An admission request has no other fields. -/
lemma ReserveRequest.scalars_absent (request : ReserveRequest) {field : Field}
    (h : field ∉ admissionFields) : request.scalars field = none := by
  cases field
  all_goals first
    | exact absurd (by decide) h
    | (change request.workload.bind _ = none
       cases request.workload <;> rfl)

/-- The workload fields of a request are those of its workload, if it has one. -/
lemma ReserveRequest.fieldTlvs_workload (request : ReserveRequest) :
    fieldTlvs (workloadFields ++ optionalWorkloadFields) request.scalars =
      match request.workload with
      | none => []
      | some workload =>
        fieldTlvs (workloadFields ++ optionalWorkloadFields) workload.scalars := by
  cases hworkload : request.workload with
  | none =>
    refine List.filterMap_eq_nil_iff.mpr fun field hfield => ?_
    rw [request.scalars_workload hfield, hworkload]
    rfl
  | some workload =>
    refine List.filterMap_congr fun field hfield => ?_
    rw [request.scalars_workload hfield, hworkload]
    rfl

/-- The checks of a request within its bounds pass, and its payload is framed. -/
lemma encodeAdmissionRequest_eq_frame {request : ReserveRequest} (h : request.Sendable)
    (correlationId : ℤ) (messageType : MessageType) :
    encodeAdmissionRequest request correlationId messageType =
      frame messageType correlationId request.payload := by
  have hhetero : ∀ value ∈ request.heteroJobId, InWidth 64 value := fun value hvalue =>
    (h.heteroJobId value hvalue).inWidth
  have hworkload : optionalField encodeWorkload request.workload =
      .ok (encodeAll (fieldTlvs (workloadFields ++ optionalWorkloadFields) request.scalars)) := by
    rw [request.fieldTlvs_workload]
    cases hsome : request.workload with
    | none => rfl
    | some workload => exact encodeWorkload_eq_ok (h.workload workload hsome)
  have horder : admissionFields = [.requestId, .clusterName, .canonicalJobId, .heteroJobId,
      .heteroComponent, .jobUid, .jobGid] ++ (workloadFields ++ optionalWorkloadFields) := rfl
  have hsplit : fieldTlvs admissionFields request.scalars =
      fieldTlvs [.requestId, .clusterName, .canonicalJobId, .heteroJobId, .heteroComponent,
        .jobUid, .jobGid] request.scalars ++
          fieldTlvs (workloadFields ++ optionalWorkloadFields) request.scalars := by
    rw [horder, fieldTlvs, List.filterMap_append]
    rfl
  rw [encodeAdmissionRequest, validateReserveRequest_eq_ok_iff.mpr h,
    u64_eq_ok h.requestId.inWidth, text_eq_ok h.clusterName, u64_eq_ok h.canonicalJobId.inWidth,
    optional_u64_eq_ok hhetero, optional_u32_eq_ok h.heteroComponent, u32_eq_ok h.jobUid,
    u32_eq_ok h.jobGid, hworkload, encodeServiceRequests_eq_ok h.services,
    ReserveRequest.payload, messageTlvs, hsplit]
  simp [encodeAll_fieldTlvs_cons, ReserveRequest.scalars, bind, Except.bind]

/-- The values of a request within its bounds are bounded. -/
lemma ReserveRequest.Sendable.bounded {request : ReserveRequest} (h : request.Sendable) :
    Bounded request.scalars := by
  intro field value hvalue
  cases field
  case clusterName =>
    obtain rfl := Option.some.inj hvalue
    exact h.clusterName.bounded
  all_goals
    simp only [ReserveRequest.scalars, Option.some.injEq, Option.map_eq_some_iff,
      Option.bind_eq_some_iff, Workload.scalars, reduceCtorEq, and_false, exists_false] at hvalue
  all_goals
    first
    | (obtain rfl := hvalue; simp [Field.maxLength])
    | (obtain ⟨_, -, rfl⟩ := hvalue; simp [Field.maxLength])
    | (obtain ⟨_, -, _, -, rfl⟩ := hvalue; simp [Field.maxLength])

/-- The largest admission request fits a frame. -/
lemma ReserveRequest.Sendable.length_payload_le {request : ReserveRequest} (h : request.Sendable) :
    request.payload.length ≤ maxFrameSize - headerSize := by
  have hitems : ∀ item ∈ request.serviceIds.map fun serviceId => serviceItem (utf8 serviceId),
      item.length ≤ 267 := by
    intro item hitem
    obtain ⟨serviceId, hmem, rfl⟩ := List.mem_map.mp hitem
    have hbound := (h.services serviceId hmem).bounded
    have htlv := Field.serviceId.length_tlv_le (utf8 serviceId)
    rw [maxServiceId] at hbound
    simp only [serviceItem, fieldTlvs, serviceScalars, List.filterMap_cons, Option.map_some,
      List.filterMap_nil, encodeAll_cons, encodeAll_nil, List.append_nil]
    omega
  have hlength := h.bounded.length_messageTlvs_le admissionFields .serviceRequest
    (by simpa using h.count.2) hitems
  refine hlength.trans ?_
  decide

/-- A payload within the bound is framed with a nonzero correlation id. -/
lemma frame_eq_ok_of_le {messageType : MessageType} {correlationId : ℤ}
    {payload bytes : List UInt8} (h : payload.length ≤ maxFrameSize - headerSize) :
    frame messageType correlationId payload = .ok bytes ↔
      Positive 64 correlationId ∧ frameBytes messageType correlationId.toNat payload = bytes := by
  rw [frame_eq_ok_iff]
  exact and_congr_right fun _ => and_iff_right h

/-- The encoder of admission requests accepts the requests within their bounds. -/
lemma encodeAdmissionRequest_eq_ok_iff {request : ReserveRequest} {correlationId : ℤ}
    {messageType : MessageType} {bytes : List UInt8} :
    encodeAdmissionRequest request correlationId messageType = .ok bytes ↔
      request.Sendable ∧ Positive 64 correlationId ∧
        frameBytes messageType correlationId.toNat request.payload = bytes := by
  constructor
  · intro h
    obtain ⟨_, hvalid, -⟩ := bind_eq_ok_iff.mp h
    have hsendable := validateReserveRequest_eq_ok_iff.mp hvalid
    rw [encodeAdmissionRequest_eq_frame hsendable] at h
    exact ⟨hsendable, (frame_eq_ok_of_le hsendable.length_payload_le).mp h⟩
  · rintro ⟨hsendable, hframe⟩
    rw [encodeAdmissionRequest_eq_frame hsendable]
    exact (frame_eq_ok_of_le hsendable.length_payload_le).mpr hframe

lemma encodeReserveRequest_eq_ok_iff {request : ReserveRequest} {correlationId : ℤ}
    {bytes : List UInt8} :
    encodeReserveRequest request correlationId = .ok bytes ↔
      (request.workload.isSome ∧ request.Sendable) ∧ Positive 64 correlationId ∧
        frameBytes .reserveRequest correlationId.toNat request.payload = bytes := by
  rw [encodeReserveRequest, check_bind_eq_ok_iff, refuseIf_eq_ok_iff,
    encodeAdmissionRequest_eq_ok_iff, ← ne_eq, Option.ne_none_iff_isSome, and_assoc]

lemma encodeEvaluateRequest_eq_ok_iff {request : EvaluateRequest} {correlationId : ℤ}
    {bytes : List UInt8} :
    encodeEvaluateRequest request correlationId = .ok bytes ↔
      (request.workload.isSome ∧ request.toReserveRequest.Sendable) ∧ Positive 64 correlationId ∧
        frameBytes .evaluateRequest correlationId.toNat request.toReserveRequest.payload =
          bytes := by
  rw [encodeEvaluateRequest, check_bind_eq_ok_iff, refuseIf_eq_ok_iff,
    encodeAdmissionRequest_eq_ok_iff, ← ne_eq, Option.ne_none_iff_isSome, and_assoc]

lemma ReleaseRequest.Sendable.length_payload_le {request : ReleaseRequest} (h : request.Sendable) :
    request.payload.length ≤ maxFrameSize - headerSize := by
  have hbounded : Bounded request.scalars := by
    intro field value hvalue
    cases field
    case clusterName =>
      obtain rfl := Option.some.inj hvalue
      exact h.clusterName.bounded
    all_goals
      simp only [ReleaseRequest.scalars, Option.some.injEq, reduceCtorEq] at hvalue
    all_goals
      obtain rfl := hvalue
      simp [Field.maxLength]
  refine (hbounded.length_fieldTlvs_le releaseFields).trans ?_
  decide

lemma GetReservationsRequest.Sendable.length_payload_le {request : GetReservationsRequest}
    (h : request.Sendable) : request.payload.length ≤ maxFrameSize - headerSize := by
  have hbounded : Bounded request.scalars := by
    intro field value hvalue
    cases field
    case clusterName =>
      obtain rfl := Option.some.inj hvalue
      exact h.clusterName.bounded
    all_goals
      simp only [GetReservationsRequest.scalars, Option.some.injEq, reduceCtorEq] at hvalue
    all_goals
      obtain rfl := hvalue
      simp [Field.maxLength]
  refine (hbounded.length_fieldTlvs_le getReservationsFields).trans ?_
  decide

lemma encodeReleaseRequest_eq_ok_iff {request : ReleaseRequest} {correlationId : ℤ}
    {bytes : List UInt8} :
    encodeReleaseRequest request correlationId = .ok bytes ↔
      request.Sendable ∧ Positive 64 correlationId ∧
        frameBytes .releaseRequest correlationId.toNat request.payload = bytes := by
  have hwrite (h : request.Sendable) : (do
      let requestId ← u64 .requestId request.requestId
      let clusterName ← text .clusterName request.clusterName maxClusterName
      let canonicalJobId ← u64 .canonicalJobId request.canonicalJobId
      let reason ← u32 .releaseReason request.reason
      frame .releaseRequest correlationId
        (requestId ++ (clusterName ++ (canonicalJobId ++ reason)))) =
      frame .releaseRequest correlationId request.payload := by
    rw [u64_eq_ok h.requestId.inWidth, text_eq_ok h.clusterName,
      u64_eq_ok h.canonicalJobId.inWidth, u32_eq_ok h.reason]
    simp [ReleaseRequest.payload, releaseFields, encodeAll_fieldTlvs_cons, ReleaseRequest.scalars,
      bind, Except.bind]
  rw [encodeReleaseRequest]
  simp only [check_bind_eq_ok_iff, uint_nonzero_check_iff, string_check_iff, uint_check_iff]
  constructor
  · rintro ⟨hrequest, hcluster, hcanonical, hreason, h⟩
    have hsendable : request.Sendable := ⟨hrequest, hcluster, hcanonical, hreason⟩
    refine ⟨hsendable, (frame_eq_ok_of_le hsendable.length_payload_le).mp ?_⟩
    exact (hwrite hsendable).symm.trans h
  · rintro ⟨hsendable, hframe⟩
    refine ⟨hsendable.requestId, hsendable.clusterName, hsendable.canonicalJobId,
      hsendable.reason, ?_⟩
    exact (hwrite hsendable).trans ((frame_eq_ok_of_le hsendable.length_payload_le).mpr hframe)

lemma encodeGetReservationsRequest_eq_ok_iff {request : GetReservationsRequest} {correlationId : ℤ}
    {bytes : List UInt8} :
    encodeGetReservationsRequest request correlationId = .ok bytes ↔
      request.Sendable ∧ Positive 64 correlationId ∧
        frameBytes .getReservationsRequest correlationId.toNat request.payload = bytes := by
  have hwrite (h : request.Sendable) : (do
      let requestId ← u64 .requestId request.requestId
      let clusterName ← text .clusterName request.clusterName maxClusterName
      let observedJobId ← u64 .observedJobId request.observedJobId
      let jobUid ← u32 .jobUid request.jobUid
      let jobGid ← u32 .jobGid request.jobGid
      frame .getReservationsRequest correlationId
        (requestId ++ (clusterName ++ (observedJobId ++ (jobUid ++ jobGid))))) =
      frame .getReservationsRequest correlationId request.payload := by
    rw [u64_eq_ok h.requestId.inWidth, text_eq_ok h.clusterName,
      u64_eq_ok h.observedJobId.inWidth, u32_eq_ok h.jobUid, u32_eq_ok h.jobGid]
    simp [GetReservationsRequest.payload, getReservationsFields, encodeAll_fieldTlvs_cons,
      GetReservationsRequest.scalars, bind, Except.bind]
  rw [encodeGetReservationsRequest]
  simp only [check_bind_eq_ok_iff, uint_nonzero_check_iff, string_check_iff, uint_check_iff]
  constructor
  · rintro ⟨hrequest, hcluster, hobserved, huid, hgid, h⟩
    have hsendable : request.Sendable := ⟨hrequest, hcluster, hobserved, huid, hgid⟩
    refine ⟨hsendable, (frame_eq_ok_of_le hsendable.length_payload_le).mp ?_⟩
    exact (hwrite hsendable).symm.trans h
  · rintro ⟨hsendable, hframe⟩
    refine ⟨hsendable.requestId, hsendable.clusterName, hsendable.observedJobId,
      hsendable.jobUid, hsendable.jobGid, ?_⟩
    exact (hwrite hsendable).trans ((frame_eq_ok_of_le hsendable.length_payload_le).mpr hframe)

/-! ### Decoding requests -/

/-- The header the gateway returns for a frame. -/
def Header.read (messageType : MessageType) (correlationId : ℕ) (payload : List UInt8) : Header :=
  ⟨messageType, correlationId, payload.length, versionMajor, versionMinor⟩

/-- A decoder's first two steps: the header of a well formed frame of the expected type. -/
lemma header_of_type_iff {frame : List UInt8} {header : Header} {messageType : MessageType} :
    (decodeHeader frame = .ok header ∧ ¬ header.messageType ≠ messageType) ↔
      ∃ correlationId payload, Framed messageType correlationId payload frame ∧
        header = Header.read messageType correlationId payload := by
  rw [decodeHeader_eq_ok_iff, not_not]
  constructor
  · rintro ⟨⟨correlationId, payload, hframed, hheader⟩, rfl⟩
    exact ⟨correlationId, payload, hframed, hheader⟩
  · rintro ⟨correlationId, payload, hframed, rfl⟩
    exact ⟨⟨correlationId, payload, hframed, rfl⟩, rfl⟩

lemma Field.mem_all (field : Field) : field ∈ Field.all := by
  cases field <;> decide

/-- Contents with exactly the allowed fields have no other field. -/
lemma exactFields_iff {values : Scalars} {allowed : List Field} :
    exactFields values allowed ↔ ∀ field, (values field).isSome ↔ field ∈ allowed :=
  ⟨fun h field => h field field.mem_all, fun h field _ => h field⟩

/-- Contents with exactly the allowed fields have no other field. -/
lemma exactFields.absent {values : Scalars} {allowed : List Field} (h : exactFields values allowed)
    {field : Field} (hnot : field ∉ allowed) : values field = none := by
  by_contra hsome
  exact hnot ((exactFields_iff.mp h field).mp (Option.isSome_iff_ne_none.mpr hsome))

/-- Contents with only allowed fields have no other field. -/
lemma onlyFields_iff {values : Scalars} {allowed : List Field} :
    onlyFields values allowed ↔ ∀ field ∉ allowed, values field = none := by
  constructor
  · intro h field hnot
    by_contra hsome
    exact hnot (h field field.mem_all (Option.isSome_iff_ne_none.mpr hsome))
  · intro h field _ hsome
    by_contra hnot
    rw [h field hnot] at hsome
    exact absurd hsome (by simp)

/-- What is decoded from a field that may be absent. -/
lemma decodeOptional_u64_iff {value : Option (List UInt8)} {label : String} {result : Option ℤ} :
    decodeOptional (decodeU64 · label) value = .ok result ↔
      (∀ number ∈ result, InWidth 64 number) ∧ value = result.map (bigEndian 8 ·.toNat) := by
  rw [decodeOptional_eq_ok_iff]
  constructor
  · rintro (⟨rfl, rfl⟩ | ⟨bytes, number, rfl, rfl, hdecode⟩)
    · simp
    · obtain ⟨hrange, hbytes⟩ := decodeU64_eq_ok_iff.mp hdecode
      exact ⟨by rintro _ ⟨⟩; exact hrange, hbytes⟩
  · rintro ⟨hrange, rfl⟩
    cases result with
    | none => exact .inl ⟨rfl, rfl⟩
    | some number =>
      exact .inr ⟨_, number, rfl, rfl, decodeU64_eq_ok_iff.mpr ⟨hrange number rfl, rfl⟩⟩

/-- What is decoded from a field that may be absent. -/
lemma decodeOptional_u32_iff {value : Option (List UInt8)} {label : String} {result : Option ℤ} :
    decodeOptional (decodeU32 · label) value = .ok result ↔
      (∀ number ∈ result, InWidth 32 number) ∧ value = result.map (bigEndian 4 ·.toNat) := by
  rw [decodeOptional_eq_ok_iff]
  constructor
  · rintro (⟨rfl, rfl⟩ | ⟨bytes, number, rfl, rfl, hdecode⟩)
    · simp
    · obtain ⟨hrange, hbytes⟩ := decodeU32_eq_ok_iff.mp hdecode
      exact ⟨by rintro _ ⟨⟩; exact hrange, hbytes⟩
  · rintro ⟨hrange, rfl⟩
    cases result with
    | none => exact .inl ⟨rfl, rfl⟩
    | some number =>
      exact .inr ⟨_, number, rfl, rfl, decodeU32_eq_ok_iff.mpr ⟨hrange number rfl, rfl⟩⟩

/-- A service request is read back as the service it names. -/
lemma decodeServiceRequest_eq_ok_iff {payload : List UInt8} {serviceId : String} :
    decodeServiceRequest payload = .ok serviceId ↔
      TextFits serviceId maxServiceId ∧ ∃ collected, collect payload [] = .ok collected ∧
        collected.scalar = serviceScalars (utf8 serviceId) := by
  rw [decodeServiceRequest, bind_eq_ok_iff]
  simp only [check_bind_eq_ok_iff, refuseIf_eq_ok_iff, not_not, decodeText_eq_ok_iff]
  constructor
  · rintro ⟨collected, hcollect, honly, hfits, hvalue⟩
    refine ⟨hfits, collected, hcollect, funext fun field => ?_⟩
    cases field
    case serviceId => exact hvalue
    all_goals exact honly.absent (by decide)
  · rintro ⟨hfits, collected, hcollect, hscalar⟩
    refine ⟨collected, hcollect, exactFields_iff.mpr fun field => ?_, hfits, by rw [hscalar]; rfl⟩
    rw [hscalar]
    cases field <;> simp [serviceScalars]

/-- The decoder of release requests returns the requests within their bounds whose contents the
frame has. -/
lemma decodeReleaseRequest_eq_ok_iff {frame : List UInt8} {header : Header}
    {request : ReleaseRequest} :
    decodeReleaseRequest frame = .ok (header, request) ↔
      ∃ correlationId payload, Framed .releaseRequest correlationId payload frame ∧
        header = Header.read .releaseRequest correlationId payload ∧ request.Sendable ∧
          ∃ collected, collect payload [] = .ok collected ∧
            collected.scalar = request.scalars := by
  rw [decodeReleaseRequest]
  simp only [↓check_bind_eq_ok_iff, bind_eq_ok_iff, refuseIf_eq_ok_iff, not_not,
    decodeU64_eq_ok_iff, decodeU32_eq_ok_iff, decodeText_eq_ok_iff, uint_nonzero_check_iff]
  constructor
  · rintro ⟨read, hread, htype, collected, hcollect, honly, requestId, ⟨hrange₁, hvalue₁⟩,
      clusterName, ⟨hfits, hvalue₂⟩, canonicalJobId, ⟨hrange₃, hvalue₃⟩, reason,
      ⟨hrange₄, hvalue₄⟩, hid, hcanonical, hresult⟩
    obtain ⟨rfl, rfl⟩ := Prod.mk.inj (Except.ok.inj hresult)
    obtain ⟨correlationId, payload, hframed, rfl⟩ :=
      header_of_type_iff.mp ⟨hread, not_not.mpr htype⟩
    rw [hframed.drop] at hcollect
    refine ⟨correlationId, payload, hframed, rfl, ⟨hid, hfits, hcanonical, hrange₄⟩, collected,
      hcollect, funext fun field => ?_⟩
    cases field
    case requestId => exact hvalue₁
    case clusterName => exact hvalue₂
    case canonicalJobId => exact hvalue₃
    case releaseReason => exact hvalue₄
    all_goals exact honly.absent (by decide)
  · rintro ⟨correlationId, payload, hframed, rfl, h, collected, hcollect, hscalar⟩
    obtain ⟨hread, htype⟩ := header_of_type_iff.mpr ⟨correlationId, payload, hframed, rfl⟩
    rw [← hframed.drop] at hcollect
    refine ⟨_, hread, not_not.mp htype, collected, hcollect, exactFields_iff.mpr fun field => ?_,
      request.requestId,
      ⟨h.requestId.inWidth, by rw [hscalar]; rfl⟩, request.clusterName,
      ⟨h.clusterName, by rw [hscalar]; rfl⟩, request.canonicalJobId,
      ⟨h.canonicalJobId.inWidth, by rw [hscalar]; rfl⟩, request.reason,
      ⟨h.reason, by rw [hscalar]; rfl⟩, h.requestId, h.canonicalJobId, rfl⟩
    rw [hscalar]
    cases field <;> simp [ReleaseRequest.scalars, releaseFields]

/-- The decoder of get-reservations requests returns the requests within their bounds whose
contents the frame has. -/
lemma decodeGetReservationsRequest_eq_ok_iff {frame : List UInt8} {header : Header}
    {request : GetReservationsRequest} :
    decodeGetReservationsRequest frame = .ok (header, request) ↔
      ∃ correlationId payload, Framed .getReservationsRequest correlationId payload frame ∧
        header = Header.read .getReservationsRequest correlationId payload ∧ request.Sendable ∧
          ∃ collected, collect payload [] = .ok collected ∧
            collected.scalar = request.scalars := by
  rw [decodeGetReservationsRequest]
  simp only [↓check_bind_eq_ok_iff, bind_eq_ok_iff, refuseIf_eq_ok_iff, not_not,
    decodeU64_eq_ok_iff, decodeU32_eq_ok_iff, decodeText_eq_ok_iff, uint_nonzero_check_iff]
  constructor
  · rintro ⟨read, hread, htype, collected, hcollect, honly, requestId, ⟨hrange₁, hvalue₁⟩,
      clusterName, ⟨hfits, hvalue₂⟩, observedJobId, ⟨hrange₃, hvalue₃⟩, jobUid,
      ⟨hrange₄, hvalue₄⟩, jobGid, ⟨hrange₅, hvalue₅⟩, hid, hobserved, hresult⟩
    obtain ⟨rfl, rfl⟩ := Prod.mk.inj (Except.ok.inj hresult)
    obtain ⟨correlationId, payload, hframed, rfl⟩ :=
      header_of_type_iff.mp ⟨hread, not_not.mpr htype⟩
    rw [hframed.drop] at hcollect
    refine ⟨correlationId, payload, hframed, rfl, ⟨hid, hfits, hobserved, hrange₄, hrange₅⟩,
      collected, hcollect, funext fun field => ?_⟩
    cases field
    case requestId => exact hvalue₁
    case clusterName => exact hvalue₂
    case observedJobId => exact hvalue₃
    case jobUid => exact hvalue₄
    case jobGid => exact hvalue₅
    all_goals exact honly.absent (by decide)
  · rintro ⟨correlationId, payload, hframed, rfl, h, collected, hcollect, hscalar⟩
    obtain ⟨hread, htype⟩ := header_of_type_iff.mpr ⟨correlationId, payload, hframed, rfl⟩
    rw [← hframed.drop] at hcollect
    refine ⟨_, hread, not_not.mp htype, collected, hcollect, exactFields_iff.mpr fun field => ?_,
      request.requestId,
      ⟨h.requestId.inWidth, by rw [hscalar]; rfl⟩, request.clusterName,
      ⟨h.clusterName, by rw [hscalar]; rfl⟩, request.observedJobId,
      ⟨h.observedJobId.inWidth, by rw [hscalar]; rfl⟩, request.jobUid,
      ⟨h.jobUid, by rw [hscalar]; rfl⟩, request.jobGid, ⟨h.jobGid, by rw [hscalar]; rfl⟩,
      h.requestId, h.observedJobId, rfl⟩
    rw [hscalar]
    cases field <;> simp [GetReservationsRequest.scalars, getReservationsFields]

/-- The numbers of a workload fit their types; the bounds are checked afterwards. -/
@[mk_iff]
structure Workload.Read (workload : Workload) : Prop where
  walltimeNs : InWidth 64 workload.walltimeNs
  circuitCount : InWidth 64 workload.circuitCount
  maxQubits : InWidth 32 workload.maxQubits
  maxDepth : InWidth 64 workload.maxDepth
  maxShots : InWidth 64 workload.maxShots
  maxOneQGates : ∀ value ∈ workload.maxOneQGates, InWidth 64 value
  maxTwoQGates : ∀ value ∈ workload.maxTwoQGates, InWidth 64 value
  maxMeasurements : ∀ value ∈ workload.maxMeasurements, InWidth 64 value

lemma Workload.Sendable.read {workload : Workload} (h : workload.Sendable) : workload.Read :=
  ⟨h.walltimeNs.inWidth, h.circuitCount.inWidth, h.maxQubits.inWidth, h.maxDepth.inWidth,
    h.maxShots.inWidth, h.maxOneQGates, h.maxTwoQGates, h.maxMeasurements⟩

lemma workloadKindOf_eq_ok_iff {value : ℤ} {kind : WorkloadKind} :
    workloadKindOf value = .ok kind ↔ value = kind.code := by
  unfold workloadKindOf
  cases kind <;> simp only [WorkloadKind.code] <;> split_ifs <;> simp <;> omega

/-- A workload is read from the values of its fields. -/
lemma decodeWorkload_eq_ok_iff {values : Scalars} {workload : Workload} :
    decodeWorkload values = .ok workload ↔
      workload.Read ∧ ∀ field ∈ workloadFields ++ optionalWorkloadFields,
        values field = workload.scalars field := by
  rw [decodeWorkload]
  simp only [bind_eq_ok_iff, decodeU64_eq_ok_iff, decodeU32_eq_ok_iff, workloadKindOf_eq_ok_iff,
    decodeOptional_u64_iff]
  constructor
  · rintro ⟨_, ⟨-, hkind⟩, kind, rfl, walltimeNs, ⟨h₁, hvalue₁⟩, circuitCount, ⟨h₂, hvalue₂⟩,
      maxQubits, ⟨h₃, hvalue₃⟩, maxDepth, ⟨h₄, hvalue₄⟩, maxShots, ⟨h₅, hvalue₅⟩, maxOneQGates,
      ⟨h₆, hvalue₆⟩, maxTwoQGates, ⟨h₇, hvalue₇⟩, maxMeasurements, ⟨h₈, hvalue₈⟩, hresult⟩
    obtain rfl := Except.ok.inj hresult
    refine ⟨⟨h₁, h₂, h₃, h₄, h₅, h₆, h₇, h₈⟩, fun field hfield => ?_⟩
    cases field
    case workloadKind => exact hkind
    case walltimeNs => exact hvalue₁
    case circuitCount => exact hvalue₂
    case maxQubits => exact hvalue₃
    case maxDepth => exact hvalue₄
    case maxShots => exact hvalue₅
    case maxOneQGates => exact hvalue₆
    case maxTwoQGates => exact hvalue₇
    case maxMeasurements => exact hvalue₈
    all_goals exact absurd hfield (by decide)
  · rintro ⟨h, hvalues⟩
    have hkind := workload.kind.code_bounds
    exact ⟨_, ⟨by omega, hvalues .workloadKind (by decide)⟩, _, rfl,
      _, ⟨h.walltimeNs, hvalues .walltimeNs (by decide)⟩,
      _, ⟨h.circuitCount, hvalues .circuitCount (by decide)⟩,
      _, ⟨h.maxQubits, hvalues .maxQubits (by decide)⟩,
      _, ⟨h.maxDepth, hvalues .maxDepth (by decide)⟩,
      _, ⟨h.maxShots, hvalues .maxShots (by decide)⟩,
      _, ⟨h.maxOneQGates, hvalues .maxOneQGates (by decide)⟩,
      _, ⟨h.maxTwoQGates, hvalues .maxTwoQGates (by decide)⟩,
      _, ⟨h.maxMeasurements, hvalues .maxMeasurements (by decide)⟩, rfl⟩

lemma presentWorkload_eq_nil_iff {values : Scalars} :
    presentWorkload values = [] ↔ ∀ field ∈ workloadFields, values field = none := by
  rw [presentWorkload, List.filter_eq_nil_iff]
  simp only [Bool.not_eq_true, Option.isSome_eq_false_iff, Option.isNone_iff_eq_none]

lemma presentWorkload_eq_all_iff {values : Scalars} :
    presentWorkload values = workloadFields ↔ ∀ field ∈ workloadFields, (values field).isSome := by
  rw [presentWorkload, List.filter_eq_self]

/-- The checks of the workload envelope and its decoder: the workload fields are those of the
workload that is returned, if there is one. -/
lemma envelope_iff {values : Scalars} {workload : Option Workload} :
    (¬ (presentWorkload values ≠ [] ∧ presentWorkload values ≠ workloadFields) ∧
      ¬ (presentWorkload values = [] ∧
        ∃ field ∈ optionalWorkloadFields, (values field).isSome = true) ∧
      decodeEnvelope values = .ok workload) ↔
      (∀ found ∈ workload, found.Read) ∧ ∀ field ∈ workloadFields ++ optionalWorkloadFields,
        values field = workload.bind (·.scalars field) := by
  rw [decodeEnvelope]
  constructor
  · rintro ⟨hcomplete, hoptional, hdecode⟩
    by_cases hpresent : presentWorkload values = []
    · rw [if_pos hpresent] at hdecode
      obtain rfl := Except.ok.inj hdecode
      refine ⟨by simp, fun field hfield => ?_⟩
      rcases List.mem_append.mp hfield with hmem | hmem
      · exact presentWorkload_eq_nil_iff.mp hpresent field hmem
      · by_contra hsome
        exact hoptional ⟨hpresent, field, hmem, Option.isSome_iff_ne_none.mpr hsome⟩
    · rw [if_neg hpresent, bind_eq_ok_iff] at hdecode
      obtain ⟨found, hdecode, hresult⟩ := hdecode
      obtain rfl := Except.ok.inj hresult
      obtain ⟨hread, hvalues⟩ := decodeWorkload_eq_ok_iff.mp hdecode
      exact ⟨by rintro _ ⟨⟩; exact hread, hvalues⟩
  · rintro ⟨hread, hvalues⟩
    cases workload with
    | none =>
      have hpresent : presentWorkload values = [] := presentWorkload_eq_nil_iff.mpr
        fun field hfield => hvalues field (List.mem_append_left _ hfield)
      refine ⟨fun h => h.1 hpresent, ?_, if_pos hpresent⟩
      rintro ⟨-, field, hfield, hsome⟩
      rw [hvalues field (List.mem_append_right _ hfield)] at hsome
      exact absurd hsome (by simp)
    | some found =>
      have hall : presentWorkload values = workloadFields := by
        refine presentWorkload_eq_all_iff.mpr fun field hfield => ?_
        rw [hvalues field (List.mem_append_left _ hfield)]
        cases field <;> first | rfl | exact absurd hfield (by decide)
      have hne : presentWorkload values ≠ [] := by
        rw [hall]
        decide
      refine ⟨fun h => h.2 hall, fun h => hne h.1, ?_⟩
      rw [if_neg hne, bind_eq_ok_iff]
      exact ⟨found, decodeWorkload_eq_ok_iff.mpr ⟨hread found rfl, hvalues⟩, rfl⟩

/-- The contents of a payload with containers of one kind: its scalar fields, and the values that
are read from the containers in turn. -/
def Contains {α : Type} (container : Field) (decode : List UInt8 → Except PyError α)
    (payload : List UInt8) (scalars : Scalars) (items : List α) : Prop :=
  ∃ collected, collect payload [container] = .ok collected ∧ collected.scalar = scalars ∧
    List.Forall₂ (fun item result => decode item = .ok result) (collected.groups container) items

/-- The decoder of admission requests returns the requests within their bounds whose contents the
frame has. -/
lemma decodeAdmissionRequest_eq_ok_iff {frame : List UInt8} {messageType : MessageType}
    {header : Header} {request : ReserveRequest} :
    decodeAdmissionRequest frame messageType = .ok (header, request) ↔
      ∃ correlationId payload, Framed messageType correlationId payload frame ∧
        header = Header.read messageType correlationId payload ∧ request.Sendable ∧
          Contains .serviceRequest decodeServiceRequest payload request.scalars
            request.serviceIds := by
  rw [decodeAdmissionRequest]
  simp only [↓check_bind_eq_ok_iff, bind_eq_ok_iff, refuseIf_eq_ok_iff, decodeU64_eq_ok_iff,
    decodeU32_eq_ok_iff, decodeText_eq_ok_iff, decodeEach_eq_ok_iff, decodeOptional_u64_iff,
    decodeOptional_u32_iff, one_eq_ok_iff, validateReserveRequest_eq_ok_iff]
  constructor
  · rintro ⟨read, hread, htype, collected, hcollect, honly, services, hservices, -, hcomplete,
      hoptional, workload, hworkload, _, ⟨-, rfl⟩, requestId, ⟨-, hvalue₁⟩, _, ⟨-, rfl⟩,
      clusterName, ⟨-, hvalue₂⟩, _, ⟨-, rfl⟩, canonicalJobId, ⟨-, hvalue₃⟩, _, ⟨-, rfl⟩,
      jobUid, ⟨-, hvalue₄⟩, _, ⟨-, rfl⟩, jobGid, ⟨-, hvalue₅⟩, heteroJobId, ⟨-, hvalue₆⟩,
      heteroComponent, ⟨-, hvalue₇⟩, hsendable, hresult⟩
    obtain ⟨rfl, rfl⟩ := Prod.mk.inj (Except.ok.inj hresult)
    obtain ⟨correlationId, payload, hframed, rfl⟩ := header_of_type_iff.mp ⟨hread, htype⟩
    obtain ⟨-, hvalues⟩ := envelope_iff.mp ⟨hcomplete, hoptional, hworkload⟩
    rw [hframed.drop] at hcollect
    refine ⟨correlationId, payload, hframed, rfl, hsendable, collected, hcollect,
      funext fun field => ?_, hservices⟩
    by_cases hfield : field ∈ workloadFields ++ optionalWorkloadFields
    · rw [hvalues field hfield, ReserveRequest.scalars_workload _ hfield]
    by_cases hallowed : field ∈ admissionFields
    · cases field
      case requestId => exact hvalue₁
      case clusterName => exact hvalue₂
      case canonicalJobId => exact hvalue₃
      case jobUid => exact hvalue₄
      case jobGid => exact hvalue₅
      case heteroJobId => exact hvalue₆
      case heteroComponent => exact hvalue₇
      all_goals first | exact absurd (by decide) hfield | exact absurd hallowed (by decide)
    · rw [onlyFields_iff.mp (not_not.mp honly) field hallowed,
        ReserveRequest.scalars_absent _ hallowed]
  · rintro ⟨correlationId, payload, hframed, rfl, h, collected, hcollect, hscalar, hservices⟩
    obtain ⟨hread, htype⟩ := header_of_type_iff.mpr ⟨correlationId, payload, hframed, rfl⟩
    rw [← hframed.drop] at hcollect
    have hvalue (field : Field) : collected.scalar field = request.scalars field :=
      congrFun hscalar field
    obtain ⟨hcomplete, hoptional, hworkload⟩ := envelope_iff.mpr
      (⟨fun found hfound => (h.workload found hfound).read, fun field hfield => by
        rw [hvalue, request.scalars_workload hfield]⟩ :
        (∀ found ∈ request.workload, found.Read) ∧ ∀ field ∈ workloadFields ++
          optionalWorkloadFields, collected.scalar field = request.workload.bind (·.scalars field))
    have honly : onlyFields collected.scalar admissionFields := by
      refine onlyFields_iff.mpr fun field hfield => ?_
      rw [hvalue, request.scalars_absent hfield]
    have hset : ¬ (¬ (0 < request.serviceIds.length ∧ request.serviceIds.length ≤ maxServices) ∨
        ¬ request.serviceIds.Nodup) := by
      rintro (hcount | hdistinct)
      · exact hcount h.count
      · exact hdistinct h.distinct
    exact ⟨_, hread, htype, collected, hcollect, not_not.mpr honly, request.serviceIds, hservices,
      hset, hcomplete, hoptional, request.workload, hworkload,
      _, ⟨by rw [hvalue]; rfl, rfl⟩, request.requestId, ⟨h.requestId.inWidth, hvalue _⟩,
      _, ⟨by rw [hvalue]; rfl, rfl⟩, request.clusterName, ⟨h.clusterName, hvalue _⟩,
      _, ⟨by rw [hvalue]; rfl, rfl⟩, request.canonicalJobId, ⟨h.canonicalJobId.inWidth, hvalue _⟩,
      _, ⟨by rw [hvalue]; rfl, rfl⟩, request.jobUid, ⟨h.jobUid, hvalue _⟩,
      _, ⟨by rw [hvalue]; rfl, rfl⟩, request.jobGid, ⟨h.jobGid, hvalue _⟩,
      request.heteroJobId, ⟨fun value hmem => (h.heteroJobId value hmem).inWidth, hvalue _⟩,
      request.heteroComponent, ⟨h.heteroComponent, hvalue _⟩, h, rfl⟩

/-- The decoder of reserve requests returns the requests with a workload. -/
lemma decodeReserveRequest_eq_ok_iff {frame : List UInt8} {header : Header}
    {request : ReserveRequest} :
    decodeReserveRequest frame = .ok (header, request) ↔
      decodeAdmissionRequest frame .reserveRequest = .ok (header, request) ∧
        request.workload.isSome = true := by
  rw [decodeReserveRequest, bind_eq_ok_iff]
  simp only [check_bind_eq_ok_iff, refuseIf_eq_ok_iff]
  constructor
  · rintro ⟨found, hread, hsome, hresult⟩
    obtain ⟨rfl, rfl⟩ := Prod.mk.inj (Except.ok.inj hresult)
    exact ⟨hread, Option.isSome_iff_ne_none.mpr hsome⟩
  · rintro ⟨hread, hsome⟩
    exact ⟨_, hread, Option.isSome_iff_ne_none.mp hsome, rfl⟩

/-- The decoder of evaluate requests returns the requests with a workload. -/
lemma decodeEvaluateRequest_eq_ok_iff {frame : List UInt8} {header : Header}
    {request : EvaluateRequest} :
    decodeEvaluateRequest frame = .ok (header, request) ↔
      decodeAdmissionRequest frame .evaluateRequest = .ok (header, request.toReserveRequest) ∧
        request.workload.isSome = true := by
  rw [decodeEvaluateRequest, bind_eq_ok_iff]
  simp only [check_bind_eq_ok_iff, refuseIf_eq_ok_iff]
  constructor
  · rintro ⟨found, hread, hsome, hresult⟩
    obtain ⟨rfl, rfl⟩ := Prod.mk.inj (Except.ok.inj hresult)
    exact ⟨hread, Option.isSome_iff_ne_none.mpr hsome⟩
  · rintro ⟨hread, hsome⟩
    exact ⟨_, hread, Option.isSome_iff_ne_none.mp hsome, rfl⟩

end QfwSlurm
