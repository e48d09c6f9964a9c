import QfwSlurm.Native.Loops

/-!
# Decoding requests in the native library

The decoders of `src/protocol/qsgp_decode.c` for reserve, evaluate, release and get-reservations
requests.  A native request is described by its contents as a request of the gateway is: the decoder
returns the requests within their bounds, in the form the decoder leaves them in, whose contents the
frame has.
-/

namespace QfwSlurm.Native

open Wire

/-! ### Admission requests -/

structure QsgpWorkload where
  kind : ℕ := 0
  walltimeNs : ℕ := 0
  circuitCount : ℕ := 0
  maxQubits : ℕ := 0
  maxDepth : ℕ := 0
  maxShots : ℕ := 0
  maxOneQGates : ℕ := 0
  maxTwoQGates : ℕ := 0
  maxMeasurements : ℕ := 0
  hasMaxOneQGates : Bool := false
  hasMaxTwoQGates : Bool := false
  hasMaxMeasurements : Bool := false
  deriving DecidableEq

structure QsgpReserveRequest where
  requestId : ℕ := 0
  clusterName : List UInt8 := []
  canonicalJobId : ℕ := 0
  heteroJobId : ℕ := 0
  heteroComponent : ℕ := 0
  hasHeteroJobId : Bool := false
  hasHeteroComponent : Bool := false
  jobUid : ℕ := 0
  jobGid : ℕ := 0
  workload : QsgpWorkload := {}
  hasWorkload : Bool := false
  serviceIds : List (List UInt8) := []
  deriving DecidableEq

/-- The value of the service id field. -/
def readServiceRequest (_ : List UInt8) (tlv : Tlv) : Except Status (List UInt8) :=
  tlvString tlv (maxServiceId + 1)

/-- The loop body of `decode_service_request`, which looks at the type before it marks the field. -/
def serviceRequestStep (state : Decoding (List UInt8)) (tlv : Tlv) :
    Except Status (Decoding (List UInt8)) :=
  if ¬ knownTlv tlv.type then .ok state
  else if tlv.type ≠ Field.serviceId.code then .error .invalid
  else fieldStep readServiceRequest state tlv

/-- `decode_service_request` -/
def decodeServiceRequest (container : Tlv) : Except Status (List UInt8) := do
  let ⟨fields, serviceId⟩ ← scan cursorNext serviceRequestStep container.value ⟨0, []⟩
  if ¬ fieldPresent fields .serviceId then throw .invalid
  return serviceId

/-- The container case of `decode_admission_request`. -/
def appendServiceRequest (request : QsgpReserveRequest) (tlv : Tlv) :
    Except Status QsgpReserveRequest := do
  if maxServices ≤ request.serviceIds.length then throw .bounds
  let serviceId ← decodeServiceRequest tlv
  return { request with serviceIds := request.serviceIds ++ [serviceId] }

/-- The cases of `decode_admission_request`. -/
def readAdmissionRequest (request : QsgpReserveRequest) (tlv : Tlv) :
    Except Status QsgpReserveRequest :=
  match Field.ofCode tlv.type with
  | some .requestId => do return { request with requestId := ← tlvU64 tlv }
  | some .clusterName => do
    return { request with clusterName := ← tlvString tlv (maxClusterName + 1) }
  | some .canonicalJobId => do return { request with canonicalJobId := ← tlvU64 tlv }
  | some .heteroJobId => do
    return { request with heteroJobId := ← tlvU64 tlv, hasHeteroJobId := true }
  | some .heteroComponent => do
    return { request with heteroComponent := ← tlvU32 tlv, hasHeteroComponent := true }
  | some .jobUid => do return { request with jobUid := ← tlvU32 tlv }
  | some .jobGid => do return { request with jobGid := ← tlvU32 tlv }
  | some .workloadKind => do
    return { request with workload := { request.workload with kind := ← tlvU32 tlv } }
  | some .walltimeNs => do
    return { request with workload := { request.workload with walltimeNs := ← tlvU64 tlv } }
  | some .circuitCount => do
    return { request with workload := { request.workload with circuitCount := ← tlvU64 tlv } }
  | some .maxQubits => do
    return { request with workload := { request.workload with maxQubits := ← tlvU32 tlv } }
  | some .maxDepth => do
    return { request with workload := { request.workload with maxDepth := ← tlvU64 tlv } }
  | some .maxShots => do
    return { request with workload := { request.workload with maxShots := ← tlvU64 tlv } }
  | some .maxOneQGates => do
    return { request with workload :=
      { request.workload with maxOneQGates := ← tlvU64 tlv, hasMaxOneQGates := true } }
  | some .maxTwoQGates => do
    return { request with workload :=
      { request.workload with maxTwoQGates := ← tlvU64 tlv, hasMaxTwoQGates := true } }
  | some .maxMeasurements => do
    return { request with workload :=
      { request.workload with maxMeasurements := ← tlvU64 tlv, hasMaxMeasurements := true } }
  | _ => .error .invalid

/-- The workload part of the checks after the loop of `decode_admission_request`. -/
def workloadComplete (present : Field → Bool) : Bool :=
  (present .workloadKind = present .walltimeNs ∧ present .workloadKind = present .circuitCount ∧
    present .workloadKind = present .maxQubits ∧ present .workloadKind = present .maxDepth ∧
      present .workloadKind = present .maxShots) ∧
  (present .workloadKind ∨ ¬ (present .maxOneQGates ∨ present .maxTwoQGates ∨
    present .maxMeasurements))

/-- The bounds on a workload that is present. -/
def QsgpWorkload.invalid (workload : QsgpWorkload) : Bool :=
  workload.kind < 1 ∨ 2 < workload.kind ∨ workload.walltimeNs = 0 ∨ workload.circuitCount = 0 ∨
    workload.maxQubits = 0 ∨ workload.maxDepth = 0 ∨ workload.maxShots = 0

/-- The checks after the loop of `decode_admission_request`, where `present` says which fields were
seen. -/
def finishAdmissionRequest (present : Field → Bool) (request : QsgpReserveRequest) :
    Except Status QsgpReserveRequest :=
  let request := { request with hasWorkload := present .workloadKind }
  if ¬ workloadComplete present then .error .invalid
  else if request.hasHeteroJobId ≠ request.hasHeteroComponent then .error .invalid
  else if ¬ request.serviceIds.Nodup then .error .conflict
  else if ¬ present .requestId ∨ ¬ present .clusterName ∨ ¬ present .canonicalJobId ∨
      ¬ present .jobUid ∨ ¬ present .jobGid ∨ request.requestId = 0 ∨
      request.canonicalJobId = 0 ∨ request.serviceIds.length = 0 ∨
      (request.hasWorkload ∧ request.workload.invalid) then
    .error .invalid
  else .ok request

/-- `decode_admission_request` -/
def decodeAdmissionRequest (data : List UInt8) (messageType : MessageType) :
    Except Status (QsgpHeader × QsgpReserveRequest) := do
  let (header, payload) ← decodeStart data messageType
  let ⟨fields, request⟩ ← scan cursorNext
    (messageStep .serviceRequest appendServiceRequest readAdmissionRequest) payload ⟨0, {}⟩
  let request ← finishAdmissionRequest (fieldPresent fields) request
  return (header, request)

/-- `qsgp_decode_reserve_request` -/
def qsgpDecodeReserveRequest (data : List UInt8) :
    Except Status (QsgpHeader × QsgpReserveRequest) := do
  let (header, request) ← decodeAdmissionRequest data .reserveRequest
  if ¬ request.hasWorkload then throw .invalid
  return (header, request)

/-- `qsgp_decode_evaluate_request` -/
def qsgpDecodeEvaluateRequest (data : List UInt8) :
    Except Status (QsgpHeader × QsgpReserveRequest) := do
  let (header, request) ← decodeAdmissionRequest data .evaluateRequest
  if ¬ request.hasWorkload then throw .invalid
  return (header, request)

/-! ### Release and get-reservations requests -/

/-- The cases of `qsgp_decode_release_request`. -/
def readReleaseRequest (request : QsgpReleaseRequest) (tlv : Tlv) :
    Except Status QsgpReleaseRequest :=
  match Field.ofCode tlv.type with
  | some .requestId => do return { request with requestId := ← tlvU64 tlv }
  | some .clusterName => do
    return { request with clusterName := ← tlvString tlv (maxClusterName + 1) }
  | some .canonicalJobId => do return { request with canonicalJobId := ← tlvU64 tlv }
  | some .releaseReason => do return { request with reason := ← tlvU32 tlv }
  | _ => .error .invalid

/-- `qsgp_decode_release_request` -/
def qsgpDecodeReleaseRequest (data : List UInt8) :
    Except Status (QsgpHeader × QsgpReleaseRequest) := do
  let (header, payload) ← decodeStart data .releaseRequest
  let ⟨fields, request⟩ ← scan cursorNext (fieldStep readReleaseRequest) payload ⟨0, ⟨0, [], 0, 0⟩⟩
  if ¬ fieldPresent fields .requestId ∨ ¬ fieldPresent fields .clusterName ∨
      ¬ fieldPresent fields .canonicalJobId ∨ ¬ fieldPresent fields .releaseReason ∨
      request.requestId = 0 ∨ request.canonicalJobId = 0 then
    throw .invalid
  return (header, request)

structure QsgpGetReservationsRequest where
  requestId : ℕ := 0
  clusterName : List UInt8 := []
  observedJobId : ℕ := 0
  jobUid : ℕ := 0
  jobGid : ℕ := 0
  deriving DecidableEq

/-- The cases of `qsgp_decode_get_reservations_request`. -/
def readGetReservationsRequest (request : QsgpGetReservationsRequest) (tlv : Tlv) :
    Except Status QsgpGetReservationsRequest :=
  match Field.ofCode tlv.type with
  | some .requestId => do return { request with requestId := ← tlvU64 tlv }
  | some .clusterName => do
    return { request with clusterName := ← tlvString tlv (maxClusterName + 1) }
  | some .observedJobId => do return { request with observedJobId := ← tlvU64 tlv }
  | some .jobUid => do return { request with jobUid := ← tlvU32 tlv }
  | some .jobGid => do return { request with jobGid := ← tlvU32 tlv }
  | _ => .error .invalid

/-- `qsgp_decode_get_reservations_request` -/
def qsgpDecodeGetReservationsRequest (data : List UInt8) :
    Except Status (QsgpHeader × QsgpGetReservationsRequest) := do
  let (header, payload) ← decodeStart data .getReservationsRequest
  let ⟨fields, request⟩ ← scan cursorNext (fieldStep readGetReservationsRequest) payload ⟨0, {}⟩
  if ¬ fieldPresent fields .requestId ∨ ¬ fieldPresent fields .clusterName ∨
      ¬ fieldPresent fields .observedJobId ∨ ¬ fieldPresent fields .jobUid ∨
      ¬ fieldPresent fields .jobGid ∨ request.requestId = 0 ∨ request.observedJobId = 0 then
    throw .invalid
  return (header, request)

/-! ### Release requests within their bounds -/

/-- A nonzero number of the given width. -/
def NonzeroWidth (bits value : ℕ) : Prop := 0 < value ∧ value < 2 ^ bits

instance (bits value : ℕ) : Decidable (NonzeroWidth bits value) :=
  inferInstanceAs (Decidable (_ ∧ _))

structure QsgpReleaseRequest.Sendable (request : QsgpReleaseRequest) : Prop where
  requestId : NonzeroWidth 64 request.requestId
  clusterName : CharsFit request.clusterName maxClusterName
  canonicalJobId : NonzeroWidth 64 request.canonicalJobId
  reason : request.reason < 2 ^ 32

/-- The scalar fields of a release request. -/
def QsgpReleaseRequest.scalars (request : QsgpReleaseRequest) : Scalars
  | .requestId => some (bigEndian 8 request.requestId)
  | .clusterName => some request.clusterName
  | .canonicalJobId => some (bigEndian 8 request.canonicalJobId)
  | .releaseReason => some (bigEndian 4 request.reason)
  | _ => none

/-- The layout of a release request. -/
def releaseRequestLayout : Field → Option Shape
  | .requestId | .canonicalJobId => some .u64
  | .clusterName => some (.text maxClusterName)
  | .releaseReason => some .u32
  | _ => none

/-- The release request filled in with some values. -/
def releaseRequestOf (scalars : Scalars) : QsgpReleaseRequest where
  requestId := number (scalars .requestId)
  clusterName := chars (scalars .clusterName)
  canonicalJobId := number (scalars .canonicalJobId)
  reason := number (scalars .releaseReason)

lemma fills_releaseRequest : Fills readReleaseRequest releaseRequestLayout releaseRequestOf where
  reads scalars field flags bytes value := by
    cases field <;>
      simp [readReleaseRequest, read_u64_iff, read_u32_iff, read_text_iff, Fitting,
        releaseRequestLayout, Shape.Reads, releaseRequestOf]

/-- The values of a release request within its bounds have room in it. -/
lemma QsgpReleaseRequest.Sendable.allFitting {request : QsgpReleaseRequest}
    (h : request.Sendable) : AllFitting releaseRequestLayout request.scalars := by
  intro field value hvalue
  cases field
  case clusterName => exact Option.some.inj hvalue ▸ fitting_text rfl h.clusterName
  case requestId => exact Option.some.inj hvalue ▸ fitting_u64 rfl _
  case canonicalJobId => exact Option.some.inj hvalue ▸ fitting_u64 rfl _
  case releaseReason => exact Option.some.inj hvalue ▸ fitting_u32 rfl _
  all_goals exact (nomatch hvalue)

lemma QsgpReleaseRequest.Sendable.releaseRequestOf_scalars {request : QsgpReleaseRequest}
    (h : request.Sendable) : releaseRequestOf request.scalars = request := by
  simp only [releaseRequestOf, QsgpReleaseRequest.scalars, number_some, chars_some,
    number_u64 h.requestId.2, number_u64 h.canonicalJobId.2, number_u32 h.reason]

/-- The native decoder of release requests returns the requests within their bounds whose contents
the frame has. -/
theorem qsgpDecodeReleaseRequest_eq_ok_iff {data : List UInt8} {header : QsgpHeader}
    {request : QsgpReleaseRequest} :
    qsgpDecodeReleaseRequest data = .ok (header, request) ↔
      ∃ correlationId payload, Framed .releaseRequest correlationId payload data ∧
        header = .read .releaseRequest correlationId payload ∧ request.Sendable ∧
          ∃ collected, collect payload [] = .ok collected ∧
            collected.scalar = request.scalars := by
  refine (fills_releaseRequest.decode_iff fun header present request =>
    if ¬ present .requestId ∨ ¬ present .clusterName ∨ ¬ present .canonicalJobId ∨
        ¬ present .releaseReason ∨ request.requestId = 0 ∨ request.canonicalJobId = 0 then
      .error .invalid
    else .ok (header, request)).trans ?_
  constructor
  · rintro ⟨correlationId, payload, collected, hframed, hcollect, hfitting, hcheck⟩
    split_ifs at hcheck with hmissing
    obtain ⟨rfl, rfl⟩ := Prod.mk.inj (Except.ok.inj hcheck)
    simp only [not_or, not_not] at hmissing
    obtain ⟨hid, hcluster, hcanonical, hreason, hnonzero, hnonzero'⟩ := hmissing
    obtain ⟨hid_lt, hid_eq⟩ := hfitting.u64_of_present rfl hid
    obtain ⟨hcanonical_lt, hcanonical_eq⟩ := hfitting.u64_of_present rfl hcanonical
    obtain ⟨hreason_lt, hreason_eq⟩ := hfitting.u32_of_present rfl hreason
    obtain ⟨hcluster_fits, hcluster_eq⟩ := hfitting.text_of_present rfl hcluster
    refine ⟨correlationId, payload, hframed, rfl, ⟨⟨Nat.pos_of_ne_zero hnonzero, hid_lt⟩,
      hcluster_fits, ⟨Nat.pos_of_ne_zero hnonzero', hcanonical_lt⟩, hreason_lt⟩,
      collected, hcollect, funext fun field => ?_⟩
    cases field
    case requestId => exact hid_eq
    case clusterName => exact hcluster_eq
    case canonicalJobId => exact hcanonical_eq
    case releaseReason => exact hreason_eq
    all_goals exact hfitting.absent rfl
  · rintro ⟨correlationId, payload, hframed, rfl, h, collected, hcollect, hscalar⟩
    refine ⟨correlationId, payload, collected, hframed, hcollect, hscalar ▸ h.allFitting, ?_⟩
    rw [hscalar, h.releaseRequestOf_scalars, if_neg]
    have := h.requestId.1
    have := h.canonicalJobId.1
    simp only [QsgpReleaseRequest.scalars, Option.isSome_some, not_true_eq_false, false_or]
    omega

/-! ### Get-reservations requests within their bounds -/

structure QsgpGetReservationsRequest.Sendable (request : QsgpGetReservationsRequest) : Prop where
  requestId : NonzeroWidth 64 request.requestId
  clusterName : CharsFit request.clusterName maxClusterName
  observedJobId : NonzeroWidth 64 request.observedJobId
  jobUid : request.jobUid < 2 ^ 32
  jobGid : request.jobGid < 2 ^ 32

/-- The scalar fields of a get-reservations request. -/
def QsgpGetReservationsRequest.scalars (request : QsgpGetReservationsRequest) : Scalars
  | .requestId => some (bigEndian 8 request.requestId)
  | .clusterName => some request.clusterName
  | .observedJobId => some (bigEndian 8 request.observedJobId)
  | .jobUid => some (bigEndian 4 request.jobUid)
  | .jobGid => some (bigEndian 4 request.jobGid)
  | _ => none

/-- The layout of a get-reservations request. -/
def getReservationsRequestLayout : Field → Option Shape
  | .requestId | .observedJobId => some .u64
  | .clusterName => some (.text maxClusterName)
  | .jobUid | .jobGid => some .u32
  | _ => none

/-- The get-reservations request filled in with some values. -/
def getReservationsRequestOf (scalars : Scalars) : QsgpGetReservationsRequest where
  requestId := number (scalars .requestId)
  clusterName := chars (scalars .clusterName)
  observedJobId := number (scalars .observedJobId)
  jobUid := number (scalars .jobUid)
  jobGid := number (scalars .jobGid)

lemma fills_getReservationsRequest :
    Fills readGetReservationsRequest getReservationsRequestLayout getReservationsRequestOf where
  reads scalars field flags bytes value := by
    cases field <;>
      simp [readGetReservationsRequest, read_u64_iff, read_u32_iff, read_text_iff, Fitting,
        getReservationsRequestLayout, Shape.Reads, getReservationsRequestOf]

lemma QsgpGetReservationsRequest.Sendable.allFitting {request : QsgpGetReservationsRequest}
    (h : request.Sendable) : AllFitting getReservationsRequestLayout request.scalars := by
  intro field value hvalue
  cases field
  case clusterName => exact Option.some.inj hvalue ▸ fitting_text rfl h.clusterName
  case requestId => exact Option.some.inj hvalue ▸ fitting_u64 rfl _
  case observedJobId => exact Option.some.inj hvalue ▸ fitting_u64 rfl _
  case jobUid => exact Option.some.inj hvalue ▸ fitting_u32 rfl _
  case jobGid => exact Option.some.inj hvalue ▸ fitting_u32 rfl _
  all_goals exact (nomatch hvalue)

lemma QsgpGetReservationsRequest.Sendable.getReservationsRequestOf_scalars
    {request : QsgpGetReservationsRequest} (h : request.Sendable) :
    getReservationsRequestOf request.scalars = request := by
  simp only [getReservationsRequestOf, QsgpGetReservationsRequest.scalars, number_some,
    chars_some, number_u64 h.requestId.2, number_u64 h.observedJobId.2, number_u32 h.jobUid,
    number_u32 h.jobGid]

/-- The native decoder of get-reservations requests returns the requests within their bounds whose
contents the frame has. -/
theorem qsgpDecodeGetReservationsRequest_eq_ok_iff {data : List UInt8} {header : QsgpHeader}
    {request : QsgpGetReservationsRequest} :
    qsgpDecodeGetReservationsRequest data = .ok (header, request) ↔
      ∃ correlationId payload, Framed .getReservationsRequest correlationId payload data ∧
        header = .read .getReservationsRequest correlationId payload ∧ request.Sendable ∧
          ∃ collected, collect payload [] = .ok collected ∧
            collected.scalar = request.scalars := by
  refine (fills_getReservationsRequest.decode_iff fun header present request =>
    if ¬ present .requestId ∨ ¬ present .clusterName ∨ ¬ present .observedJobId ∨
        ¬ present .jobUid ∨ ¬ present .jobGid ∨ request.requestId = 0 ∨
        request.observedJobId = 0 then
      .error .invalid
    else .ok (header, request)).trans ?_
  constructor
  · rintro ⟨correlationId, payload, collected, hframed, hcollect, hfitting, hcheck⟩
    split_ifs at hcheck with hmissing
    obtain ⟨rfl, rfl⟩ := Prod.mk.inj (Except.ok.inj hcheck)
    simp only [not_or, not_not] at hmissing
    obtain ⟨hid, hcluster, hobserved, huid, hgid, hnonzero, hnonzero'⟩ := hmissing
    obtain ⟨hid_lt, hid_eq⟩ := hfitting.u64_of_present rfl hid
    obtain ⟨hobserved_lt, hobserved_eq⟩ := hfitting.u64_of_present rfl hobserved
    obtain ⟨huid_lt, huid_eq⟩ := hfitting.u32_of_present rfl huid
    obtain ⟨hgid_lt, hgid_eq⟩ := hfitting.u32_of_present rfl hgid
    obtain ⟨hcluster_fits, hcluster_eq⟩ := hfitting.text_of_present rfl hcluster
    refine ⟨correlationId, payload, hframed, rfl, ⟨⟨Nat.pos_of_ne_zero hnonzero, hid_lt⟩,
      hcluster_fits, ⟨Nat.pos_of_ne_zero hnonzero', hobserved_lt⟩, huid_lt, hgid_lt⟩,
      collected, hcollect, funext fun field => ?_⟩
    cases field
    case requestId => exact hid_eq
    case clusterName => exact hcluster_eq
    case observedJobId => exact hobserved_eq
    case jobUid => exact huid_eq
    case jobGid => exact hgid_eq
    all_goals exact hfitting.absent rfl
  · rintro ⟨correlationId, payload, hframed, rfl, h, collected, hcollect, hscalar⟩
    refine ⟨correlationId, payload, collected, hframed, hcollect, hscalar ▸ h.allFitting, ?_⟩
    rw [hscalar, h.getReservationsRequestOf_scalars, if_neg]
    have := h.requestId.1
    have := h.observedJobId.1
    simp only [QsgpGetReservationsRequest.scalars, Option.isSome_some, not_true_eq_false,
      false_or]
    omega

/-! ### Service requests -/

/-- Reading a service request as a message with one field. -/
def readServiceId (message : List UInt8) (tlv : Tlv) : Except Status (List UInt8) :=
  if tlv.type ≠ Field.serviceId.code then .error .invalid else readServiceRequest message tlv

/-- Looking at the type before or after the field is marked makes no difference to what ends
well. -/
lemma serviceRequestStep_eq_ok_iff {state next : Decoding (List UInt8)} {tlv : Tlv} :
    serviceRequestStep state tlv = .ok next ↔ fieldStep readServiceId state tlv = .ok next := by
  unfold serviceRequestStep fieldStep readServiceId
  by_cases hknown : knownTlv tlv.type
  · by_cases hother : tlv.type ≠ Field.serviceId.code
    · simp [hknown, hother, bind_eq_ok_iff]
    · simp only [hknown, hother, if_false, not_true_eq_false]
  · simp only [hknown, Bool.false_eq_true, not_false_eq_true, if_true]

/-- The layout of a service request. -/
def serviceRequestLayout : Field → Option Shape
  | .serviceId => some (.text maxServiceId)
  | _ => none

lemma fills_serviceRequest :
    Fills readServiceId serviceRequestLayout fun scalars => chars (scalars .serviceId) where
  reads scalars field flags bytes value := by
    cases field <;>
      simp [readServiceId, readServiceRequest, tlvString_eq_ok_iff, Fitting, serviceRequestLayout,
        Shape.Reads]

/-- The native decoder of service requests returns the service whose name the container has. -/
lemma decodeServiceRequest_eq_ok_iff {container : Tlv} {serviceId : List UInt8} :
    decodeServiceRequest container = .ok serviceId ↔
      CharsFit serviceId maxServiceId ∧ ∃ collected, collect container.value [] = .ok collected ∧
        collected.scalar = serviceScalars serviceId := by
  have hscan (final : Decoding (List UInt8)) :
      scan cursorNext serviceRequestStep container.value ⟨0, []⟩ = .ok final ↔
        scan cursorNext (fieldStep readServiceId) container.value ⟨0, []⟩ = .ok final :=
    reads_cursorNext.scan_eq_ok_congr fun _ _ _ => serviceRequestStep_eq_ok_iff
  rw [decodeServiceRequest, bind_eq_ok_iff]
  refine (exists_congr fun final => and_congr_left' (hscan final)).trans ?_
  refine bind_eq_ok_iff.symm.trans ?_
  refine (fills_serviceRequest.run_iff fun present serviceId =>
    if ¬ present .serviceId then .error .invalid else .ok serviceId).trans ?_
  constructor
  · rintro ⟨collected, hcollect, hfitting, hcheck⟩
    split_ifs at hcheck with hmissing
    obtain rfl := Except.ok.inj hcheck
    obtain ⟨hfits, hvalue⟩ := hfitting.text_of_present rfl hmissing
    refine ⟨hfits, collected, hcollect, funext fun field => ?_⟩
    cases field
    case serviceId => exact hvalue
    all_goals exact hfitting.absent rfl
  · rintro ⟨hfits, collected, hcollect, hscalar⟩
    have hfitting : AllFitting serviceRequestLayout collected.scalar := by
      rw [hscalar]
      intro field value hvalue
      cases field
      case serviceId => exact Option.some.inj hvalue ▸ fitting_text rfl hfits
      all_goals exact (nomatch hvalue)
    refine ⟨collected, hcollect, hfitting, ?_⟩
    rw [hscalar]
    rfl

/-! ### Admission requests within their bounds -/

structure QsgpWorkload.Sendable (workload : QsgpWorkload) : Prop where
  kind : 1 ≤ workload.kind ∧ workload.kind ≤ 2
  walltimeNs : NonzeroWidth 64 workload.walltimeNs
  circuitCount : NonzeroWidth 64 workload.circuitCount
  maxQubits : NonzeroWidth 32 workload.maxQubits
  maxDepth : NonzeroWidth 64 workload.maxDepth
  maxShots : NonzeroWidth 64 workload.maxShots
  maxOneQGates : workload.hasMaxOneQGates → workload.maxOneQGates < 2 ^ 64
  maxTwoQGates : workload.hasMaxTwoQGates → workload.maxTwoQGates < 2 ^ 64
  maxMeasurements : workload.hasMaxMeasurements → workload.maxMeasurements < 2 ^ 64

/-- An admission request that can be sent: a workload, between 1 and 32 distinct services, and
every number and text that is present within the bounds of its field. -/
structure QsgpReserveRequest.Sendable (request : QsgpReserveRequest) : Prop where
  requestId : NonzeroWidth 64 request.requestId
  clusterName : CharsFit request.clusterName maxClusterName
  canonicalJobId : NonzeroWidth 64 request.canonicalJobId
  together : request.hasHeteroJobId = request.hasHeteroComponent
  heteroJobId : request.hasHeteroJobId → request.heteroJobId < 2 ^ 64
  heteroComponent : request.hasHeteroComponent → request.heteroComponent < 2 ^ 32
  jobUid : request.jobUid < 2 ^ 32
  jobGid : request.jobGid < 2 ^ 32
  hasWorkload : request.hasWorkload = true
  workload : request.workload.Sendable
  count : 0 < request.serviceIds.length ∧ request.serviceIds.length ≤ maxServices
  distinct : request.serviceIds.Nodup
  services : ∀ serviceId ∈ request.serviceIds, CharsFit serviceId maxServiceId

/-- A workload whose absent fields are zero. -/
def QsgpWorkload.normalize (workload : QsgpWorkload) : QsgpWorkload :=
  { workload with
    maxOneQGates := kept 0 workload.hasMaxOneQGates workload.maxOneQGates
    maxTwoQGates := kept 0 workload.hasMaxTwoQGates workload.maxTwoQGates
    maxMeasurements := kept 0 workload.hasMaxMeasurements workload.maxMeasurements }

/-- A request whose absent fields are zero, as the decoders leave them. -/
def QsgpReserveRequest.normalize (request : QsgpReserveRequest) : QsgpReserveRequest :=
  { request with
    heteroJobId := kept 0 request.hasHeteroJobId request.heteroJobId
    heteroComponent := kept 0 request.hasHeteroComponent request.heteroComponent
    workload := kept {} request.hasWorkload request.workload.normalize }

/-- The scalar fields of an admission request. -/
def QsgpReserveRequest.scalars (request : QsgpReserveRequest) : Scalars
  | .requestId => some (bigEndian 8 request.requestId)
  | .clusterName => some request.clusterName
  | .canonicalJobId => some (bigEndian 8 request.canonicalJobId)
  | .heteroJobId => present request.hasHeteroJobId (bigEndian 8 request.heteroJobId)
  | .heteroComponent => present request.hasHeteroComponent (bigEndian 4 request.heteroComponent)
  | .jobUid => some (bigEndian 4 request.jobUid)
  | .jobGid => some (bigEndian 4 request.jobGid)
  | .workloadKind => present request.hasWorkload (bigEndian 4 request.workload.kind)
  | .walltimeNs => present request.hasWorkload (bigEndian 8 request.workload.walltimeNs)
  | .circuitCount => present request.hasWorkload (bigEndian 8 request.workload.circuitCount)
  | .maxQubits => present request.hasWorkload (bigEndian 4 request.workload.maxQubits)
  | .maxDepth => present request.hasWorkload (bigEndian 8 request.workload.maxDepth)
  | .maxShots => present request.hasWorkload (bigEndian 8 request.workload.maxShots)
  | .maxOneQGates => present (request.hasWorkload && request.workload.hasMaxOneQGates)
      (bigEndian 8 request.workload.maxOneQGates)
  | .maxTwoQGates => present (request.hasWorkload && request.workload.hasMaxTwoQGates)
      (bigEndian 8 request.workload.maxTwoQGates)
  | .maxMeasurements => present (request.hasWorkload && request.workload.hasMaxMeasurements)
      (bigEndian 8 request.workload.maxMeasurements)
  | _ => none

/-- The layout of an admission request. -/
def admissionRequestLayout : Field → Option Shape
  | .requestId | .canonicalJobId | .heteroJobId | .walltimeNs | .circuitCount | .maxDepth
  | .maxShots | .maxOneQGates | .maxTwoQGates | .maxMeasurements => some .u64
  | .heteroComponent | .jobUid | .jobGid | .workloadKind | .maxQubits => some .u32
  | .clusterName => some (.text maxClusterName)
  | _ => none

/-- The workload filled in with some values. -/
def workloadOf (scalars : Scalars) : QsgpWorkload where
  kind := number (scalars .workloadKind)
  walltimeNs := number (scalars .walltimeNs)
  circuitCount := number (scalars .circuitCount)
  maxQubits := number (scalars .maxQubits)
  maxDepth := number (scalars .maxDepth)
  maxShots := number (scalars .maxShots)
  maxOneQGates := number (scalars .maxOneQGates)
  maxTwoQGates := number (scalars .maxTwoQGates)
  maxMeasurements := number (scalars .maxMeasurements)
  hasMaxOneQGates := (scalars .maxOneQGates).isSome
  hasMaxTwoQGates := (scalars .maxTwoQGates).isSome
  hasMaxMeasurements := (scalars .maxMeasurements).isSome

/-- The admission request filled in with some values; whether it has a workload is decided after
the loop. -/
def admissionRequestOf (scalars : Scalars) (serviceIds : List (List UInt8)) :
    QsgpReserveRequest where
  requestId := number (scalars .requestId)
  clusterName := chars (scalars .clusterName)
  canonicalJobId := number (scalars .canonicalJobId)
  heteroJobId := number (scalars .heteroJobId)
  heteroComponent := number (scalars .heteroComponent)
  hasHeteroJobId := (scalars .heteroJobId).isSome
  hasHeteroComponent := (scalars .heteroComponent).isSome
  jobUid := number (scalars .jobUid)
  jobGid := number (scalars .jobGid)
  workload := workloadOf scalars
  serviceIds := serviceIds

/-- The value of a service request container. -/
def serviceRequestElement (bytes : List UInt8) : Except Status (List UInt8) :=
  decodeServiceRequest (Field.serviceRequest.tlv bytes)

/-- `decode_service_request` on the value of a container. -/
lemma serviceRequestElement_eq_ok_iff {bytes serviceId : List UInt8} :
    serviceRequestElement bytes = .ok serviceId ↔
      CharsFit serviceId maxServiceId ∧ ∃ collected, collect bytes [] = .ok collected ∧
        collected.scalar = serviceScalars serviceId :=
  decodeServiceRequest_eq_ok_iff

lemma fillsMessage_admissionRequest :
    FillsMessage .serviceRequest appendServiceRequest readAdmissionRequest admissionRequestLayout
      serviceRequestElement admissionRequestOf where
  reads scalars services field flags bytes value hne := by
    cases field <;>
      simp [readAdmissionRequest, read_u64_iff, read_u32_iff, read_text_iff, Fitting,
        admissionRequestLayout, Shape.Reads, admissionRequestOf, workloadOf]
  appends scalars services tlv value := by
    have helement : decodeServiceRequest tlv = serviceRequestElement tlv.value := rfl
    by_cases hroom : services.length < maxServices
    · simp [appendServiceRequest, admissionRequestOf, helement, hroom, not_le.mpr hroom,
        map_eq_ok_iff]
    · simp [appendServiceRequest, admissionRequestOf, hroom, not_lt.mp hroom, throw_bind]

/-- The contents of a payload with containers of one kind, as the native decoders read them. -/
def Carries {β : Type} (container : Field) (element : List UInt8 → Except Status β)
    (payload : List UInt8) (scalars : Scalars) (items : List β) : Prop :=
  ∃ collected, collect payload [container] = .ok collected ∧ collected.scalar = scalars ∧
    Decodes element (collected.groups container) items

/-- The values of an admission request within its bounds have room in it. -/
lemma QsgpReserveRequest.Sendable.allFitting {request : QsgpReserveRequest}
    (h : request.Sendable) : AllFitting admissionRequestLayout request.scalars := by
  intro field value hvalue
  cases field
  case clusterName => exact Option.some.inj hvalue ▸ fitting_text rfl h.clusterName
  all_goals
    simp only [QsgpReserveRequest.scalars, present_eq_some_iff, Option.some.injEq,
      reduceCtorEq] at hvalue
  case requestId => exact hvalue ▸ fitting_u64 rfl _
  case canonicalJobId => exact hvalue ▸ fitting_u64 rfl _
  case jobUid => exact hvalue ▸ fitting_u32 rfl _
  case jobGid => exact hvalue ▸ fitting_u32 rfl _
  case heteroComponent => exact hvalue.2 ▸ fitting_u32 rfl _
  case workloadKind => exact hvalue.2 ▸ fitting_u32 rfl _
  case maxQubits => exact hvalue.2 ▸ fitting_u32 rfl _
  all_goals exact hvalue.2 ▸ fitting_u64 rfl _

/-- An admission request within its bounds is filled in with its values. -/
lemma QsgpReserveRequest.Sendable.admissionRequestOf_scalars {request : QsgpReserveRequest}
    (h : request.Sendable) :
    { admissionRequestOf request.scalars request.serviceIds with hasWorkload := true } =
      request.normalize := by
  have hwork := h.workload
  have hkind : request.workload.kind < 2 ^ 32 := by
    have := hwork.kind.2
    omega
  have hhas := h.hasWorkload
  simp only [admissionRequestOf, workloadOf, QsgpReserveRequest.scalars, h.hasWorkload,
    Bool.true_and, present_true, isSome_present, number_some, chars_some,
    number_u64 h.requestId.2, number_u64 h.canonicalJobId.2, number_u32 h.jobUid,
    number_u32 h.jobGid, number_present_u64 h.heteroJobId, number_present_u32 h.heteroComponent,
    number_u32 hkind, number_u64 hwork.walltimeNs.2, number_u64 hwork.circuitCount.2,
    number_u32 hwork.maxQubits.2, number_u64 hwork.maxDepth.2, number_u64 hwork.maxShots.2,
    number_present_u64 hwork.maxOneQGates, number_present_u64 hwork.maxTwoQGates,
    number_present_u64 hwork.maxMeasurements]
  simp only [QsgpReserveRequest.normalize, QsgpWorkload.normalize, h.hasWorkload, kept_true]

lemma QsgpWorkload.invalid_eq_false_iff {workload : QsgpWorkload} :
    workload.invalid = false ↔ (1 ≤ workload.kind ∧ workload.kind ≤ 2) ∧
      workload.walltimeNs ≠ 0 ∧ workload.circuitCount ≠ 0 ∧ workload.maxQubits ≠ 0 ∧
        workload.maxDepth ≠ 0 ∧ workload.maxShots ≠ 0 := by
  simp only [QsgpWorkload.invalid, decide_eq_false_iff_not]
  omega

/-- The checks after the loop pass a request with a workload when its set of services is valid, its
numbers are not zero and every field it must have was seen. -/
lemma finishAdmissionRequest_eq_ok_iff {present : Field → Bool}
    {filled request : QsgpReserveRequest} :
    (finishAdmissionRequest present filled = .ok request ∧ request.hasWorkload = true) ↔
      request = { filled with hasWorkload := true } ∧
        (∀ field ∈ ([.requestId, .clusterName, .canonicalJobId, .jobUid, .jobGid] : List Field) ++
          workloadFields, present field = true) ∧
        request.hasHeteroJobId = request.hasHeteroComponent ∧ request.serviceIds.Nodup ∧
        request.requestId ≠ 0 ∧ request.canonicalJobId ≠ 0 ∧ 0 < request.serviceIds.length ∧
        request.workload.invalid = false := by
  have hcomplete : (workloadComplete present = true ∧ present .workloadKind = true) ↔
      ∀ field ∈ workloadFields, present field = true := by
    simp only [workloadComplete, workloadFields, List.forall_mem_cons, List.not_mem_nil,
      false_implies, implies_true, decide_eq_true_eq]
    cases present .workloadKind <;> simp [and_assoc]
  rw [List.forall_mem_append, ← hcomplete]
  simp only [List.forall_mem_cons, List.not_mem_nil, false_implies, implies_true, and_true]
  constructor
  · rintro ⟨h, hworkload⟩
    simp only [finishAdmissionRequest] at h
    split_ifs at h with hpresent htogether hdistinct hrest
    obtain rfl := Except.ok.inj h
    simp only [not_or, not_not, not_and] at hpresent htogether hrest hdistinct
    simp only at hworkload
    obtain ⟨hid, hcluster, hcanonical, huid, hgid, hnonzero, hnonzero', hcount, hbounds⟩ := hrest
    exact ⟨by rw [hworkload], ⟨⟨hid, hcluster, hcanonical, huid, hgid⟩, hpresent, hworkload⟩,
      htogether, hdistinct, hnonzero, hnonzero', Nat.pos_of_ne_zero hcount,
      Bool.eq_false_of_not_eq_true (hbounds hworkload)⟩
  · rintro ⟨rfl, ⟨⟨hid, hcluster, hcanonical, huid, hgid⟩, hpresent, hworkload⟩, htogether,
      hdistinct, hnonzero, hnonzero', hcount, hbounds⟩
    simp only at htogether hdistinct hnonzero hnonzero' hcount hbounds
    refine ⟨?_, rfl⟩
    simp [finishAdmissionRequest, hpresent, htogether, hdistinct, hid, hcluster, hcanonical, huid,
      hgid, hnonzero, hnonzero', hcount.ne', hbounds, hworkload]

/-- The values of an admission request with a workload are those of the request filled in with
them. -/
lemma AllFitting.admissionRequest {scalars : Scalars} {serviceIds : List (List UInt8)}
    (h : AllFitting admissionRequestLayout scalars)
    (hpresent : ∀ field ∈ [.requestId, .clusterName, .canonicalJobId, .jobUid, .jobGid] ++
      workloadFields, (scalars field).isSome) :
    scalars = QsgpReserveRequest.scalars
      { admissionRequestOf scalars serviceIds with hasWorkload := true } := by
  funext field
  by_cases hrequired : field ∈ [.requestId, .clusterName, .canonicalJobId, .jobUid, .jobGid] ++
    workloadFields
  · have hsome := hpresent field hrequired
    cases field
    case clusterName => exact (h.text_of_present rfl hsome).2
    case jobUid => exact (h.u32_of_present rfl hsome).2
    case jobGid => exact (h.u32_of_present rfl hsome).2
    case workloadKind => exact (h.u32_of_present rfl hsome).2
    case maxQubits => exact (h.u32_of_present rfl hsome).2
    all_goals first
      | exact absurd hrequired (by decide)
      | exact (h.u64_of_present rfl hsome).2
  · cases field
    case heteroComponent => exact (h.u32 rfl).2
    all_goals first
      | exact absurd (by decide) hrequired
      | exact h.absent rfl
      | exact (h.u64 rfl).2

/-- The native decoder of admission requests returns, among the requests with a workload, those
within their bounds whose contents the frame has. -/
lemma decodeAdmissionRequest_eq_ok_iff {data : List UInt8} {messageType : MessageType}
    {header : QsgpHeader} {request : QsgpReserveRequest} :
    (decodeAdmissionRequest data messageType = .ok (header, request) ∧
      request.hasWorkload = true) ↔
      ∃ correlationId payload, Framed messageType correlationId payload data ∧
        header = .read messageType correlationId payload ∧ request.Sendable ∧
          request.normalize = request ∧
          Carries .serviceRequest serviceRequestElement payload request.scalars
            request.serviceIds := by
  refine (and_congr_left' (fillsMessage_admissionRequest.decode_iff fun header present request => do
    let request ← finishAdmissionRequest present request
    return (header, request))).trans ?_
  constructor
  · rintro ⟨⟨correlationId, payload, collected, serviceIds, hframed, hcollect, hfitting, hservices,
      hcheck⟩, hworkload⟩
    obtain ⟨finished, hfinish, hresult⟩ := bind_eq_ok_iff.mp hcheck
    obtain ⟨rfl, rfl⟩ := Prod.mk.inj (Except.ok.inj hresult)
    obtain ⟨rfl, hpresent, htogether, hdistinct, hnonzero, hnonzero', hcount, hbounds⟩ :=
      finishAdmissionRequest_eq_ok_iff.mp ⟨hfinish, hworkload⟩
    obtain ⟨hkind, hwalltime, hcircuits, hqubits, hdepth, hshots⟩ :=
      QsgpWorkload.invalid_eq_false_iff.mp hbounds
    have hwide {field : Field} (hfield : admissionRequestLayout field = some .u64)
        (hne : number (collected.scalar field) ≠ 0) :
        NonzeroWidth 64 (number (collected.scalar field)) :=
      ⟨Nat.pos_of_ne_zero hne, (hfitting.u64 hfield).1⟩
    refine ⟨correlationId, payload, hframed, rfl, ?_, ?_, collected, hcollect,
      hfitting.admissionRequest hpresent, hservices⟩
    · exact {
        requestId := hwide rfl hnonzero
        clusterName := (hfitting.text_of_present rfl (hpresent .clusterName (by decide))).1
        canonicalJobId := hwide rfl hnonzero'
        together := htogether
        heteroJobId := fun _ => (hfitting.u64 rfl).1
        heteroComponent := fun _ => (hfitting.u32 rfl).1
        jobUid := (hfitting.u32 rfl).1
        jobGid := (hfitting.u32 rfl).1
        hasWorkload := rfl
        workload := {
          kind := hkind
          walltimeNs := hwide rfl hwalltime
          circuitCount := hwide rfl hcircuits
          maxQubits := ⟨Nat.pos_of_ne_zero hqubits, (hfitting.u32 rfl).1⟩
          maxDepth := hwide rfl hdepth
          maxShots := hwide rfl hshots
          maxOneQGates := fun _ => (hfitting.u64 rfl).1
          maxTwoQGates := fun _ => (hfitting.u64 rfl).1
          maxMeasurements := fun _ => (hfitting.u64 rfl).1 }
        count := ⟨hcount, hservices.count⟩
        distinct := hdistinct
        services := fun serviceId hmem => by
          obtain ⟨bytes, helement⟩ := hservices.exists_value hmem
          exact (serviceRequestElement_eq_ok_iff.mp helement).1 }
    · simp only [QsgpReserveRequest.normalize, QsgpWorkload.normalize, admissionRequestOf,
        workloadOf, kept_true, kept_number]
  · rintro ⟨correlationId, payload, hframed, rfl, h, hnormal, collected, hcollect, hscalar,
      hservices⟩
    refine ⟨⟨correlationId, payload, collected, request.serviceIds, hframed, hcollect,
      hscalar ▸ h.allFitting, hservices, ?_⟩, h.hasWorkload⟩
    refine bind_eq_ok_iff.mpr ⟨request, ?_, rfl⟩
    refine (finishAdmissionRequest_eq_ok_iff.mpr ?_).1
    rw [hscalar]
    refine ⟨(h.admissionRequestOf_scalars.trans hnormal).symm, ?_, h.together, h.distinct,
      h.requestId.1.ne', h.canonicalJobId.1.ne', h.count.1, ?_⟩
    · intro field hfield
      cases field
      all_goals first
        | exact absurd hfield (by decide)
        | simp only [QsgpReserveRequest.scalars, h.hasWorkload, present_true, Option.isSome_some]
    · have hwork := h.workload
      exact QsgpWorkload.invalid_eq_false_iff.mpr ⟨hwork.kind, hwork.walltimeNs.1.ne',
        hwork.circuitCount.1.ne', hwork.maxQubits.1.ne', hwork.maxDepth.1.ne',
        hwork.maxShots.1.ne'⟩

/-- A decoder that insists on a workload. -/
lemma requires_workload_iff {data : List UInt8} {messageType : MessageType} {header : QsgpHeader}
    {request : QsgpReserveRequest} :
    (do
      let (header, request) ← decodeAdmissionRequest data messageType
      if ¬ request.hasWorkload then throw Status.invalid
      return (header, request)) = .ok (header, request) ↔
      decodeAdmissionRequest data messageType = .ok (header, request) ∧
        request.hasWorkload = true := by
  rw [bind_eq_ok_iff]
  constructor
  · rintro ⟨⟨header', request'⟩, hdecode, hcheck⟩
    by_cases hworkload : request'.hasWorkload = true
    · simp only [hworkload, not_true_eq_false, if_false] at hcheck
      obtain ⟨rfl, rfl⟩ := Prod.mk.inj (Except.ok.inj hcheck)
      exact ⟨hdecode, hworkload⟩
    · simp only [hworkload] at hcheck
      exact (nomatch hcheck)
  · rintro ⟨hdecode, hworkload⟩
    refine ⟨_, hdecode, ?_⟩
    simp only [hworkload, not_true_eq_false, if_false]
    rfl

/-- The native decoder of reserve requests returns the requests within their bounds whose contents
the frame has. -/
theorem qsgpDecodeReserveRequest_eq_ok_iff {data : List UInt8} {header : QsgpHeader}
    {request : QsgpReserveRequest} :
    qsgpDecodeReserveRequest data = .ok (header, request) ↔
      ∃ correlationId payload, Framed .reserveRequest correlationId payload data ∧
        header = .read .reserveRequest correlationId payload ∧ request.Sendable ∧
          request.normalize = request ∧
          Carries .serviceRequest serviceRequestElement payload request.scalars
            request.serviceIds :=
  requires_workload_iff.trans decodeAdmissionRequest_eq_ok_iff

/-- The native decoder of evaluate requests returns the requests within their bounds whose contents
the frame has. -/
theorem qsgpDecodeEvaluateRequest_eq_ok_iff {data : List UInt8} {header : QsgpHeader}
    {request : QsgpReserveRequest} :
    qsgpDecodeEvaluateRequest data = .ok (header, request) ↔
      ∃ correlationId payload, Framed .evaluateRequest correlationId payload data ∧
        header = .read .evaluateRequest correlationId payload ∧ request.Sendable ∧
          request.normalize = request ∧
          Carries .serviceRequest serviceRequestElement payload request.scalars
            request.serviceIds :=
  requires_workload_iff.trans decodeAdmissionRequest_eq_ok_iff

end QfwSlurm.Native
