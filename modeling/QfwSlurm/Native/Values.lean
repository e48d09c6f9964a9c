import QfwSlurm.Native.RoundTrip
import QfwSlurm.Protocol.RoundTrip

/-!
# Values on both sides of the wire

The gateway and the native client represent a message by different types: Python integers, texts
and optional fields on one side, numbers of fixed width, bytes and presence flags on the other.
`native` is the C value of a Python value.  Both have the same contents on the wire
(`scalars_native`), and the value is within the bounds of its fields on one side when it is on the
other.
-/

namespace QfwSlurm

open Wire Native

/-! ### Requests -/

/-- The C value of a number that may be absent, which is zero if it is. -/
def nativeNumber (value : Option ℤ) : ℕ := (value.getD 0).toNat

/-- The C value of a text that may be absent, which is empty if it is. -/
def nativeText (value : Option String) : List UInt8 := (value.map utf8).getD []

def Workload.native (workload : Workload) : QsgpWorkload where
  kind := workload.kind.code.toNat
  walltimeNs := workload.walltimeNs.toNat
  circuitCount := workload.circuitCount.toNat
  maxQubits := workload.maxQubits.toNat
  maxDepth := workload.maxDepth.toNat
  maxShots := workload.maxShots.toNat
  maxOneQGates := nativeNumber workload.maxOneQGates
  maxTwoQGates := nativeNumber workload.maxTwoQGates
  maxMeasurements := nativeNumber workload.maxMeasurements
  hasMaxOneQGates := workload.maxOneQGates.isSome
  hasMaxTwoQGates := workload.maxTwoQGates.isSome
  hasMaxMeasurements := workload.maxMeasurements.isSome

def ReserveRequest.native (request : ReserveRequest) : QsgpReserveRequest where
  requestId := request.requestId.toNat
  clusterName := utf8 request.clusterName
  canonicalJobId := request.canonicalJobId.toNat
  heteroJobId := nativeNumber request.heteroJobId
  heteroComponent := nativeNumber request.heteroComponent
  hasHeteroJobId := request.heteroJobId.isSome
  hasHeteroComponent := request.heteroComponent.isSome
  jobUid := request.jobUid.toNat
  jobGid := request.jobGid.toNat
  workload := (request.workload.map Workload.native).getD {}
  hasWorkload := request.workload.isSome
  serviceIds := request.serviceIds.map utf8

def ReleaseRequest.native (request : ReleaseRequest) : QsgpReleaseRequest where
  requestId := request.requestId.toNat
  clusterName := utf8 request.clusterName
  canonicalJobId := request.canonicalJobId.toNat
  reason := request.reason.toNat

def GetReservationsRequest.native (request : GetReservationsRequest) :
    QsgpGetReservationsRequest where
  requestId := request.requestId.toNat
  clusterName := utf8 request.clusterName
  observedJobId := request.observedJobId.toNat
  jobUid := request.jobUid.toNat
  jobGid := request.jobGid.toNat

lemma Positive.native {bits : ℕ} {value : ℤ} (h : Positive bits value) :
    NonzeroWidth bits value.toNat := by
  obtain ⟨hlow, hhigh⟩ := h
  exact ⟨by omega, by zify; rwa [Int.toNat_of_nonneg hlow.le]⟩

lemma InWidth.native {bits : ℕ} {value : ℤ} (h : InWidth bits value) :
    value.toNat < 2 ^ bits := by
  obtain ⟨hlow, hhigh⟩ := h
  zify
  rwa [Int.toNat_of_nonneg hlow]

lemma InWidth.native_of_mem {bits : ℕ} {value : Option ℤ}
    (h : ∀ number ∈ value, InWidth bits number) :
    value.isSome = true → nativeNumber value < 2 ^ bits := by
  intro hsome
  obtain ⟨number, rfl⟩ := Option.isSome_iff_exists.mp hsome
  exact (h number rfl).native

lemma TextFits.native {value : String} {maximum : ℕ} (h : TextFits value maximum) :
    CharsFit (utf8 value) maximum :=
  ⟨fun hnil => h.nonempty (utf8_eq_nil_iff.mp hnil), h.bounded, h.plain⟩

lemma TextFits.native_of_mem {value : Option String} {maximum : ℕ}
    (h : ∀ text ∈ value, TextFits text maximum) :
    value.isSome = true → CharsFit (nativeText value) maximum := by
  intro hsome
  obtain ⟨text, rfl⟩ := Option.isSome_iff_exists.mp hsome
  exact (h text rfl).native

lemma Workload.Sendable.native {workload : Workload} (h : workload.Sendable) :
    workload.native.Sendable where
  kind := by
    have := workload.kind.code_bounds
    simp only [Workload.native]
    omega
  walltimeNs := h.walltimeNs.native
  circuitCount := h.circuitCount.native
  maxQubits := h.maxQubits.native
  maxDepth := h.maxDepth.native
  maxShots := h.maxShots.native
  maxOneQGates := InWidth.native_of_mem h.maxOneQGates
  maxTwoQGates := InWidth.native_of_mem h.maxTwoQGates
  maxMeasurements := InWidth.native_of_mem h.maxMeasurements

/-- The C value of an admission request with a workload is within its bounds when the request is. -/
lemma ReserveRequest.Sendable.native {request : ReserveRequest} (h : request.Sendable)
    (hworkload : request.workload.isSome = true) : request.native.Sendable where
  requestId := h.requestId.native
  clusterName := h.clusterName.native
  canonicalJobId := h.canonicalJobId.native
  together := h.together
  heteroJobId := InWidth.native_of_mem fun value hvalue => (h.heteroJobId value hvalue).inWidth
  heteroComponent := InWidth.native_of_mem h.heteroComponent
  jobUid := h.jobUid.native
  jobGid := h.jobGid.native
  hasWorkload := hworkload
  workload := by
    obtain ⟨workload, hsome⟩ := Option.isSome_iff_exists.mp hworkload
    simp only [ReserveRequest.native, hsome, Option.map_some, Option.getD_some]
    exact (h.workload workload hsome).native
  count := by simpa [ReserveRequest.native] using h.count
  distinct := h.distinct.map utf8_injective
  services := by
    intro serviceId hmem
    obtain ⟨text, htext, rfl⟩ := List.mem_map.mp hmem
    exact (h.services text htext).native

lemma ReleaseRequest.Sendable.native {request : ReleaseRequest} (h : request.Sendable) :
    request.native.Sendable where
  requestId := h.requestId.native
  clusterName := h.clusterName.native
  canonicalJobId := h.canonicalJobId.native
  reason := h.reason.native

lemma GetReservationsRequest.Sendable.native {request : GetReservationsRequest}
    (h : request.Sendable) : request.native.Sendable where
  requestId := h.requestId.native
  clusterName := h.clusterName.native
  observedJobId := h.observedJobId.native
  jobUid := h.jobUid.native
  jobGid := h.jobGid.native

@[simp] lemma present_native_u64 (value : Option ℤ) :
    present value.isSome (bigEndian 8 (nativeNumber value)) = value.map (bigEndian 8 ·.toNat) := by
  cases value <;> rfl

@[simp] lemma present_native_u32 (value : Option ℤ) :
    present value.isSome (bigEndian 4 (nativeNumber value)) = value.map (bigEndian 4 ·.toNat) := by
  cases value <;> rfl

@[simp] lemma present_native_text (value : Option String) :
    present value.isSome (nativeText value) = value.map utf8 := by
  cases value <;> rfl

/-- An admission request and its C value have the same scalar fields. -/
lemma ReserveRequest.scalars_native (request : ReserveRequest) :
    request.native.scalars = request.scalars := by
  funext field
  cases hworkload : request.workload <;> cases field <;>
    simp [QsgpReserveRequest.scalars, ReserveRequest.scalars, ReserveRequest.native, hworkload,
      Workload.native, Workload.scalars]

lemma ReleaseRequest.scalars_native (request : ReleaseRequest) :
    request.native.scalars = request.scalars := by
  funext field
  cases field <;> rfl

lemma GetReservationsRequest.scalars_native (request : GetReservationsRequest) :
    request.native.scalars = request.scalars := by
  funext field
  cases field <;> rfl

@[simp] lemma kept_nativeNumber (value : Option ℤ) :
    kept 0 value.isSome (nativeNumber value) = nativeNumber value := by
  cases value <;> rfl

@[simp] lemma kept_nativeText (value : Option String) :
    kept [] value.isSome (nativeText value) = nativeText value := by
  cases value <;> rfl

@[simp] lemma Workload.normalize_native (workload : Workload) :
    workload.native.normalize = workload.native := by
  simp [QsgpWorkload.normalize, Workload.native]

/-- The C value has zeros for absent fields, as the decoders leave them. -/
@[simp] lemma ReserveRequest.normalize_native (request : ReserveRequest) :
    request.native.normalize = request.native := by
  cases hworkload : request.workload <;>
    simp [QsgpReserveRequest.normalize, ReserveRequest.native, hworkload]

/-! ### Responses -/

def ServiceResult.native (result : ServiceResult) : QsgpServiceResult where
  serviceId := utf8 result.serviceId
  decision := result.decision.code.toNat
  reservationId := nativeNumber result.reservationId
  reasonCode := result.reasonCode.toNat
  retryAfterNs := nativeNumber result.retryAfterNs
  estimatedStartNs := nativeNumber result.estimatedStartNs
  estimatedFinishNs := nativeNumber result.estimatedFinishNs
  qpmRuntimeId := nativeText result.qpmRuntimeId
  qpmGeneration := nativeNumber result.qpmGeneration
  diagnostic := nativeText result.diagnostic
  hasReservationId := result.reservationId.isSome
  hasRetryAfterNs := result.retryAfterNs.isSome
  hasEstimatedStartNs := result.estimatedStartNs.isSome
  hasEstimatedFinishNs := result.estimatedFinishNs.isSome
  hasRuntimeId := result.qpmRuntimeId.isSome
  hasGeneration := result.qpmGeneration.isSome
  hasDiagnostic := result.diagnostic.isSome

def ReserveResponse.native (response : ReserveResponse) : QsgpReserveResponse where
  requestId := response.requestId.toNat
  decision := response.decision.code.toNat
  results := response.results.map ServiceResult.native

def Reservation.native (reservation : Reservation) : QsgpReservation where
  serviceId := utf8 reservation.serviceId
  reservationId := reservation.reservationId.toNat

def GetReservationsResponse.native (response : GetReservationsResponse) :
    QsgpGetReservationsResponse where
  requestId := response.requestId.toNat
  canonicalJobId := response.canonicalJobId.toNat
  reservations := response.reservations.map Reservation.native

def ErrorResponse.native (response : ErrorResponse) : QsgpErrorResponse where
  requestId := nativeNumber response.requestId
  hasRequestId := response.requestId.isSome
  errorCode := response.errorCode.code.toNat
  diagnostic := nativeText response.diagnostic
  hasDiagnostic := response.diagnostic.isSome

/-- A decision and its code are accepted, delayed or rejected together. -/
lemma AdmissionDecision.native_eq_iff (decision : AdmissionDecision) :
    (decision.code.toNat = admissionAccepted ↔ decision = .accepted) ∧
      (decision.code.toNat = admissionDelayed ↔ decision = .delayed) ∧
      (decision.code.toNat = admissionRejected ↔ decision = .rejected) := by
  cases decision <;> decide

lemma AdmissionDecision.native_bounds (decision : AdmissionDecision) :
    admissionAccepted ≤ decision.code.toNat ∧ decision.code.toNat ≤ admissionRejected := by
  cases decision <;> decide

lemma ServiceResult.Sendable.native {reserve : Bool} {result : ServiceResult}
    (h : result.Sendable reserve) : result.native.Sendable reserve where
  serviceId := h.serviceId.native
  decision := result.decision.native_bounds
  granted := by
    rw [show result.native.decision = result.decision.code.toNat from rfl,
      result.decision.native_eq_iff.1]
    exact h.granted
  reservationId := by
    intro hsome
    obtain ⟨number, hnumber⟩ := Option.isSome_iff_exists.mp hsome
    simp only [ServiceResult.native, nativeNumber, hnumber, Option.getD_some]
    exact (h.reservationId number hnumber).native
  reasonCode := h.reasonCode.native
  retryAfterNs := InWidth.native_of_mem h.retryAfterNs
  estimatedStartNs := InWidth.native_of_mem h.estimatedStartNs
  estimatedFinishNs := InWidth.native_of_mem h.estimatedFinishNs
  qpmRuntimeId := TextFits.native_of_mem h.qpmRuntimeId
  qpmGeneration := InWidth.native_of_mem h.qpmGeneration
  diagnostic := TextFits.native_of_mem h.diagnostic

/-- The decision of a response agrees with its results on both sides. -/
lemma Agrees.native {decision : AdmissionDecision} {results : List ServiceResult}
    (h : Agrees decision (results.map ServiceResult.decision)) :
    DecisionAgrees decision.code.toNat (results.map ServiceResult.native) := by
  have hcode (result : ServiceResult) := result.decision.native_eq_iff
  refine ⟨fun haccepted => ?_, fun hrejected => ?_, fun hdelayed => ?_⟩
  · obtain rfl := decision.native_eq_iff.1.mp haccepted
    intro result hmem
    obtain ⟨original, horiginal, rfl⟩ := List.mem_map.mp hmem
    exact (hcode original).1.mpr (h _ (List.mem_map_of_mem horiginal))
  · obtain rfl := decision.native_eq_iff.2.2.mp hrejected
    obtain ⟨original, horiginal, hdecision⟩ := List.mem_map.mp h
    exact ⟨_, List.mem_map_of_mem horiginal, (hcode original).2.2.mpr hdecision⟩
  · obtain rfl := decision.native_eq_iff.2.1.mp hdelayed
    obtain ⟨⟨original, horiginal, hdecision⟩, hnone⟩ :=
      And.imp_left List.mem_map.mp h
    refine ⟨⟨_, List.mem_map_of_mem horiginal, (hcode original).2.1.mpr hdecision⟩, ?_⟩
    intro result hmem hrejected
    obtain ⟨other, hother, rfl⟩ := List.mem_map.mp hmem
    refine hnone (List.mem_map.mpr ⟨other, hother, ?_⟩)
    exact (hcode other).2.2.mp hrejected

/-- Distinct texts have distinct bytes. -/
lemma nodup_native {α : Type} {values : List α} {name : α → String} {name' : α → List UInt8}
    (hname : ∀ value, name' value = utf8 (name value)) (h : (values.map name).Nodup) :
    (values.map name').Nodup := by
  have hmap : values.map name' = (values.map name).map utf8 := by
    rw [List.map_map]
    exact List.map_congr_left fun value _ => hname value
  rw [hmap]
  exact h.map utf8_injective

lemma ReserveResponse.Sendable.native {reserve : Bool} {response : ReserveResponse}
    (h : response.Sendable reserve) : response.native.Sendable reserve where
  requestId := h.requestId.native
  decision := response.decision.native_bounds
  count := by simpa [ReserveResponse.native] using h.count
  distinct := by
    rw [ReserveResponse.native, List.map_map]
    exact nodup_native (fun _ => rfl) h.distinct
  results := by
    intro result hmem
    obtain ⟨original, horiginal, rfl⟩ := List.mem_map.mp hmem
    exact (h.results original horiginal).native
  agrees := h.agrees.native

lemma Reservation.Sendable.native {reservation : Reservation} (h : reservation.Sendable) :
    reservation.native.Sendable :=
  ⟨h.serviceId.native, h.reservationId.native⟩

lemma GetReservationsResponse.Sendable.native {response : GetReservationsResponse}
    (h : response.Sendable) : response.native.Sendable where
  requestId := h.requestId.native
  canonicalJobId := h.canonicalJobId.native
  count := by simpa [GetReservationsResponse.native] using h.count
  distinct := by
    rw [GetReservationsResponse.native, List.map_map]
    exact nodup_native (fun _ => rfl) h.distinct
  reservations := by
    intro reservation hmem
    obtain ⟨original, horiginal, rfl⟩ := List.mem_map.mp hmem
    exact (h.reservations original horiginal).native

lemma ErrorResponse.Sendable.native {response : ErrorResponse} (h : response.Sendable) :
    response.native.Sendable where
  requestId := InWidth.native_of_mem h.requestId
  errorCode := by
    have := response.errorCode.code_bounds
    simp only [ErrorResponse.native]
    exact ⟨by omega, by omega⟩
  diagnostic := TextFits.native_of_mem h.diagnostic

lemma ServiceResult.scalars_native (result : ServiceResult) :
    result.native.scalars = result.scalars := by
  funext field
  cases field <;>
    simp [QsgpServiceResult.scalars, ServiceResult.scalars, ServiceResult.native]

lemma ReserveResponse.scalars_native (response : ReserveResponse) :
    response.native.scalars = response.scalars := by
  funext field
  cases field <;> rfl

lemma Reservation.scalars_native (reservation : Reservation) :
    reservation.native.scalars = reservation.scalars := by
  funext field
  cases field <;> rfl

lemma GetReservationsResponse.scalars_native (response : GetReservationsResponse) :
    response.native.scalars = response.scalars := by
  funext field
  cases field <;> rfl

lemma ErrorResponse.scalars_native (response : ErrorResponse) :
    response.native.scalars = response.scalars := by
  funext field
  cases field <;>
    simp [QsgpErrorResponse.scalars, ErrorResponse.scalars, ErrorResponse.native]

@[simp] lemma ServiceResult.normalize_native (result : ServiceResult) :
    result.native.normalize = result.native := by
  simp [QsgpServiceResult.normalize, ServiceResult.native]

@[simp] lemma ReserveResponse.normalize_native (response : ReserveResponse) :
    response.native.normalize = response.native := by
  simp [QsgpReserveResponse.normalize, ReserveResponse.native]

@[simp] lemma ErrorResponse.normalize_native (response : ErrorResponse) :
    response.native.normalize = response.native := by
  simp [QsgpErrorResponse.normalize, ErrorResponse.native]

end QfwSlurm
