import QfwSlurm.Native.Answers

/-!
# The encoders of requests are interchangeable

A C request whose texts are UTF-8 and whose workload kind is a member of the enumeration has a
Python counterpart.  The encoders of `src/protocol/qsgp_encode.c` and of
`gateway/qfw_slurm_gateway/protocol.py` refuse the same requests and write the same bytes for the
others (`request_encoders_agree`), so that the gateway reads exactly the request that the client
wrote.
-/

namespace QfwSlurm

open Wire Native

/-! ### The Python value of a C value -/

/-- A field that is there if `has` says so. -/
def optionally (has : Bool) (value : ℕ) : Option ℤ := if has then some (value : ℤ) else none

end QfwSlurm

namespace QfwSlurm.Native

open Wire

/-- The Python value of a workload, `none` where `WorkloadKind(kind)` raises `ValueError`. -/
def QsgpWorkload.counterpart (workload : QsgpWorkload) : Option Workload := do
  let kind ← (workloadKindOf workload.kind).toOption
  return {
    kind := kind
    walltimeNs := workload.walltimeNs
    circuitCount := workload.circuitCount
    maxQubits := workload.maxQubits
    maxDepth := workload.maxDepth
    maxShots := workload.maxShots
    maxOneQGates := optionally workload.hasMaxOneQGates workload.maxOneQGates
    maxTwoQGates := optionally workload.hasMaxTwoQGates workload.maxTwoQGates
    maxMeasurements := optionally workload.hasMaxMeasurements workload.maxMeasurements }

/-- The Python value of the workload of a request, if it has one. -/
def QsgpReserveRequest.envelope (request : QsgpReserveRequest) : Option (Option Workload) :=
  if request.hasWorkload then request.workload.counterpart.map some else some none

/-- The Python value of an admission request. -/
def QsgpReserveRequest.counterpart (request : QsgpReserveRequest) : Option ReserveRequest := do
  let clusterName ← decodeUtf8 request.clusterName
  let workload ← request.envelope
  let serviceIds ← request.serviceIds.mapM decodeUtf8
  return {
    requestId := request.requestId
    clusterName := clusterName
    canonicalJobId := request.canonicalJobId
    jobUid := request.jobUid
    jobGid := request.jobGid
    workload := workload
    serviceIds := serviceIds
    heteroJobId := optionally request.hasHeteroJobId request.heteroJobId
    heteroComponent := optionally request.hasHeteroComponent request.heteroComponent }

/-- The Python value of a release request. -/
def QsgpReleaseRequest.counterpart (request : QsgpReleaseRequest) : Option ReleaseRequest := do
  let clusterName ← decodeUtf8 request.clusterName
  return ⟨request.requestId, clusterName, request.canonicalJobId, request.reason⟩

/-- The Python value of a get-reservations request. -/
def QsgpGetReservationsRequest.counterpart (request : QsgpGetReservationsRequest) :
    Option GetReservationsRequest := do
  let clusterName ← decodeUtf8 request.clusterName
  return ⟨request.requestId, clusterName, request.observedJobId, request.jobUid, request.jobGid⟩

end QfwSlurm.Native

namespace QfwSlurm

open Wire Native

/-- Bytes that are a text. -/
def Textual (value : List UInt8) : Prop := (decodeUtf8 value).isSome = true

lemma Textual.exists_text {value : List UInt8} (h : Textual value) :
    ∃ text, decodeUtf8 value = some text :=
  Option.isSome_iff_exists.mp h

/-- A list of bytes is decoded to the texts that are encoded as these bytes. -/
lemma mapM_decodeUtf8_eq_some_iff {values : List (List UInt8)} {texts : List String} :
    values.mapM decodeUtf8 = some texts ↔ texts.map utf8 = values := by
  induction values generalizing texts with
  | nil => simp [eq_comm]
  | cons value values ih =>
    simp only [List.mapM_cons, Option.bind_eq_bind, Option.bind_eq_some_iff, decodeUtf8_eq_some_iff,
      Option.pure_def, Option.some.injEq, ih]
    constructor
    · rintro ⟨text, rfl, texts', rfl, rfl⟩
      rfl
    · intro h
      obtain ⟨text, texts', rfl, rfl, rfl⟩ := List.map_eq_cons_iff.mp h
      exact ⟨text, rfl, texts', rfl, rfl⟩

lemma exists_texts {values : List (List UInt8)} (h : ∀ value ∈ values, Textual value) :
    ∃ texts, values.mapM decodeUtf8 = some texts := by
  induction values with
  | nil => exact ⟨[], rfl⟩
  | cons value values ih =>
    obtain ⟨text, htext⟩ := (h value List.mem_cons_self).exists_text
    obtain ⟨texts, htexts⟩ := ih fun other hother => h other (List.mem_cons_of_mem _ hother)
    exact ⟨text :: texts, by simp [List.mapM_cons, htext, htexts]⟩

lemma textFits_iff {text : String} {maximum : ℕ} :
    TextFits text maximum ↔ CharsFit (utf8 text) maximum :=
  ⟨TextFits.native, fun h => ⟨fun hempty => h.nonempty (utf8_eq_nil_iff.mpr hempty), h.bounded,
    h.plain⟩⟩

@[simp] lemma positive_natCast {bits value : ℕ} :
    Positive bits (value : ℤ) ↔ NonzeroWidth bits value := by
  rw [Positive, NonzeroWidth]
  norm_cast

@[simp] lemma inWidth_natCast {bits value : ℕ} : InWidth bits (value : ℤ) ↔ value < 2 ^ bits := by
  rw [InWidth]
  norm_cast
  simp

/-! ### Counterparts of workloads -/

@[simp] lemma isSome_optionally (has : Bool) (value : ℕ) : (optionally has value).isSome = has := by
  cases has <;> rfl

@[simp] lemma forall_mem_optionally {has : Bool} {value : ℕ} {good : ℤ → Prop} :
    (∀ number ∈ optionally has value, good number) ↔ (has = true → good value) := by
  cases has <;> simp [optionally]

@[simp] lemma nativeNumber_optionally (has : Bool) (value : ℕ) :
    nativeNumber (optionally has value) = kept 0 has value := by
  cases has <;> rfl

lemma kind_eq_some_iff {value : ℕ} {kind : WorkloadKind} :
    (workloadKindOf value).toOption = some kind ↔ kind.code.toNat = value := by
  have hbounds := kind.code_bounds
  have htoOption : (workloadKindOf value).toOption = some kind ↔
      workloadKindOf value = .ok kind := by
    cases workloadKindOf (value : ℤ) <;> simp [Except.toOption]
  rw [htoOption, workloadKindOf_eq_ok_iff]
  omega

/-- A workload of a known kind has a counterpart. -/
lemma exists_counterpart_workload {workload : QsgpWorkload}
    (h : 1 ≤ workload.kind ∧ workload.kind ≤ 2) :
    ∃ found, workload.counterpart = some found := by
  obtain ⟨kind, hkind⟩ : ∃ kind, (workloadKindOf workload.kind).toOption = some kind := by
    rcases (show workload.kind = 1 ∨ workload.kind = 2 by omega) with hone | htwo
    · exact ⟨.quantum, kind_eq_some_iff.mpr hone.symm⟩
    · exact ⟨.hybrid, kind_eq_some_iff.mpr htwo.symm⟩
  simp only [QsgpWorkload.counterpart, hkind, Option.bind_eq_bind, Option.bind_some,
    Option.pure_def]
  exact ⟨_, rfl⟩

section Workload

variable {workload : QsgpWorkload} {found : Workload}

/-- A workload and its counterpart are within their bounds together. -/
lemma sendable_workload_iff (h : workload.counterpart = some found) :
    found.Sendable ↔ workload.Sendable := by
  obtain ⟨kind, hkind, hfound⟩ := Option.bind_eq_some_iff.mp h
  obtain rfl := Option.some.inj hfound
  have hcode := kind_eq_some_iff.mp hkind
  have hbounds := kind.code_bounds
  constructor
  · rintro ⟨h₁, h₂, h₃, h₄, h₅, h₆, h₇, h₈⟩
    simp only [positive_natCast, inWidth_natCast, forall_mem_optionally] at *
    exact ⟨by omega, h₁, h₂, h₃, h₄, h₅, h₆, h₇, h₈⟩
  · rintro ⟨-, h₁, h₂, h₃, h₄, h₅, h₆, h₇, h₈⟩
    constructor <;> simp only [positive_natCast, inWidth_natCast, forall_mem_optionally] <;>
      assumption

/-- The C value of the counterpart is the workload with its absent fields zero. -/
lemma native_workload_of_counterpart (h : workload.counterpart = some found) :
    found.native = workload.normalize := by
  obtain ⟨kind, hkind, hfound⟩ := Option.bind_eq_some_iff.mp h
  obtain rfl := Option.some.inj hfound
  simp [Workload.native, QsgpWorkload.normalize, kind_eq_some_iff.mp hkind]

end Workload

/-! ### Counterparts of requests -/

section AdmissionRequest

variable {request : QsgpReserveRequest} {found : ReserveRequest}

/-- What a counterpart has in place of texts and workload. -/
lemma exists_of_counterpart (h : request.counterpart = some found) :
    ∃ clusterName workload serviceIds, utf8 clusterName = request.clusterName ∧
      request.envelope = some workload ∧ serviceIds.map utf8 = request.serviceIds ∧
      found = ⟨request.requestId, clusterName, request.canonicalJobId, request.jobUid,
        request.jobGid, workload, serviceIds,
        optionally request.hasHeteroJobId request.heteroJobId,
        optionally request.hasHeteroComponent request.heteroComponent⟩ := by
  obtain ⟨clusterName, hcluster, h⟩ := Option.bind_eq_some_iff.mp h
  obtain ⟨workload, hworkload, h⟩ := Option.bind_eq_some_iff.mp h
  obtain ⟨serviceIds, hservices, h⟩ := Option.bind_eq_some_iff.mp h
  exact ⟨clusterName, workload, serviceIds, decodeUtf8_eq_some_iff.mp hcluster, hworkload,
    mapM_decodeUtf8_eq_some_iff.mp hservices, (Option.some.inj h).symm⟩

/-- The envelope is there when the request has a workload. -/
lemma envelope_eq_some_iff {workload : Option Workload} :
    request.envelope = some workload ↔
      workload.isSome = request.hasWorkload ∧
        ∀ found ∈ workload, request.workload.counterpart = some found := by
  unfold QsgpReserveRequest.envelope
  cases request.hasWorkload <;> cases workload <;> simp [eq_comm]

/-- A request within its bounds whose texts are UTF-8 has a counterpart. -/
lemma exists_counterpart_request (h : request.Sendable) (hcluster : Textual request.clusterName)
    (hservices : ∀ serviceId ∈ request.serviceIds, Textual serviceId) :
    ∃ found, request.counterpart = some found := by
  obtain ⟨clusterName, hcluster⟩ := hcluster.exists_text
  obtain ⟨serviceIds, hservices⟩ := exists_texts hservices
  obtain ⟨workload, hworkload⟩ := exists_counterpart_workload h.workload.kind
  have henvelope : request.envelope = some (some workload) := by
    rw [QsgpReserveRequest.envelope, if_pos h.hasWorkload, hworkload]
    rfl
  refine ⟨_, Option.bind_eq_some_iff.mpr ⟨clusterName, hcluster, Option.bind_eq_some_iff.mpr
    ⟨some workload, henvelope, Option.bind_eq_some_iff.mpr ⟨serviceIds, hservices, rfl⟩⟩⟩⟩

/-- A request and its counterpart are within their bounds together, if the heterogeneous job id is
not zero. -/
lemma sendable_request_iff (h : request.counterpart = some found)
    (hhetero : request.hasHeteroJobId = true → request.heteroJobId ≠ 0) :
    (found.workload.isSome = true ∧ found.Sendable) ↔ request.Sendable := by
  obtain ⟨clusterName, workload, serviceIds, hcluster, henvelope, hservices, rfl⟩ :=
    exists_of_counterpart h
  obtain ⟨hhas, hworkload⟩ := envelope_eq_some_iff.mp henvelope
  have hnames : (∀ serviceId ∈ serviceIds, TextFits serviceId maxServiceId) ↔
      ∀ serviceId ∈ request.serviceIds, CharsFit serviceId maxServiceId := by
    simp only [← hservices, List.forall_mem_map, textFits_iff]
  have hdistinct : serviceIds.Nodup ↔ request.serviceIds.Nodup := by
    rw [← hservices, List.nodup_map_iff utf8_injective]
  have hcount : serviceIds.length = request.serviceIds.length := by
    rw [← hservices, List.length_map]
  have htext : TextFits clusterName maxClusterName ↔ CharsFit request.clusterName maxClusterName := by
    rw [textFits_iff, hcluster]
  constructor
  · rintro ⟨hsome, hsendable⟩
    obtain ⟨found, rfl⟩ := Option.isSome_iff_exists.mp hsome
    exact {
      requestId := positive_natCast.mp hsendable.requestId
      clusterName := htext.mp hsendable.clusterName
      canonicalJobId := positive_natCast.mp hsendable.canonicalJobId
      together := by simpa using hsendable.together
      heteroJobId := fun hpresent => by
        have := forall_mem_optionally.mp hsendable.heteroJobId hpresent
        exact (positive_natCast.mp this).2
      heteroComponent := fun hpresent => by
        have := forall_mem_optionally.mp hsendable.heteroComponent hpresent
        exact inWidth_natCast.mp this
      jobUid := inWidth_natCast.mp hsendable.jobUid
      jobGid := inWidth_natCast.mp hsendable.jobGid
      hasWorkload := hhas.symm
      workload := (sendable_workload_iff (hworkload found rfl)).mp
        (hsendable.workload found rfl)
      count := hcount ▸ hsendable.count
      distinct := hdistinct.mp hsendable.distinct
      services := hnames.mp hsendable.services }
  · intro hsendable
    refine ⟨hhas.trans hsendable.hasWorkload, ?_⟩
    exact {
      requestId := positive_natCast.mpr hsendable.requestId
      canonicalJobId := positive_natCast.mpr hsendable.canonicalJobId
      jobUid := inWidth_natCast.mpr hsendable.jobUid
      jobGid := inWidth_natCast.mpr hsendable.jobGid
      clusterName := htext.mpr hsendable.clusterName
      count := hcount ▸ hsendable.count
      distinct := hdistinct.mpr hsendable.distinct
      services := hnames.mpr hsendable.services
      together := by simpa using hsendable.together
      heteroJobId := forall_mem_optionally.mpr fun hpresent => positive_natCast.mpr
        ⟨Nat.pos_of_ne_zero (hhetero hpresent), hsendable.heteroJobId hpresent⟩
      heteroComponent := forall_mem_optionally.mpr fun hpresent =>
        inWidth_natCast.mpr (hsendable.heteroComponent hpresent)
      workload := fun found hfound => (sendable_workload_iff (hworkload found hfound)).mpr
        hsendable.workload }

/-- The C value of the counterpart is the request with its absent fields zero. -/
lemma native_of_counterpart (h : request.counterpart = some found) :
    found.native = request.normalize := by
  obtain ⟨clusterName, workload, serviceIds, hcluster, henvelope, hservices, rfl⟩ :=
    exists_of_counterpart h
  obtain ⟨hhas, hworkload⟩ := envelope_eq_some_iff.mp henvelope
  cases workload with
  | none =>
    simp [ReserveRequest.native, QsgpReserveRequest.normalize, hcluster, hservices, ← hhas]
  | some workload =>
    simp [ReserveRequest.native, QsgpReserveRequest.normalize, hcluster, hservices, ← hhas,
      native_workload_of_counterpart (hworkload workload rfl)]

/-- A request within its bounds and its counterpart are written alike. -/
lemma payload_of_counterpart (h : request.counterpart = some found)
    (hworkload : request.hasWorkload = true) : found.payload = request.payload := by
  have hscalars : found.scalars = request.scalars := by
    rw [← found.scalars_native, native_of_counterpart h, request.scalars_normalize hworkload]
  obtain ⟨_, _, serviceIds, -, -, hservices, rfl⟩ := exists_of_counterpart h
  rw [ReserveRequest.payload, QsgpReserveRequest.payload, hscalars, ← hservices, List.map_map]
  rfl

end AdmissionRequest

lemma exists_of_counterpart_release {request : QsgpReleaseRequest} {found : ReleaseRequest}
    (h : request.counterpart = some found) :
    ∃ clusterName, utf8 clusterName = request.clusterName ∧
      found = ⟨request.requestId, clusterName, request.canonicalJobId, request.reason⟩ := by
  obtain ⟨clusterName, hcluster, h⟩ := Option.bind_eq_some_iff.mp h
  exact ⟨clusterName, decodeUtf8_eq_some_iff.mp hcluster, (Option.some.inj h).symm⟩

lemma exists_of_counterpart_getReservations {request : QsgpGetReservationsRequest}
    {found : GetReservationsRequest} (h : request.counterpart = some found) :
    ∃ clusterName, utf8 clusterName = request.clusterName ∧
      found = ⟨request.requestId, clusterName, request.observedJobId, request.jobUid,
        request.jobGid⟩ := by
  obtain ⟨clusterName, hcluster, h⟩ := Option.bind_eq_some_iff.mp h
  exact ⟨clusterName, decodeUtf8_eq_some_iff.mp hcluster, (Option.some.inj h).symm⟩

/-- A release request is the C value of its counterpart, and within its bounds when that is. -/
lemma counterpart_release {request : QsgpReleaseRequest} {found : ReleaseRequest}
    (h : request.counterpart = some found) :
    found.native = request ∧ (found.Sendable ↔ request.Sendable) := by
  obtain ⟨clusterName, hcluster, rfl⟩ := exists_of_counterpart_release h
  refine ⟨by simp [ReleaseRequest.native, hcluster], fun hsendable => ?_, fun hsendable => ?_⟩
  · obtain ⟨h₁, h₂, h₃, h₄⟩ := hsendable
    rw [textFits_iff, hcluster] at h₂
    exact ⟨positive_natCast.mp h₁, h₂, positive_natCast.mp h₃, inWidth_natCast.mp h₄⟩
  · obtain ⟨h₁, h₂, h₃, h₄⟩ := hsendable
    rw [← hcluster, ← textFits_iff] at h₂
    exact ⟨positive_natCast.mpr h₁, h₂, positive_natCast.mpr h₃, inWidth_natCast.mpr h₄⟩

/-- A get-reservations request is the C value of its counterpart, and within its bounds when that
is. -/
lemma counterpart_getReservations {request : QsgpGetReservationsRequest}
    {found : GetReservationsRequest} (h : request.counterpart = some found) :
    found.native = request ∧ (found.Sendable ↔ request.Sendable) := by
  obtain ⟨clusterName, hcluster, rfl⟩ := exists_of_counterpart_getReservations h
  refine ⟨by simp [GetReservationsRequest.native, hcluster], fun hsendable => ?_,
    fun hsendable => ?_⟩
  · obtain ⟨h₁, h₂, h₃, h₄, h₅⟩ := hsendable
    rw [textFits_iff, hcluster] at h₂
    exact ⟨positive_natCast.mp h₁, h₂, positive_natCast.mp h₃, inWidth_natCast.mp h₄,
      inWidth_natCast.mp h₅⟩
  · obtain ⟨h₁, h₂, h₃, h₄, h₅⟩ := hsendable
    rw [← hcluster, ← textFits_iff] at h₂
    exact ⟨positive_natCast.mpr h₁, h₂, positive_natCast.mpr h₃, inWidth_natCast.mpr h₄,
      inWidth_natCast.mpr h₅⟩

/-! ### The two encoders -/

/-- The requests that the native client sends. -/
inductive NativeRequest where
  | evaluate (request : QsgpReserveRequest)
  | reserve (request : QsgpReserveRequest)
  | release (request : QsgpReleaseRequest)
  | getReservations (request : QsgpGetReservationsRequest)
  deriving DecidableEq

/-- The request as a message with an encoder and a decoder. -/
def NativeRequest.message : NativeRequest → NativeMessage
  | .evaluate request => .evaluateRequest request
  | .reserve request => .reserveRequest request
  | .release request => .releaseRequest request
  | .getReservations request => .getReservationsRequest request

/-- The Python value of a request. -/
def NativeRequest.counterpart : NativeRequest → Option Request
  | .evaluate request => request.counterpart.map fun found => .evaluate ⟨found⟩
  | .reserve request => request.counterpart.map .reserve
  | .release request => request.counterpart.map .release
  | .getReservations request => request.counterpart.map .getReservations

/-- The texts of a request. -/
def NativeRequest.texts : NativeRequest → List (List UInt8)
  | .evaluate request | .reserve request => request.clusterName :: request.serviceIds
  | .release request => [request.clusterName]
  | .getReservations request => [request.clusterName]

/-- A heterogeneous job id that is present is not zero. -/
def NativeRequest.HeteroNonzero : NativeRequest → Prop
  | .evaluate request | .reserve request =>
    request.hasHeteroJobId = true → request.heteroJobId ≠ 0
  | _ => True

/-- The frame that the Python encoder writes for a request, `none` where there is no such Python
value or the encoder raises. -/
def NativeRequest.pythonEncode (request : NativeRequest) (correlationId : ℕ) :
    Option (List UInt8) := do
  let found ← request.counterpart
  ((CodecMessage.ofRequest found).encode correlationId).toOption

section NativeRequest

variable {request : NativeRequest} {found : Request}

/-- A request that its encoder accepts and whose texts are UTF-8 has a counterpart. -/
lemma NativeRequest.exists_counterpart (htexts : ∀ text ∈ request.texts, Textual text)
    (h : request.message.Accepted) : ∃ found, request.counterpart = some found := by
  cases request with
  | evaluate request =>
    obtain ⟨hcluster, hservices⟩ := List.forall_mem_cons.mp htexts
    obtain ⟨found, hfound⟩ := exists_counterpart_request h hcluster hservices
    exact ⟨.evaluate ⟨found⟩, by rw [NativeRequest.counterpart, hfound]; rfl⟩
  | reserve request =>
    obtain ⟨hcluster, hservices⟩ := List.forall_mem_cons.mp htexts
    obtain ⟨found, hfound⟩ := exists_counterpart_request h hcluster hservices
    exact ⟨.reserve found, by rw [NativeRequest.counterpart, hfound]; rfl⟩
  | release request =>
    obtain ⟨clusterName, hcluster⟩ := (htexts _ List.mem_cons_self).exists_text
    exact ⟨.release ⟨request.requestId, clusterName, request.canonicalJobId, request.reason⟩, by
      simp [NativeRequest.counterpart, QsgpReleaseRequest.counterpart, hcluster]⟩
  | getReservations request =>
    obtain ⟨clusterName, hcluster⟩ := (htexts _ List.mem_cons_self).exists_text
    exact ⟨.getReservations ⟨request.requestId, clusterName, request.observedJobId, request.jobUid,
      request.jobGid⟩, by
      simp [NativeRequest.counterpart, QsgpGetReservationsRequest.counterpart, hcluster]⟩

/-- What a request and its counterpart have in common: the type, whether the encoder accepts them,
and the payload it then writes. -/
structure Alike (request : NativeRequest) (found : Request) : Prop where
  messageType : (CodecMessage.ofRequest found).messageType = request.message.messageType
  accepted : (CodecMessage.ofRequest found).WithinBounds ↔ request.message.Accepted
  payload : request.message.Accepted →
    (CodecMessage.ofRequest found).payload = request.message.payload

lemma NativeRequest.alike (h : request.counterpart = some found)
    (hhetero : request.HeteroNonzero) : Alike request found := by
  cases request with
  | evaluate request =>
    obtain ⟨inner, hinner, rfl⟩ := Option.map_eq_some_iff.mp h
    exact ⟨rfl, sendable_request_iff hinner hhetero,
      fun haccepted => payload_of_counterpart hinner (QsgpReserveRequest.Sendable.hasWorkload
        haccepted)⟩
  | reserve request =>
    obtain ⟨inner, hinner, rfl⟩ := Option.map_eq_some_iff.mp h
    exact ⟨rfl, sendable_request_iff hinner hhetero,
      fun haccepted => payload_of_counterpart hinner (QsgpReserveRequest.Sendable.hasWorkload
        haccepted)⟩
  | release request =>
    obtain ⟨inner, hinner, rfl⟩ := Option.map_eq_some_iff.mp h
    obtain ⟨hnative, hsendable⟩ := counterpart_release hinner
    refine ⟨rfl, hsendable, fun _ => ?_⟩
    change inner.payload = request.payload
    rw [ReleaseRequest.payload, QsgpReleaseRequest.payload, ← inner.scalars_native, hnative]
  | getReservations request =>
    obtain ⟨inner, hinner, rfl⟩ := Option.map_eq_some_iff.mp h
    obtain ⟨hnative, hsendable⟩ := counterpart_getReservations hinner
    refine ⟨rfl, hsendable, fun _ => ?_⟩
    change inner.payload = request.payload
    rw [GetReservationsRequest.payload, QsgpGetReservationsRequest.payload,
      ← inner.scalars_native, hnative]

end NativeRequest

lemma toOption_eq_some_iff {ε α : Type} {result : Except ε α} {value : α} :
    result.toOption = some value ↔ result = .ok value := by
  cases result <;> simp [Except.toOption]

/-- `decode_request` reads the frame of a request within its bounds. -/
lemma decodeRequest_of_framed {found : Request}
    (h : (CodecMessage.ofRequest found).WithinBounds) {correlationId : ℕ} {data : List UInt8}
    (hframed : Framed (CodecMessage.ofRequest found).messageType correlationId
      (CodecMessage.ofRequest found).payload data) :
    decodeRequest data = .ok (Header.read (CodecMessage.ofRequest found).messageType correlationId
      (CodecMessage.ofRequest found).payload, found) := by
  obtain ⟨⟨header, request⟩, hread, hresult⟩ := bind_eq_ok_iff.mp (h.decode hframed)
  obtain ⟨rfl, hfound⟩ := Prod.mk.inj (Except.ok.inj hresult)
  obtain rfl := CodecMessage.ofRequest.inj hfound
  exact hread

/-- For every request whose texts are UTF-8 and whose heterogeneous job id, if present, is not zero,
and every correlation id, the native encoder and the Python encoder both refuse or write the same
bytes, and `decode_request` of what the client sends returns the request that was encoded. -/
theorem request_encoders_agree (request : NativeRequest) (correlationId : ℕ)
    (htyped : request.message.Typed) (hcorrelation : correlationId < 2 ^ 64)
    (htexts : ∀ text ∈ request.texts, Textual text) (hhetero : request.HeteroNonzero) :
    (request.message.encode correlationId).toOption = request.pythonEncode correlationId ∧
    ∀ bytes, request.message.encode correlationId = .ok bytes →
      ∃ found, request.counterpart = some found ∧
        decodeRequest bytes = .ok (⟨request.message.messageType, correlationId,
          bytes.length - headerSize, versionMajor, versionMinor⟩, found) := by
  have hpositive : Positive 64 (correlationId : ℤ) ↔ correlationId ≠ 0 := by
    rw [positive_natCast, NonzeroWidth, Nat.pos_iff_ne_zero]
    exact and_iff_left hcorrelation
  constructor
  · refine Option.ext fun bytes => ?_
    rw [NativeRequest.pythonEncode, Option.bind_eq_bind, Option.bind_eq_some_iff,
      toOption_eq_some_iff, htyped.encode_eq_ok_iff]
    simp only [toOption_eq_some_iff, CodecMessage.encode_eq_ok_iff, hpositive]
    constructor
    · rintro ⟨haccepted, hne, rfl⟩
      obtain ⟨found, hfound⟩ := NativeRequest.exists_counterpart htexts haccepted
      have halike := NativeRequest.alike hfound hhetero
      refine ⟨found, hfound, halike.accepted.mpr haccepted, hne, ?_⟩
      rw [halike.messageType, halike.payload haccepted, Int.toNat_natCast]
    · rintro ⟨found, hfound, hbounds, hne, rfl⟩
      have halike := NativeRequest.alike hfound hhetero
      have haccepted := halike.accepted.mp hbounds
      refine ⟨haccepted, hne, ?_⟩
      rw [halike.messageType, halike.payload haccepted, Int.toNat_natCast]
  · intro bytes h
    obtain ⟨haccepted, hne, rfl⟩ := htyped.encode_eq_ok_iff.mp h
    obtain ⟨found, hfound⟩ := NativeRequest.exists_counterpart htexts haccepted
    have halike := NativeRequest.alike hfound hhetero
    have hframed : Framed request.message.messageType correlationId request.message.payload _ :=
      framed_of_le ⟨hne, hcorrelation⟩ haccepted.length_payload_le
    rw [← halike.messageType, ← halike.payload haccepted] at hframed
    have hread := decodeRequest_of_framed (halike.accepted.mpr haccepted) hframed
    refine ⟨found, hfound, ?_⟩
    rw [← halike.messageType, ← halike.payload haccepted, hread, length_frameBytes]
    simp [Header.read]

/-- A heterogeneous component with a bound on its measurements. -/
def sampleNativeRequest : NativeRequest :=
  .reserve
    { requestId := 7
      clusterName := [99]
      canonicalJobId := 42
      heteroJobId := 42
      heteroComponent := 1
      hasHeteroJobId := true
      hasHeteroComponent := true
      jobUid := 1000
      jobGid := 1000
      workload := ⟨2, 60, 3, 5, 100, 1000, 0, 0, 9, false, false, true⟩
      hasWorkload := true
      serviceIds := [[113, 97], [113, 98]] }

/-- The gateway reads the component as it was sent. -/
theorem request_encoders_agree_sample :
    ∃ bytes found, sampleNativeRequest.message.encode 9 = .ok bytes ∧
      sampleNativeRequest.pythonEncode 9 = some bytes ∧
      sampleNativeRequest.counterpart = some found ∧
      decodeRequest bytes = .ok (⟨.reserveRequest, 9, bytes.length - headerSize, versionMajor,
        versionMinor⟩, found) := by
  have htyped : sampleNativeRequest.message.Typed := by
    refine ⟨by decide, by decide, by decide, by decide, by decide, by decide, by decide,
      ⟨by decide, by decide, by decide, by decide, by decide, by decide, by decide, by decide,
        by decide⟩, ?_⟩
    decide
  have htexts : ∀ text ∈ sampleNativeRequest.texts, Textual text := by
    unfold Textual
    decide +kernel
  obtain ⟨hsame, hread⟩ := request_encoders_agree sampleNativeRequest 9 htyped (by decide) htexts
    (fun _ => by decide)
  obtain ⟨bytes, hencode⟩ : ∃ bytes, sampleNativeRequest.message.encode 9 = .ok bytes :=
    exists_eq_ok_of_toBool (by decide +kernel)
  obtain ⟨found, hfound, hdecode⟩ := hread bytes hencode
  rw [hencode] at hsame
  exact ⟨bytes, found, hencode, hsame.symm, hfound, hdecode⟩

end QfwSlurm
