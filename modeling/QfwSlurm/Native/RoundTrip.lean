import QfwSlurm.Native.Frames

/-!
# What the native client writes, it reads back

The native library has an encoder and a decoder for each of nine kinds of message.  The decoder
reads back what the encoder wrote, with the absent fields zero, except for release responses: their
encoder accepts results without a reservation id or with a state that their decoder refuses
(`NativeMessage.Closed`, `native_codec_closed_iff`).
-/

namespace QfwSlurm.Native

open Wire

/-! ### Contents that were written -/

lemma framed_of_le {messageType : MessageType} {correlationId : ℕ} {payload : List UInt8}
    (hcorrelation : correlationId ≠ 0 ∧ correlationId < 2 ^ 64)
    (hsize : headerSize + payload.length ≤ maxFrameSize) :
    Framed messageType correlationId payload (frameBytes messageType correlationId payload) :=
  ⟨rfl, ⟨Nat.pos_of_ne_zero hcorrelation.1, hcorrelation.2⟩, by omega⟩

lemma length_lt_of_room {payload : List UInt8}
    (h : headerSize + payload.length ≤ maxFrameSize) : payload.length < 256 ^ 4 := by
  simp only [maxFrameSize, headerSize] at h
  omega

/-- Items that are each read back are decoded in turn. -/
lemma decodes_map {α β : Type} {element : List UInt8 → Except Status β} {item : α → List UInt8}
    {received : α → β} {values : List α}
    (h : ∀ value ∈ values, element (item value) = .ok (received value))
    (hcount : values.length ≤ maxServices) :
    Decodes element (values.map item) (values.map received) where
  each := by
    rw [List.forall₂_map_left_iff, List.forall₂_map_right_iff, List.forall₂_same]
    exact h
  count := by rwa [List.length_map]

/-- The containers that were written carry what is read back from each of them. -/
lemma carries_messageTlvs {α β : Type} {element : List UInt8 → Except Status β}
    {item : α → List UInt8} {received : α → β} {values : List α} {order : List Field}
    {scalars : Scalars} {container : Field} (hnodup : order.Nodup) (hcontainer : container ∉ order)
    (hsupport : ∀ field ∉ order, scalars field = none)
    (hsize : headerSize +
      (encodeAll (messageTlvs order scalars container (values.map item))).length ≤ maxFrameSize)
    (h : ∀ value ∈ values, element (item value) = .ok (received value))
    (hcount : values.length ≤ maxServices) :
    Carries container element (encodeAll (messageTlvs order scalars container (values.map item)))
      scalars (values.map received) :=
  ⟨_, collect_messageTlvs hnodup hcontainer hsupport (length_lt_of_room hsize), rfl, by
    simpa using decodes_map h hcount⟩

/-! ### Requests -/

lemma serviceRequestElement_serviceItem {serviceId : List UInt8}
    (h : CharsFit serviceId maxServiceId) :
    serviceRequestElement (serviceItem serviceId) = .ok serviceId := by
  have hsize : (serviceItem serviceId).length < 256 ^ 4 := by
    have := length_serviceItem_le h.bounded
    omega
  refine serviceRequestElement_eq_ok_iff.mpr ⟨h, _, collect_fieldTlvs (by decide) ?_ hsize, rfl⟩
  intro field hfield
  cases field <;> first | rfl | exact absurd (by decide) hfield

@[simp] lemma QsgpWorkload.normalize_normalize (workload : QsgpWorkload) :
    workload.normalize.normalize = workload.normalize := by
  simp only [QsgpWorkload.normalize, kept_kept]

@[simp] lemma QsgpReserveRequest.normalize_normalize (request : QsgpReserveRequest) :
    request.normalize.normalize = request.normalize := by
  cases hworkload : request.hasWorkload <;>
    simp [QsgpReserveRequest.normalize, hworkload]

lemma keeps_bound {has : Bool} {value bound : ℕ} (h : has = true → value < bound) :
    has = true → kept 0 has value < bound := by
  rintro rfl
  exact h rfl

lemma keeps_text {has : Bool} {value : List UInt8} {maximum : ℕ}
    (h : has = true → CharsFit value maximum) : has = true → CharsFit (kept [] has value) maximum := by
  rintro rfl
  exact h rfl

lemma present_kept (has : Bool) (write : ℕ → List UInt8) (value : ℕ) :
    present has (write (kept 0 has value)) = present has (write value) := by
  cases has <;> rfl

lemma present_kept_text (has : Bool) (value : List UInt8) :
    present has (kept [] has value) = present has value := by
  cases has <;> rfl

/-- Absent fields are not written. -/
lemma QsgpReserveRequest.scalars_normalize (request : QsgpReserveRequest)
    (h : request.hasWorkload = true) : request.normalize.scalars = request.scalars := by
  funext field
  cases field <;>
    simp [QsgpReserveRequest.scalars, QsgpReserveRequest.normalize, QsgpWorkload.normalize, h,
      present_kept]

lemma QsgpReserveRequest.Sendable.normalize {request : QsgpReserveRequest}
    (h : request.Sendable) : request.normalize.Sendable := by
  have hwork := h.workload
  exact {
    requestId := h.requestId
    clusterName := h.clusterName
    canonicalJobId := h.canonicalJobId
    together := h.together
    heteroJobId := keeps_bound h.heteroJobId
    heteroComponent := keeps_bound h.heteroComponent
    jobUid := h.jobUid
    jobGid := h.jobGid
    hasWorkload := h.hasWorkload
    workload := by
      simp only [QsgpReserveRequest.normalize, h.hasWorkload, kept_true]
      exact { hwork with
        maxOneQGates := keeps_bound hwork.maxOneQGates
        maxTwoQGates := keeps_bound hwork.maxTwoQGates
        maxMeasurements := keeps_bound hwork.maxMeasurements }
    count := h.count
    distinct := h.distinct
    services := h.services }

/-- The payload of an admission request carries its contents. -/
lemma QsgpReserveRequest.Sendable.carries {request : QsgpReserveRequest} (h : request.Sendable) :
    Carries .serviceRequest serviceRequestElement request.payload request.normalize.scalars
      request.normalize.serviceIds := by
  rw [request.scalars_normalize h.hasWorkload]
  have hread (serviceId : List UInt8) (hmem : serviceId ∈ request.serviceIds) :
      serviceRequestElement (serviceItem serviceId) = .ok (id serviceId) :=
    serviceRequestElement_serviceItem (h.services serviceId hmem)
  have hcarries := carries_messageTlvs (by decide) (by decide)
    (fun field hfield => by
      cases field <;> first | rfl | exact absurd (by decide) hfield)
    h.length_payload_le hread h.count.2
  rwa [List.map_id] at hcarries

/-! ### Responses -/

@[simp] lemma QsgpServiceResult.normalize_normalize (result : QsgpServiceResult) :
    result.normalize.normalize = result.normalize := by
  simp only [QsgpServiceResult.normalize, kept_kept]

lemma QsgpServiceResult.scalars_normalize (result : QsgpServiceResult) :
    result.normalize.scalars = result.scalars := by
  funext field
  cases field <;>
    simp [QsgpServiceResult.scalars, QsgpServiceResult.normalize, present_kept, present_kept_text]

lemma QsgpServiceResult.Sendable.normalize {reserve : Bool} {result : QsgpServiceResult}
    (h : result.Sendable reserve) : result.normalize.Sendable reserve where
  serviceId := h.serviceId
  decision := h.decision
  granted := h.granted
  reservationId hhas := by
    have hid := h.reservationId hhas
    rw [show result.normalize.reservationId = kept 0 result.hasReservationId result.reservationId
      from rfl, show result.hasReservationId = true from hhas]
    exact hid
  reasonCode := h.reasonCode
  retryAfterNs := keeps_bound h.retryAfterNs
  estimatedStartNs := keeps_bound h.estimatedStartNs
  estimatedFinishNs := keeps_bound h.estimatedFinishNs
  qpmRuntimeId := keeps_text h.qpmRuntimeId
  qpmGeneration := keeps_bound h.qpmGeneration
  diagnostic := keeps_text h.diagnostic

/-- A result that was written is read back. -/
lemma serviceResultElement_item {reserve : Bool} {result : QsgpServiceResult}
    (h : result.Sendable reserve) :
    serviceResultElement reserve result.item = .ok result.normalize := by
  have hsize : result.item.length < 256 ^ 4 := by
    have := h.length_item_le
    omega
  have hcollect : collect result.item [] = .ok { scalar := result.scalars } := by
    refine collect_fieldTlvs (by decide) (fun field hfield => ?_) hsize
    cases field <;> first | rfl | exact absurd (by decide) hfield
  exact serviceResultElement_eq_ok_iff.mpr ⟨h.normalize, result.normalize_normalize, _, hcollect,
    result.scalars_normalize.symm⟩

lemma DecisionAgrees.normalize {decision : ℕ} {results : List QsgpServiceResult}
    (h : DecisionAgrees decision results) :
    DecisionAgrees decision (results.map QsgpServiceResult.normalize) where
  accepted haccepted := by
    rintro _ hmem
    obtain ⟨result, hresult, rfl⟩ := List.mem_map.mp hmem
    exact h.accepted haccepted result hresult
  rejected hrejected := by
    obtain ⟨result, hresult, hdecision⟩ := h.rejected hrejected
    exact ⟨_, List.mem_map_of_mem hresult, hdecision⟩
  delayed hdelayed := by
    obtain ⟨⟨result, hresult, hdecision⟩, hnone⟩ := h.delayed hdelayed
    refine ⟨⟨_, List.mem_map_of_mem hresult, hdecision⟩, ?_⟩
    rintro _ hmem
    obtain ⟨result, hresult, rfl⟩ := List.mem_map.mp hmem
    exact hnone result hresult

lemma QsgpReserveResponse.Sendable.normalize {reserve : Bool} {response : QsgpReserveResponse}
    (h : response.Sendable reserve) : response.normalize.Sendable reserve where
  requestId := h.requestId
  decision := h.decision
  count := by simpa [QsgpReserveResponse.normalize] using h.count
  distinct := by
    simp only [QsgpReserveResponse.normalize, List.map_map]
    exact h.distinct
  results := by
    rintro _ hmem
    obtain ⟨result, hresult, rfl⟩ := List.mem_map.mp hmem
    exact (h.results result hresult).normalize
  agrees := h.agrees.normalize

@[simp] lemma QsgpReserveResponse.normalize_normalize (response : QsgpReserveResponse) :
    response.normalize.normalize = response.normalize := by
  simp [QsgpReserveResponse.normalize, Function.comp_def]

/-- The payload of an admission response carries its contents. -/
lemma QsgpReserveResponse.Sendable.carries {reserve : Bool} {response : QsgpReserveResponse}
    (h : response.Sendable reserve) :
    Carries .serviceResult (serviceResultElement reserve) response.payload
      response.normalize.scalars response.normalize.results :=
  carries_messageTlvs (by decide) (by decide)
    (fun field hfield => by
      cases field <;> first | rfl | exact absurd (by decide) hfield)
    h.length_payload_le (fun result hmem => serviceResultElement_item (h.results result hmem))
    h.count.2

@[simp] lemma QsgpReleaseResult.normalize_normalize (result : QsgpReleaseResult) :
    result.normalize.normalize = result.normalize := by
  simp only [QsgpReleaseResult.normalize, kept_kept]

lemma QsgpReleaseResult.scalars_normalize (result : QsgpReleaseResult) :
    result.normalize.scalars = result.scalars := by
  funext field
  cases field <;>
    simp [QsgpReleaseResult.scalars, QsgpReleaseResult.normalize, present_kept, present_kept_text]

lemma QsgpReleaseResult.Sendable.normalize {result : QsgpReleaseResult} (h : result.Sendable) :
    result.normalize.Sendable where
  serviceId := h.serviceId
  reservationId := h.reservationId
  state := h.state
  gatewayError := keeps_bound h.gatewayError
  diagnostic := keeps_text h.diagnostic

@[simp] lemma QsgpReleaseResponse.normalize_normalize (response : QsgpReleaseResponse) :
    response.normalize.normalize = response.normalize := by
  simp [QsgpReleaseResponse.normalize, Function.comp_def]

/-- What is collected from a result that was written. -/
lemma QsgpReleaseResult.Writable.collect_item {result : QsgpReleaseResult} (h : result.Writable) :
    collect result.item [] = .ok { scalar := result.scalars } := by
  have hsize : result.item.length < 256 ^ 4 := by
    have := h.length_item_le
    omega
  refine collect_fieldTlvs (by decide) (fun field hfield => ?_) hsize
  cases field <;> first | rfl | exact absurd (by decide) hfield

/-- A result that was written is read back exactly when it is within its bounds. -/
lemma releaseResultElement_item_iff {result received : QsgpReleaseResult} (h : result.Typed)
    (hwritable : result.Writable) :
    releaseResultElement result.item = .ok received ↔
      result.Sendable ∧ received = result.normalize := by
  rw [releaseResultElement_eq_ok_iff]
  constructor
  · rintro ⟨hsendable, hnormal, collected, hcollect, hscalar⟩
    obtain rfl := Except.ok.inj (hwritable.collect_item.symm.trans hcollect)
    -- the numbers are told from their bytes
    have hnumber {a b : ℕ} (ha : a < 2 ^ 32) (hb : b < 2 ^ 32)
        (heq : some (bigEndian 4 a) = some (bigEndian 4 b)) : a = b := by
      rw [← number_u32 ha, ← number_u32 hb, Option.some.inj heq]
    have hstate : result.state = received.state := by
      have := hsendable.state.2
      exact hnumber h.state (by omega) (congrFun hscalar .reservationState)
    have hid : result.reservationId = received.reservationId := by
      rw [← number_u64 h.reservationId, ← number_u64 hsendable.reservationId.2]
      exact congrArg ofBigEndian (Option.some.inj (congrFun hscalar .reservationId))
    have hall : result.Sendable := h.sendable_iff.mpr ⟨hwritable, by
      rw [hid]
      exact hsendable.reservationId.1.ne', by rw [hstate]; exact hsendable.state⟩
    refine ⟨hall, ?_⟩
    have hread := releaseResultElement_eq_ok_iff.mpr ⟨hall.normalize, result.normalize_normalize,
      _, hcollect, result.scalars_normalize.symm⟩
    have hread' := releaseResultElement_eq_ok_iff.mpr ⟨hsendable, hnormal, _, hcollect, hscalar⟩
    exact Except.ok.inj (hread'.symm.trans hread)
  · rintro ⟨hall, rfl⟩
    exact ⟨hall.normalize, result.normalize_normalize, _, hwritable.collect_item,
      result.scalars_normalize.symm⟩

lemma reservationElement_item {reservation : QsgpReservation} (h : reservation.Sendable) :
    reservationElement reservation.item = .ok reservation := by
  have hsize : reservation.item.length < 256 ^ 4 := by
    have := h.length_item_le
    omega
  have hcollect : collect reservation.item [] = .ok { scalar := reservation.scalars } := by
    refine collect_fieldTlvs (by decide) (fun field hfield => ?_) hsize
    cases field <;> first | rfl | exact absurd (by decide) hfield
  exact reservationElement_eq_ok_iff.mpr ⟨h, _, hcollect, rfl⟩

/-- The payload of a get-reservations response carries its contents. -/
lemma QsgpGetReservationsResponse.Sendable.carries {response : QsgpGetReservationsResponse}
    (h : response.Sendable) :
    Carries .reservation reservationElement response.payload response.scalars
      response.reservations := by
  have hread (reservation : QsgpReservation) (hmem : reservation ∈ response.reservations) :
      reservationElement reservation.item = .ok (id reservation) :=
    reservationElement_item (h.reservations reservation hmem)
  have hcarries := carries_messageTlvs (by decide) (by decide)
    (fun field hfield => by
      cases field <;> first | rfl | exact absurd (by decide) hfield)
    h.length_payload_le hread h.count.2
  rwa [List.map_id] at hcarries

lemma QsgpErrorResponse.scalars_normalize (response : QsgpErrorResponse) :
    response.normalize.scalars = response.scalars := by
  funext field
  cases field <;>
    simp [QsgpErrorResponse.scalars, QsgpErrorResponse.normalize, present_kept, present_kept_text]

lemma QsgpErrorResponse.Sendable.normalize {response : QsgpErrorResponse} (h : response.Sendable) :
    response.normalize.Sendable where
  requestId := keeps_bound h.requestId
  errorCode := h.errorCode
  diagnostic := keeps_text h.diagnostic

/-! ### The nine kinds -/

/-- The messages that the native library has an encoder and a decoder for. -/
inductive NativeMessage where
  | evaluateRequest (request : QsgpReserveRequest)
  | reserveRequest (request : QsgpReserveRequest)
  | releaseRequest (request : QsgpReleaseRequest)
  | getReservationsRequest (request : QsgpGetReservationsRequest)
  | evaluateResponse (response : QsgpReserveResponse)
  | reserveResponse (response : QsgpReserveResponse)
  | releaseResponse (response : QsgpReleaseResponse)
  | getReservationsResponse (response : QsgpGetReservationsResponse)
  | errorResponse (response : QsgpErrorResponse)
  deriving DecidableEq

/-- A value of the C type of the message. -/
def NativeMessage.Typed : NativeMessage → Prop
  | .evaluateRequest request | .reserveRequest request => request.Typed
  | .releaseRequest request => request.Typed
  | .getReservationsRequest request => request.Typed
  | .evaluateResponse response | .reserveResponse response => response.Typed
  | .releaseResponse response => response.Typed
  | .getReservationsResponse response => response.Typed
  | .errorResponse response => response.Typed

/-- The message with its absent fields zero. -/
def NativeMessage.normalize : NativeMessage → NativeMessage
  | .evaluateRequest request => .evaluateRequest request.normalize
  | .reserveRequest request => .reserveRequest request.normalize
  | .releaseRequest request => .releaseRequest request
  | .getReservationsRequest request => .getReservationsRequest request
  | .evaluateResponse response => .evaluateResponse response.normalize
  | .reserveResponse response => .reserveResponse response.normalize
  | .releaseResponse response => .releaseResponse response.normalize
  | .getReservationsResponse response => .getReservationsResponse response
  | .errorResponse response => .errorResponse response.normalize

/-- The type in the header. -/
def NativeMessage.messageType : NativeMessage → MessageType
  | .evaluateRequest _ => .evaluateRequest
  | .reserveRequest _ => .reserveRequest
  | .releaseRequest _ => .releaseRequest
  | .getReservationsRequest _ => .getReservationsRequest
  | .evaluateResponse _ => .evaluateResponse
  | .reserveResponse _ => .reserveResponse
  | .releaseResponse _ => .releaseResponse
  | .getReservationsResponse _ => .getReservationsResponse
  | .errorResponse _ => .errorResponse

/-- The encoder of the message's kind. -/
def NativeMessage.encode (message : NativeMessage) (correlationId : ℕ) :
    Except Status (List UInt8) :=
  match message with
  | .evaluateRequest request => qsgpEncodeEvaluateRequest request correlationId
  | .reserveRequest request => qsgpEncodeReserveRequest request correlationId
  | .releaseRequest request => qsgpEncodeReleaseRequest request correlationId
  | .getReservationsRequest request => qsgpEncodeGetReservationsRequest request correlationId
  | .evaluateResponse response => qsgpEncodeEvaluateResponse response correlationId
  | .reserveResponse response => qsgpEncodeReserveResponse response correlationId
  | .releaseResponse response => qsgpEncodeReleaseResponse response correlationId
  | .getReservationsResponse response => qsgpEncodeGetReservationsResponse response correlationId
  | .errorResponse response => qsgpEncodeErrorResponse response correlationId

/-- A decoded message as one of the nine kinds. -/
def readAs {α : Type} (kind : α → NativeMessage)
    (read : Except Status (QsgpHeader × α)) : Except Status (QsgpHeader × NativeMessage) :=
  read.map fun (header, message) => (header, kind message)

/-- The decoder of a kind. -/
def decodeNative (messageType : MessageType) (data : List UInt8) :
    Except Status (QsgpHeader × NativeMessage) :=
  match messageType with
  | .evaluateRequest => readAs .evaluateRequest (qsgpDecodeEvaluateRequest data)
  | .reserveRequest => readAs .reserveRequest (qsgpDecodeReserveRequest data)
  | .releaseRequest => readAs .releaseRequest (qsgpDecodeReleaseRequest data)
  | .getReservationsRequest =>
    readAs .getReservationsRequest (qsgpDecodeGetReservationsRequest data)
  | .evaluateResponse => readAs .evaluateResponse (qsgpDecodeEvaluateResponse data)
  | .reserveResponse => readAs .reserveResponse (qsgpDecodeReserveResponse data)
  | .releaseResponse => readAs .releaseResponse (qsgpDecodeReleaseResponse data)
  | .getReservationsResponse =>
    readAs .getReservationsResponse (qsgpDecodeGetReservationsResponse data)
  | .errorResponse => readAs .errorResponse (qsgpDecodeErrorResponse data)

/-- Whatever the encoder of the message writes, the decoder of its kind accepts, and returns the
message with its absent fields zero. -/
def NativeMessage.Closed (message : NativeMessage) (correlationId : ℕ) : Prop :=
  ∀ bytes, message.encode correlationId = .ok bytes →
    ∃ header, decodeNative message.messageType bytes = .ok (header, message.normalize)

/-- The messages within their bounds, a frame of which is read back. -/
def NativeMessage.Sendable : NativeMessage → Prop
  | .evaluateRequest request | .reserveRequest request => request.Sendable
  | .releaseRequest request => request.Sendable
  | .getReservationsRequest request => request.Sendable
  | .evaluateResponse response => response.Sendable false
  | .reserveResponse response => response.Sendable true
  | .releaseResponse response => response.Sendable
  | .getReservationsResponse response => response.Sendable
  | .errorResponse response => response.Sendable

/-- What the encoder of a message accepts: the messages within their bounds, and more release
responses. -/
def NativeMessage.Accepted : NativeMessage → Prop
  | .releaseResponse response => response.Writable
  | message => message.Sendable

/-- The payload of a message as it is written. -/
def NativeMessage.payload : NativeMessage → List UInt8
  | .evaluateRequest request | .reserveRequest request => request.payload
  | .releaseRequest request => request.payload
  | .getReservationsRequest request => request.payload
  | .evaluateResponse response | .reserveResponse response => response.payload
  | .releaseResponse response => response.payload
  | .getReservationsResponse response => response.payload
  | .errorResponse response => response.payload

/-- Each encoder frames the payload of what it accepts. -/
lemma NativeMessage.Typed.encode_eq_ok_iff {message : NativeMessage} (h : message.Typed)
    {correlationId : ℕ} {bytes : List UInt8} :
    message.encode correlationId = .ok bytes ↔
      message.Accepted ∧ correlationId ≠ 0 ∧
        bytes = frameBytes message.messageType correlationId message.payload := by
  cases message with
  | evaluateRequest request => exact qsgpEncodeEvaluateRequest_eq_ok_iff h
  | reserveRequest request => exact qsgpEncodeReserveRequest_eq_ok_iff h
  | releaseRequest request => exact qsgpEncodeReleaseRequest_eq_ok_iff h
  | getReservationsRequest request => exact qsgpEncodeGetReservationsRequest_eq_ok_iff h
  | evaluateResponse response => exact encodeAdmissionResponse_eq_ok_iff h
  | reserveResponse response => exact encodeAdmissionResponse_eq_ok_iff h
  | releaseResponse response => exact qsgpEncodeReleaseResponse_eq_ok_iff h
  | getReservationsResponse response => exact qsgpEncodeGetReservationsResponse_eq_ok_iff h
  | errorResponse response => exact qsgpEncodeErrorResponse_eq_ok_iff h

lemma QsgpReleaseResponse.Sendable.writable {response : QsgpReleaseResponse}
    (h : response.Sendable) : response.Writable :=
  ⟨h.requestId, h.count, fun result hmem =>
    ⟨(h.results result hmem).serviceId, (h.results result hmem).diagnostic⟩⟩

lemma NativeMessage.Accepted.length_payload_le {message : NativeMessage} (h : message.Accepted) :
    headerSize + message.payload.length ≤ maxFrameSize := by
  cases message with
  | evaluateRequest request => exact QsgpReserveRequest.Sendable.length_payload_le h
  | reserveRequest request => exact QsgpReserveRequest.Sendable.length_payload_le h
  | releaseRequest request => exact QsgpReleaseRequest.Sendable.length_payload_le h
  | getReservationsRequest request =>
    exact QsgpGetReservationsRequest.Sendable.length_payload_le h
  | evaluateResponse response => exact QsgpReserveResponse.Sendable.length_payload_le h
  | reserveResponse response => exact QsgpReserveResponse.Sendable.length_payload_le h
  | releaseResponse response => exact QsgpReleaseResponse.Writable.length_payload_le h
  | getReservationsResponse response =>
    exact QsgpGetReservationsResponse.Sendable.length_payload_le h
  | errorResponse response => exact QsgpErrorResponse.Sendable.length_payload_le h

lemma NativeMessage.Sendable.accepted {message : NativeMessage} (h : message.Sendable) :
    message.Accepted := by
  cases message
  case releaseResponse response => exact QsgpReleaseResponse.Sendable.writable h
  all_goals exact h

/-- The payload of a release response carries its contents. -/
lemma QsgpReleaseResponse.Sendable.carries {response : QsgpReleaseResponse}
    (htyped : response.Typed) (h : response.Sendable) :
    Carries .releaseResult releaseResultElement response.payload response.normalize.scalars
      response.normalize.results :=
  carries_messageTlvs (by decide) (by decide)
    (fun field hfield => by
      cases field <;> first | rfl | exact absurd (by decide) hfield)
    h.writable.length_payload_le
    (fun result hmem => (releaseResultElement_item_iff (htyped.results result hmem)
      (h.writable.results result hmem)).mpr ⟨h.results result hmem, rfl⟩)
    h.count

lemma QsgpReleaseResponse.Sendable.normalize {response : QsgpReleaseResponse}
    (h : response.Sendable) : response.normalize.Sendable where
  requestId := h.requestId
  count := by simpa [QsgpReleaseResponse.normalize] using h.count
  results := by
    rintro _ hmem
    obtain ⟨result, hresult, rfl⟩ := List.mem_map.mp hmem
    exact (h.results result hresult).normalize

lemma readAs_eq_ok {α : Type} {kind : α → NativeMessage}
    {read : Except Status (QsgpHeader × α)} {header : QsgpHeader} {message : α}
    (h : read = .ok (header, message)) : readAs kind read = .ok (header, kind message) := by
  rw [readAs, h]
  rfl

lemma exists_of_readAs_eq_ok {α : Type} {kind : α → NativeMessage}
    {read : Except Status (QsgpHeader × α)} {header : QsgpHeader} {message : NativeMessage}
    (h : readAs kind read = .ok (header, message)) : ∃ value, read = .ok (header, value) := by
  cases hread : read with
  | error status =>
    rw [hread] at h
    exact (nomatch h)
  | ok found =>
    rw [hread] at h
    obtain ⟨rfl, -⟩ := Prod.mk.inj (Except.ok.inj h)
    exact ⟨found.2, rfl⟩

/-- A frame of a message within its bounds is read back. -/
theorem NativeMessage.Sendable.decode {message : NativeMessage} (h : message.Sendable)
    (htyped : message.Typed) {correlationId : ℕ} {data : List UInt8}
    (hframed : Framed message.messageType correlationId message.payload data) :
    decodeNative message.messageType data =
      .ok (.read message.messageType correlationId message.payload, message.normalize) := by
  have hroom := h.accepted.length_payload_le
  cases message with
  | evaluateRequest request =>
    have hsendable : request.Sendable := h
    exact readAs_eq_ok (qsgpDecodeEvaluateRequest_eq_ok_iff.mpr ⟨_, _, hframed, rfl,
      hsendable.normalize, request.normalize_normalize, hsendable.carries⟩)
  | reserveRequest request =>
    have hsendable : request.Sendable := h
    exact readAs_eq_ok (qsgpDecodeReserveRequest_eq_ok_iff.mpr ⟨_, _, hframed, rfl,
      hsendable.normalize, request.normalize_normalize, hsendable.carries⟩)
  | releaseRequest request =>
    have hcollect : collect request.payload [] = .ok { scalar := request.scalars } := by
      refine collect_fieldTlvs (by decide) (fun field hfield => ?_) (length_lt_of_room hroom)
      cases field <;> first | rfl | exact absurd (by decide) hfield
    exact readAs_eq_ok (qsgpDecodeReleaseRequest_eq_ok_iff.mpr ⟨_, _, hframed, rfl, h, _, hcollect,
      rfl⟩)
  | getReservationsRequest request =>
    have hcollect : collect request.payload [] = .ok { scalar := request.scalars } := by
      refine collect_fieldTlvs (by decide) (fun field hfield => ?_) (length_lt_of_room hroom)
      cases field <;> first | rfl | exact absurd (by decide) hfield
    exact readAs_eq_ok (qsgpDecodeGetReservationsRequest_eq_ok_iff.mpr ⟨_, _, hframed, rfl, h, _,
      hcollect, rfl⟩)
  | evaluateResponse response =>
    have hsendable : response.Sendable false := h
    exact readAs_eq_ok (decodeAdmissionResponse_eq_ok_iff.mpr ⟨_, _, hframed, rfl,
      hsendable.normalize, response.normalize_normalize, hsendable.carries⟩)
  | reserveResponse response =>
    have hsendable : response.Sendable true := h
    exact readAs_eq_ok (decodeAdmissionResponse_eq_ok_iff.mpr ⟨_, _, hframed, rfl,
      hsendable.normalize, response.normalize_normalize, hsendable.carries⟩)
  | releaseResponse response =>
    have hsendable : response.Sendable := h
    exact readAs_eq_ok (qsgpDecodeReleaseResponse_eq_ok_iff.mpr ⟨_, _, hframed, rfl,
      hsendable.normalize, response.normalize_normalize, hsendable.carries htyped⟩)
  | getReservationsResponse response =>
    have hsendable : response.Sendable := h
    exact readAs_eq_ok (qsgpDecodeGetReservationsResponse_eq_ok_iff.mpr ⟨_, _, hframed, rfl,
      hsendable, hsendable.carries⟩)
  | errorResponse response =>
    have hsendable : response.Sendable := h
    have hcollect : collect response.payload [] = .ok { scalar := response.scalars } := by
      refine collect_fieldTlvs (by decide) (fun field hfield => ?_) (length_lt_of_room hroom)
      cases field <;> first | rfl | exact absurd (by decide) hfield
    have hnormal : response.normalize.normalize = response.normalize := by
      simp only [QsgpErrorResponse.normalize, kept_kept]
    exact readAs_eq_ok (qsgpDecodeErrorResponse_eq_ok_iff.mpr ⟨_, _, hframed, rfl,
      hsendable.normalize, hnormal, _, hcollect, response.scalars_normalize.symm⟩)

/-- A frame of a release response is read back only when the response is within its bounds. -/
lemma QsgpReleaseResponse.Writable.sendable_of_decode {response received : QsgpReleaseResponse}
    (h : response.Writable) (htyped : response.Typed) {correlationId : ℕ} {data : List UInt8}
    {header : QsgpHeader} (hframed : Framed .releaseResponse correlationId response.payload data)
    (hdecode : qsgpDecodeReleaseResponse data = .ok (header, received)) : response.Sendable := by
  obtain ⟨correlationId', payload, hframed', -, -, -, collected, hcollect, -, hresults⟩ :=
    qsgpDecodeReleaseResponse_eq_ok_iff.mp hdecode
  obtain rfl : payload = response.payload := hframed'.drop.symm.trans hframed.drop
  have hwritten := collect_messageTlvs (show [Field.requestId].Nodup by decide)
    (show Field.releaseResult ∉ _ by decide) (fun field hfield => by
      cases field <;> first | rfl | exact absurd (by decide) hfield)
    (length_lt_of_room h.length_payload_le)
  obtain rfl := Except.ok.inj (hcollect.symm.trans hwritten)
  refine ⟨h.requestId, h.count, fun result hmem => ?_⟩
  obtain ⟨item, hitem⟩ := hresults.exists_item (List.mem_map_of_mem hmem)
  exact ((releaseResultElement_item_iff (htyped.results result hmem)
    (h.results result hmem)).mp hitem).1

/-- The condition on release responses: when their encoder accepts them, every result has a
reservation id and one of the seven states. -/
def NativeMessage.Readable (message : NativeMessage) (correlationId : ℕ) : Prop :=
  match message with
  | .releaseResponse response => correlationId ≠ 0 → response.Writable →
    ∀ result ∈ response.results,
      result.reservationId ≠ 0 ∧ 1 ≤ result.state ∧ result.state ≤ 7
  | _ => True

/-- What an encoder accepts and is readable is within its bounds. -/
lemma NativeMessage.Readable.sendable {message : NativeMessage} {correlationId : ℕ}
    (h : message.Readable correlationId) (htyped : message.Typed)
    (hcorrelation : correlationId ≠ 0) (haccepted : message.Accepted) : message.Sendable := by
  cases message
  case releaseResponse response =>
    have hwritable : response.Writable := haccepted
    refine ⟨hwritable.requestId, hwritable.count, fun result hmem => ?_⟩
    exact (QsgpReleaseResult.Typed.sendable_iff (htyped.results result hmem)).mpr
      ⟨hwritable.results result hmem, h hcorrelation hwritable result hmem⟩
  all_goals exact haccepted

/-- The native codec is closed for every message but the release responses that their encoder
accepts although a result has no reservation id or an unknown state. -/
theorem native_codec_closed_iff (message : NativeMessage) (correlationId : ℕ)
    (htyped : message.Typed) (hcorrelation : correlationId < 2 ^ 64) :
    message.Closed correlationId ↔ message.Readable correlationId := by
  constructor
  · intro hclosed
    cases message
    case releaseResponse response =>
      intro hne hwritable result hmem
      have hencode := (NativeMessage.Typed.encode_eq_ok_iff htyped).mpr
        ⟨(hwritable : (NativeMessage.releaseResponse response).Accepted), hne, rfl⟩
      obtain ⟨header, hdecode⟩ := hclosed _ hencode
      have hframed : Framed .releaseResponse correlationId response.payload _ :=
        framed_of_le ⟨hne, hcorrelation⟩ hwritable.length_payload_le
      obtain ⟨received, hread⟩ := exists_of_readAs_eq_ok hdecode
      have hsendable := hwritable.sendable_of_decode htyped hframed hread
      exact ((QsgpReleaseResult.Typed.sendable_iff (htyped.results result hmem)).mp
        (hsendable.results result hmem)).2
    all_goals trivial
  · intro hreadable bytes hencode
    obtain ⟨haccepted, hne, rfl⟩ := htyped.encode_eq_ok_iff.mp hencode
    have hsendable := hreadable.sendable htyped hne haccepted
    exact ⟨_, hsendable.decode htyped (framed_of_le ⟨hne, hcorrelation⟩
      haccepted.length_payload_le)⟩

/-- A release response with a result that has no reservation id. -/
def unreadableResponse : NativeMessage :=
  .releaseResponse { requestId := 1, results := [{ serviceId := [113], state := 1 }] }

lemma typed_unreadableResponse : unreadableResponse.Typed where
  requestId := by decide
  results := by
    intro result hmem
    obtain rfl := List.mem_singleton.mp hmem
    exact ⟨by decide, by decide, by decide, by decide, by decide⟩

/-- The encoder writes it, and the decoder refuses what was written. -/
theorem unreadableResponse_not_closed :
    ¬ ∀ (message : NativeMessage) (correlationId : ℕ), message.Typed → correlationId < 2 ^ 64 →
      message.Closed correlationId := by
  intro h
  have hwritten : unreadableResponse.encode 9 >>= decodeNative .releaseResponse =
      .error .invalid := by decide +kernel
  obtain ⟨bytes, hencode⟩ : ∃ bytes, unreadableResponse.encode 9 = .ok bytes :=
    exists_eq_ok_of_toBool (by decide +kernel)
  obtain ⟨header, hdecode⟩ := h unreadableResponse 9 typed_unreadableResponse (by decide) bytes
    hencode
  rw [hencode] at hwritten
  have hrefused : decodeNative .releaseResponse bytes = .error .invalid := hwritten
  exact absurd (hrefused.symm.trans hdecode) (by simp)

/-- A release response, with an error that is marked absent in the first result. -/
def sampleReleaseResponse : NativeMessage :=
  .releaseResponse
    { requestId := 7
      results := [
        { serviceId := [113, 97], reservationId := 5, state := 1, gatewayError := 3 },
        { serviceId := [113, 98], reservationId := 6, state := 7, gatewayError := 4,
          diagnostic := [98, 117, 115, 121], hasGatewayError := true, hasDiagnostic := true }] }

/-- The response is read back without the error that was marked absent. -/
theorem native_codec_closed_sample : sampleReleaseResponse.Closed 9 := by
  have htyped : sampleReleaseResponse.Typed := by
    refine ⟨by decide, fun result hmem => ?_⟩
    rcases List.mem_pair.mp hmem with rfl | rfl
    · exact ⟨by decide, by decide, by decide, by decide, by decide⟩
    · exact ⟨by decide, by decide, by decide, by decide, by decide⟩
  have hreadable : sampleReleaseResponse.Readable 9 := by
    intro _ _ result hmem
    rcases List.mem_pair.mp hmem with rfl | rfl
    · decide
    · decide
  exact (native_codec_closed_iff sampleReleaseResponse 9 htyped (by decide)).mpr hreadable

end QfwSlurm.Native
