import QfwSlurm.Protocol.Responses

/-!
# What the gateway writes, it reads back

The gateway reads the four requests and the get-reservations response.  For each of these messages
the encoder accepts exactly the values within their bounds, whatever their size, and the decoder
returns the value that was encoded (`encode_decode`).
-/

namespace QfwSlurm

open Wire

/-! ### Reading back the contents that were written -/

/-- A payload within the bound is framed as it is written. -/
lemma framed_frameBytes {messageType : MessageType} {correlationId : ℤ} {payload : List UInt8}
    (hcorrelation : Positive 64 correlationId)
    (hsize : payload.length ≤ maxFrameSize - headerSize) :
    Framed messageType correlationId.toNat payload
      (frameBytes messageType correlationId.toNat payload) := by
  obtain ⟨hlow, hhigh⟩ := hcorrelation
  exact ⟨rfl, ⟨by omega, by omega⟩, hsize⟩

lemma length_lt_of_le {payload : List UInt8} (h : payload.length ≤ maxFrameSize - headerSize) :
    payload.length < 256 ^ 4 := by
  simp only [maxFrameSize, headerSize] at h
  omega

/-- A service request that was written names its service. -/
lemma decodeServiceRequest_serviceItem {serviceId : String} (h : TextFits serviceId maxServiceId) :
    decodeServiceRequest (serviceItem (utf8 serviceId)) = .ok serviceId := by
  have hbound := h.bounded
  have htlv := Field.serviceId.length_tlv_le (utf8 serviceId)
  have hsize : (serviceItem (utf8 serviceId)).length < 256 ^ 4 := by
    rw [maxServiceId] at hbound
    simp only [serviceItem, fieldTlvs, serviceScalars, List.filterMap_cons, Option.map_some,
      List.filterMap_nil, encodeAll_cons, encodeAll_nil, List.append_nil]
    omega
  refine decodeServiceRequest_eq_ok_iff.mpr ⟨h, _, collect_fieldTlvs (by decide) ?_ hsize, rfl⟩
  intro field hfield
  cases field <;> first | rfl | exact absurd (by decide) hfield

/-- A reservation that was written is read back. -/
lemma decodeReservation_item {reservation : Reservation} (h : reservation.Sendable) :
    decodeReservation reservation.item = .ok reservation := by
  have hsize : reservation.item.length < 256 ^ 4 := by
    have := h.length_item_le
    omega
  refine decodeReservation_eq_ok_iff.mpr ⟨h, _, collect_fieldTlvs (by decide) ?_ hsize, rfl⟩
  intro field hfield
  cases field <;> first | rfl | exact absurd (by decide) hfield

/-- Items that are each read back are read back in turn. -/
lemma forall₂_map_of_forall {α β ε : Type} {write : α → β} {decode : β → Except ε α} {items : List α}
    (h : ∀ item ∈ items, decode (write item) = .ok item) :
    List.Forall₂ (fun bytes item => decode bytes = .ok item) (items.map write) items := by
  rw [List.forall₂_map_left_iff, List.forall₂_same]
  exact h

/-- The payload of an admission request has the contents that were written. -/
lemma ReserveRequest.Sendable.contains {request : ReserveRequest} (h : request.Sendable) :
    Contains .serviceRequest decodeServiceRequest request.payload request.scalars
      request.serviceIds := by
  refine ⟨_, collect_messageTlvs (by decide) (by decide) (fun field hfield => ?_)
    (length_lt_of_le h.length_payload_le), rfl, ?_⟩
  · exact request.scalars_absent hfield
  · exact forall₂_map_of_forall fun serviceId hmem =>
      decodeServiceRequest_serviceItem (h.services serviceId hmem)

/-- The payload of a get-reservations response has the contents that were written. -/
lemma GetReservationsResponse.Sendable.contains {response : GetReservationsResponse}
    (h : response.Sendable) :
    Contains .reservation decodeReservation response.payload response.scalars
      response.reservations := by
  refine ⟨_, collect_messageTlvs (by decide) (by decide) (fun field hfield => ?_)
    (length_lt_of_le h.length_payload_le), rfl, ?_⟩
  · cases field <;> first | rfl | exact absurd (by decide) hfield
  · exact forall₂_map_of_forall fun reservation hmem =>
      decodeReservation_item (h.reservations reservation hmem)

/-! ### Messages the gateway writes and reads -/

/-- The messages that the gateway has an encoder and a decoder for. -/
inductive CodecMessage where
  | ofRequest (request : Request)
  | ofResponse (response : GetReservationsResponse)
  deriving DecidableEq

/-- The type in the header. -/
def CodecMessage.messageType : CodecMessage → MessageType
  | .ofRequest (.evaluate _) => .evaluateRequest
  | .ofRequest (.reserve _) => .reserveRequest
  | .ofRequest (.release _) => .releaseRequest
  | .ofRequest (.getReservations _) => .getReservationsRequest
  | .ofResponse _ => .getReservationsResponse

/-- The encoder of the message's kind. -/
def CodecMessage.encode (message : CodecMessage) (correlationId : ℤ) :
    Except PyError (List UInt8) :=
  match message with
  | .ofRequest (.evaluate request) => encodeEvaluateRequest request correlationId
  | .ofRequest (.reserve request) => encodeReserveRequest request correlationId
  | .ofRequest (.release request) => encodeReleaseRequest request correlationId
  | .ofRequest (.getReservations request) => encodeGetReservationsRequest request correlationId
  | .ofResponse response => encodeGetReservationsResponse response correlationId

/-- What a frame of the message's kind is read with: `decode_request` for the requests, and
`decode_get_reservations_response` for the response. -/
def CodecMessage.decode (message : CodecMessage) (frame : List UInt8) :
    Except PyError (Header × CodecMessage) :=
  match message with
  | .ofRequest _ => do
    let (header, request) ← decodeRequest frame
    return (header, .ofRequest request)
  | .ofResponse _ => do
    let (header, response) ← decodeGetReservationsResponse frame
    return (header, .ofResponse response)

/-- The fields of the message are within their ranges and bounds; an admission request has a
workload. -/
def CodecMessage.WithinBounds : CodecMessage → Prop
  | .ofRequest (.evaluate request) =>
    request.workload.isSome ∧ request.toReserveRequest.Sendable
  | .ofRequest (.reserve request) => request.workload.isSome ∧ request.Sendable
  | .ofRequest (.release request) => request.Sendable
  | .ofRequest (.getReservations request) => request.Sendable
  | .ofResponse response => response.Sendable

/-- The payload of the message. -/
def CodecMessage.payload : CodecMessage → List UInt8
  | .ofRequest (.evaluate request) => request.toReserveRequest.payload
  | .ofRequest (.reserve request) => request.payload
  | .ofRequest (.release request) => request.payload
  | .ofRequest (.getReservations request) => request.payload
  | .ofResponse response => response.payload

/-- Each encoder accepts the messages within their bounds and frames their payload. -/
lemma CodecMessage.encode_eq_ok_iff {message : CodecMessage} {correlationId : ℤ}
    {bytes : List UInt8} :
    message.encode correlationId = .ok bytes ↔
      message.WithinBounds ∧ Positive 64 correlationId ∧
        frameBytes message.messageType correlationId.toNat message.payload = bytes := by
  obtain (request | request | request | request) | response := message
  · exact encodeEvaluateRequest_eq_ok_iff
  · exact encodeReserveRequest_eq_ok_iff
  · exact encodeReleaseRequest_eq_ok_iff
  · exact encodeGetReservationsRequest_eq_ok_iff
  · exact encodeGetReservationsResponse_eq_ok_iff

lemma CodecMessage.WithinBounds.length_payload_le {message : CodecMessage}
    (h : message.WithinBounds) : message.payload.length ≤ maxFrameSize - headerSize := by
  obtain (request | request | request | request) | response := message
  · exact h.2.length_payload_le
  · exact h.2.length_payload_le
  · exact ReleaseRequest.Sendable.length_payload_le h
  · exact GetReservationsRequest.Sendable.length_payload_le h
  · exact GetReservationsResponse.Sendable.length_payload_le h

/-- `decode_request` reads the type of a frame and hands the frame to the decoder of that type. -/
lemma decodeHeader_of_framed {messageType : MessageType} {correlationId : ℕ}
    {payload frame : List UInt8} (h : Framed messageType correlationId payload frame) :
    decodeHeader frame = .ok (Header.read messageType correlationId payload) :=
  decodeHeader_eq_ok_iff.mpr ⟨correlationId, payload, h, rfl⟩

/-- The frame of a message within its bounds is read back. -/
lemma CodecMessage.WithinBounds.decode {message : CodecMessage} (h : message.WithinBounds)
    {correlationId : ℕ} {frame : List UInt8}
    (hframed : Framed message.messageType correlationId message.payload frame) :
    message.decode frame =
      .ok (Header.read message.messageType correlationId message.payload, message) := by
  obtain (request | request | request | request) | response := message
  · obtain ⟨hworkload, hsendable⟩ := h
    have hread : decodeAdmissionRequest frame .evaluateRequest =
        .ok (Header.read .evaluateRequest correlationId request.toReserveRequest.payload,
          request.toReserveRequest) :=
      decodeAdmissionRequest_eq_ok_iff.mpr ⟨_, _, hframed, rfl, hsendable, hsendable.contains⟩
    have hsome : refuseIf (request.workload = none)
        "evaluate request requires a workload envelope" = .ok () :=
      refuseIf_eq_ok_iff.mpr (Option.isSome_iff_ne_none.mp hworkload)
    simp only [CodecMessage.decode, decodeRequest, decodeHeader_of_framed hframed, bind,
      Except.bind, Header.read, CodecMessage.messageType, decodeEvaluateRequest] at hread ⊢
    rw [hread]
    simp only [hsome]
    rfl
  · obtain ⟨hworkload, hsendable⟩ := h
    have hread : decodeAdmissionRequest frame .reserveRequest =
        .ok (Header.read .reserveRequest correlationId request.payload, request) :=
      decodeAdmissionRequest_eq_ok_iff.mpr ⟨_, _, hframed, rfl, hsendable, hsendable.contains⟩
    have hsome : refuseIf (request.workload = none)
        "reserve request requires a workload envelope" = .ok () :=
      refuseIf_eq_ok_iff.mpr (Option.isSome_iff_ne_none.mp hworkload)
    simp only [CodecMessage.decode, decodeRequest, decodeHeader_of_framed hframed, bind,
      Except.bind, Header.read, CodecMessage.messageType, decodeReserveRequest] at hread ⊢
    rw [hread]
    simp only [hsome]
    rfl
  · have hcollect : collect request.payload [] = .ok { scalar := request.scalars } := by
      refine collect_fieldTlvs (by decide) (fun field hfield => ?_)
        (length_lt_of_le (ReleaseRequest.Sendable.length_payload_le h))
      cases field <;> first | rfl | exact absurd (by decide) hfield
    have hread : decodeReleaseRequest frame =
        .ok (Header.read .releaseRequest correlationId request.payload, request) :=
      decodeReleaseRequest_eq_ok_iff.mpr ⟨_, _, hframed, rfl, h, _, hcollect, rfl⟩
    simp only [CodecMessage.decode, decodeRequest, decodeHeader_of_framed hframed, bind,
      Except.bind, Header.read, CodecMessage.messageType] at hread ⊢
    rw [hread]
    rfl
  · have hcollect : collect request.payload [] = .ok { scalar := request.scalars } := by
      refine collect_fieldTlvs (by decide) (fun field hfield => ?_)
        (length_lt_of_le (GetReservationsRequest.Sendable.length_payload_le h))
      cases field <;> first | rfl | exact absurd (by decide) hfield
    have hread : decodeGetReservationsRequest frame =
        .ok (Header.read .getReservationsRequest correlationId request.payload, request) :=
      decodeGetReservationsRequest_eq_ok_iff.mpr ⟨_, _, hframed, rfl, h, _, hcollect, rfl⟩
    simp only [CodecMessage.decode, decodeRequest, decodeHeader_of_framed hframed, bind,
      Except.bind, Header.read, CodecMessage.messageType] at hread ⊢
    rw [hread]
    rfl
  · have hread : decodeGetReservationsResponse frame =
        .ok (Header.read .getReservationsResponse correlationId response.payload, response) :=
      decodeGetReservationsResponse_eq_ok_iff.mpr ⟨_, _, hframed, rfl, h,
        GetReservationsResponse.Sendable.contains h⟩
    simp only [CodecMessage.decode, hread, bind, Except.bind]
    rfl

/-- The encoder of a message succeeds exactly when its fields are within their bounds and the
correlation id is a nonzero number of 64 bits, and the decoder then returns the message and a header
with its type, the correlation id and the size of the payload. -/
theorem encode_decode (message : CodecMessage) (correlationId : ℤ) :
    ((∃ bytes, message.encode correlationId = .ok bytes) ↔
      message.WithinBounds ∧ Positive 64 correlationId) ∧
    ∀ bytes, message.encode correlationId = .ok bytes →
      message.decode bytes = .ok (⟨message.messageType, correlationId, bytes.length - headerSize,
        versionMajor, versionMinor⟩, message) := by
  constructor
  · constructor
    · rintro ⟨bytes, h⟩
      obtain ⟨hbounds, hcorrelation, -⟩ := CodecMessage.encode_eq_ok_iff.mp h
      exact ⟨hbounds, hcorrelation⟩
    · rintro ⟨hbounds, hcorrelation⟩
      exact ⟨_, CodecMessage.encode_eq_ok_iff.mpr ⟨hbounds, hcorrelation, rfl⟩⟩
  · intro bytes h
    obtain ⟨hbounds, hcorrelation, rfl⟩ := CodecMessage.encode_eq_ok_iff.mp h
    have hframed : Framed message.messageType correlationId.toNat message.payload _ :=
      framed_frameBytes hcorrelation hbounds.length_payload_le
    have hlength := hframed.length
    rw [hbounds.decode hframed, Header.read, Int.toNat_of_nonneg hcorrelation.inWidth.1, hlength]
    simp

/-- A heterogeneous component that asks for two services. -/
def sampleMessage : ReserveRequest where
  requestId := 7
  clusterName := "cluster"
  canonicalJobId := 42
  jobUid := 1000
  jobGid := 1000
  workload := some ⟨.hybrid, 60000000000, 3, 5, 100, 1000, none, some 0, some 9⟩
  serviceIds := ["qpu-a", "qpu-b"]
  heteroJobId := some 42
  heteroComponent := some 1

/-- The request goes over the wire and comes back. -/
theorem encode_decode_sample :
    ∃ bytes, (CodecMessage.ofRequest (.reserve sampleMessage)).encode 9 = .ok bytes ∧
      (CodecMessage.ofRequest (.reserve sampleMessage)).decode bytes =
        .ok (⟨.reserveRequest, 9, bytes.length - headerSize, versionMajor, versionMinor⟩,
          .ofRequest (.reserve sampleMessage)) := by
  have hbounds : (CodecMessage.ofRequest (.reserve sampleMessage)).WithinBounds :=
    ⟨rfl, validateReserveRequest_eq_ok_iff.mp (by decide +kernel)⟩
  obtain ⟨bytes, h⟩ := (encode_decode (.ofRequest (.reserve sampleMessage)) 9).1.mpr
    ⟨hbounds, by decide⟩
  exact ⟨bytes, h, (encode_decode (.ofRequest (.reserve sampleMessage)) 9).2 bytes h⟩

end QfwSlurm
