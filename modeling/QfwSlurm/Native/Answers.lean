import QfwSlurm.Native.Values

/-!
# The native client understands every answer

Whatever response the gateway encodes, the decoder of its kind in `src/protocol/qsgp_decode.c`
returns the C value of the response: the same request id, decision, results and optional fields.
-/

namespace QfwSlurm

open Wire Native

/-- The type in the header of a response. -/
def Response.messageType : Response → MessageType
  | .evaluate _ => .evaluateResponse
  | .reserve _ => .reserveResponse
  | .release _ => .releaseResponse
  | .getReservations _ => .getReservationsResponse
  | .error _ => .errorResponse

/-- The C value of a response. -/
def Response.native : Response → NativeMessage
  | .evaluate response => .evaluateResponse response.toReserveResponse.native
  | .reserve response => .reserveResponse response.native
  | .release response => .releaseResponse (receivedRelease response)
  | .getReservations response => .getReservationsResponse response.native
  | .error response => .errorResponse response.native

/-! ### One kind at a time -/

lemma ServiceResult.item_native (result : ServiceResult) : result.native.item = result.item := by
  rw [QsgpServiceResult.item, ServiceResult.item, result.scalars_native]

/-- An admission response and its C value are written alike. -/
lemma ReserveResponse.payload_native (response : ReserveResponse) :
    response.native.payload = response.payload := by
  have hitems : response.native.results.map QsgpServiceResult.item =
      response.results.map ServiceResult.item := by
    rw [ReserveResponse.native, List.map_map]
    exact List.map_congr_left fun result _ => result.item_native
  rw [QsgpReserveResponse.payload, ReserveResponse.payload, response.scalars_native, hitems]

/-- A get-reservations response and its C value are written alike. -/
lemma GetReservationsResponse.payload_native (response : GetReservationsResponse) :
    response.native.payload = response.payload := by
  have hitems : response.native.reservations.map QsgpReservation.item =
      response.reservations.map Reservation.item := by
    rw [GetReservationsResponse.native, List.map_map]
    refine List.map_congr_left fun reservation _ => ?_
    rw [Function.comp_apply, QsgpReservation.item, Reservation.item, reservation.scalars_native]
  rw [QsgpGetReservationsResponse.payload, GetReservationsResponse.payload,
    response.scalars_native, hitems]

section Framed

variable {correlationId : ℕ} {data : List UInt8}

lemma ReserveResponse.Sendable.decode {reserve : Bool} {response : ReserveResponse}
    (h : response.Sendable reserve) {messageType : MessageType}
    (hframed : Framed messageType correlationId response.payload data) :
    Native.decodeAdmissionResponse data messageType reserve =
      .ok (.read messageType correlationId response.payload, response.native) := by
  have hcarries := h.native.carries
  rw [response.normalize_native, response.payload_native] at hcarries
  exact decodeAdmissionResponse_eq_ok_iff.mpr
    ⟨_, _, hframed, rfl, h.native, response.normalize_native, hcarries⟩

lemma GetReservationsResponse.Sendable.decode {response : GetReservationsResponse}
    (h : response.Sendable)
    (hframed : Framed .getReservationsResponse correlationId response.payload data) :
    qsgpDecodeGetReservationsResponse data =
      .ok (.read .getReservationsResponse correlationId response.payload, response.native) := by
  have hcarries := h.native.carries
  rw [response.payload_native] at hcarries
  exact qsgpDecodeGetReservationsResponse_eq_ok_iff.mpr ⟨_, _, hframed, rfl, h.native, hcarries⟩

lemma ErrorResponse.Sendable.decode {response : ErrorResponse} (h : response.Sendable)
    (hframed : Framed .errorResponse correlationId response.payload data) :
    qsgpDecodeErrorResponse data =
      .ok (.read .errorResponse correlationId response.payload, response.native) := by
  have hcollect : collect response.payload [] = .ok { scalar := response.scalars } := by
    refine collect_fieldTlvs (by decide) (fun field hfield => ?_)
      (length_lt_of_le h.length_payload_le)
    cases field <;> first | rfl | exact absurd (by decide) hfield
  exact qsgpDecodeErrorResponse_eq_ok_iff.mpr
    ⟨_, _, hframed, rfl, h.native, response.normalize_native, _, hcollect,
      response.scalars_native.symm⟩

end Framed

/-! ### All kinds -/

/-- A response that the gateway encodes fits a frame, and the native decoder of its kind returns the
C value of the response, with the type, the correlation id and the size of the payload in the
header. -/
theorem encodeResponse_understood {response : Response} {correlationId : ℤ} {bytes : List UInt8}
    (h : encodeResponse response correlationId = .ok bytes) :
    bytes.length ≤ maxFrameSize ∧
      decodeNative response.messageType bytes = .ok
        (⟨versionMajor, versionMinor, response.messageType.code, 0, correlationId.toNat,
          bytes.length - headerSize⟩, response.native) := by
  have hread {messageType : MessageType} {payload : List UInt8}
      (hcorrelation : Positive 64 correlationId)
      (hsize : payload.length ≤ maxFrameSize - headerSize)
      (hbytes : frameBytes messageType correlationId.toNat payload = bytes) :
      bytes.length ≤ maxFrameSize ∧ Framed messageType correlationId.toNat payload bytes ∧
        (⟨versionMajor, versionMinor, messageType.code, 0, correlationId.toNat,
          bytes.length - headerSize⟩ : QsgpHeader) =
          .read messageType correlationId.toNat payload := by
    subst hbytes
    have hframed : Framed messageType correlationId.toNat payload _ :=
      framed_frameBytes hcorrelation hsize
    have hlength := length_frameBytes messageType correlationId.toNat payload
    refine ⟨?_, hframed, ?_⟩
    · rw [hlength]
      simp only [maxFrameSize, headerSize] at hsize ⊢
      omega
    · simp [QsgpHeader.read, hlength]
  cases response with
  | evaluate response =>
    obtain ⟨hsendable, hcorrelation, hbytes⟩ := encodeEvaluateResponse_eq_ok_iff.mp h
    obtain ⟨hsize, hframed, hheader⟩ := hread hcorrelation hsendable.length_payload_le hbytes
    rw [Response.messageType, hheader]
    exact ⟨hsize, readAs_eq_ok (hsendable.decode hframed)⟩
  | reserve response =>
    obtain ⟨hsendable, hcorrelation, hbytes⟩ := encodeReserveResponse_eq_ok_iff.mp h
    obtain ⟨hsize, hframed, hheader⟩ := hread hcorrelation hsendable.length_payload_le hbytes
    rw [Response.messageType, hheader]
    exact ⟨hsize, readAs_eq_ok (hsendable.decode hframed)⟩
  | release response =>
    obtain ⟨hsendable, hcorrelation, hbytes⟩ := encodeReleaseResponse_eq_ok_iff.mp h
    obtain ⟨hsize, -, hheader⟩ := hread hcorrelation hsendable.length_tlvs_le hbytes
    rw [Response.messageType, hheader]
    exact ⟨hsize, readAs_eq_ok (qsgpDecodeReleaseResponse_encode h)⟩
  | getReservations response =>
    obtain ⟨hsendable, hcorrelation, hbytes⟩ := encodeGetReservationsResponse_eq_ok_iff.mp h
    obtain ⟨hsize, hframed, hheader⟩ := hread hcorrelation hsendable.length_payload_le hbytes
    rw [Response.messageType, hheader]
    exact ⟨hsize, readAs_eq_ok (hsendable.decode hframed)⟩
  | error response =>
    obtain ⟨hsendable, hcorrelation, hbytes⟩ := encodeErrorResponse_eq_ok_iff.mp h
    obtain ⟨hsize, hframed, hheader⟩ := hread hcorrelation hsendable.length_payload_le hbytes
    rw [Response.messageType, hheader]
    exact ⟨hsize, readAs_eq_ok (hsendable.decode hframed)⟩

/-- A rejected request, with one service that was asked and one that would have been delayed. -/
def sampleResponse : Response :=
  .reserve
    { requestId := 7
      decision := .rejected
      results := [
        { serviceId := "qpu-a", decision := .delayed, reasonCode := 3, retryAfterNs := some 0 },
        { serviceId := "qpu-b", decision := .rejected, reasonCode := 4,
          diagnostic := some "calibrating" }] }

/-- The client reads both results, the delay of zero as a delay. -/
theorem encodeResponse_understood_sample :
    ∃ bytes, encodeResponse sampleResponse 9 = .ok bytes ∧ bytes.length ≤ maxFrameSize ∧
      decodeNative .reserveResponse bytes = .ok
        (⟨versionMajor, versionMinor, MessageType.reserveResponse.code, 0, 9,
          bytes.length - headerSize⟩, sampleResponse.native) := by
  obtain ⟨bytes, hencode⟩ : ∃ bytes, encodeResponse sampleResponse 9 = .ok bytes :=
    exists_eq_ok_of_toBool (by decide +kernel)
  obtain ⟨hsize, hdecode⟩ := encodeResponse_understood hencode
  exact ⟨bytes, hencode, hsize, hdecode⟩

end QfwSlurm
