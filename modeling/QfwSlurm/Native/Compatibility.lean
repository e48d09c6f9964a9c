import QfwSlurm.Native.Languages

/-!
# Forward compatibility

No decoder, native or Python, sees a difference between a frame and what a later version of the
protocol may make of it: its fields in another order, and optional fields of unknown types between
them and in the containers (`decoders_forward_compatible`).  What a decoder accepts it accepts
afterwards, with the same value, and what it refuses it refuses.
-/

namespace QfwSlurm

open Wire Native

/-! ### Containers -/

/-- A decoder of containers that looks at the scalar fields only reads the same from containers with
the same scalar fields. -/
lemma element_congr {ε β : Type} {element : List UInt8 → Except ε β} {good : β → Prop}
    {scalars : β → Scalars}
    (helement : ∀ bytes item, element bytes = .ok item ↔
      good item ∧ ∃ collected, collect bytes [] = .ok collected ∧
        collected.scalar = scalars item)
    (hnone : ∀ item, ∀ container ∈ containerFields, scalars item container = none)
    {bytes bytes' : List UInt8} (h : SameScalars bytes bytes') (item : β) :
    element bytes = .ok item → element bytes' = .ok item := by
  rw [helement, helement, h (scalars item) (hnone item)]
  exact id

/-- Containers with the same scalar fields in turn are read alike. -/
lemma forall₂_decodes_congr {ε β : Type} {element : List UInt8 → Except ε β}
    (hcongr : ∀ bytes bytes', SameScalars bytes bytes' →
      ∀ item, element bytes = .ok item → element bytes' = .ok item)
    {values values' : List (List UInt8)} (h : List.Forall₂ SameScalars values values')
    {items : List β} (heach : List.Forall₂ (fun bytes item => element bytes = .ok item) values items) :
    List.Forall₂ (fun bytes item => element bytes = .ok item) values' items := by
  induction h generalizing items with
  | nil => exact heach
  | cons hfirst _ ih =>
    cases heach with
    | cons hitem hitems => exact .cons (hcongr _ _ hfirst _ hitem) (ih hitems)

section Modified

variable {payload payload' : List UInt8} {container : Field}

/-- A modified payload carries the same. -/
lemma Modified.carries_iff {β : Type} {element : List UInt8 → Except Status β}
    (h : Modified [container] payload payload') (hlength : payload'.length < 256 ^ 4)
    (hcongr : ∀ bytes bytes', SameScalars bytes bytes' →
      ∀ item, element bytes = .ok item → element bytes' = .ok item)
    {scalars : Scalars} (hnone : ∀ container ∈ containerFields, scalars container = none)
    (items : List β) :
    Carries container element payload scalars items ↔
      Carries container element payload' scalars items := by
  refine h.collect hlength hnone
    (fun groups => Decodes element (groups container) items)
    fun groups groups' hsame hdecodes => ⟨?_, hdecodes.count⟩
  exact forall₂_decodes_congr hcongr (hsame container List.mem_cons_self) hdecodes.each

/-- A modified payload contains the same. -/
lemma Modified.contains_iff {β : Type} {decode : List UInt8 → Except PyError β}
    (h : Modified [container] payload payload') (hlength : payload'.length < 256 ^ 4)
    (hcongr : ∀ bytes bytes', SameScalars bytes bytes' →
      ∀ item, decode bytes = .ok item → decode bytes' = .ok item)
    {scalars : Scalars} (hnone : ∀ container ∈ containerFields, scalars container = none)
    (items : List β) :
    Contains container decode payload scalars items ↔
      Contains container decode payload' scalars items :=
  h.collect hlength hnone
    (fun groups =>
      List.Forall₂ (fun bytes item => decode bytes = .ok item) (groups container) items)
    fun _ _ hsame heach => forall₂_decodes_congr hcongr (hsame container List.mem_cons_self) heach

/-- From a modified payload without containers the same scalar fields are collected. -/
lemma Modified.scalars_iff (h : Modified [] payload payload') (hlength : payload'.length < 256 ^ 4)
    {scalars : Scalars} (hnone : ∀ container ∈ containerFields, scalars container = none) :
    (∃ collected, QfwSlurm.collect payload [] = .ok collected ∧ collected.scalar = scalars) ↔
      ∃ collected, QfwSlurm.collect payload' [] = .ok collected ∧ collected.scalar = scalars := by
  have hcollect := h.collect hlength hnone (fun _ => True) fun _ _ _ _ => trivial
  simpa only [and_true] using hcollect

end Modified

/-! ### The decoders -/

/-- The containers that are repeated in messages of a type. -/
def MessageType.containers : MessageType → List Field
  | .reserveRequest | .evaluateRequest => [.serviceRequest]
  | .reserveResponse | .evaluateResponse => [.serviceResult]
  | .releaseResponse => [.releaseResult]
  | .getReservationsResponse => [.reservation]
  | .releaseRequest | .getReservationsRequest | .errorResponse => []

/-- The header of a frame with a payload of another size. -/
def Native.QsgpHeader.resize (size : ℕ) (header : QsgpHeader) : QsgpHeader :=
  { header with payloadSize := size }

/-- The header of a frame with a payload of another size. -/
def Header.resize (size : ℕ) (header : Header) : Header := { header with payloadSize := size }

/-- The result of a decoder for a frame whose payload has another size. -/
def resized {α β : Type} (resize : α → α) (result : Option (α × β)) : Option (α × β) :=
  result.map fun (header, value) => (resize header, value)

/-- What a native decoder returns for a rewritten frame. -/
lemma Rewritten.native {β : Type} {repeated : List Field} {data data' : List UInt8}
    (h : Rewritten repeated data data') {decode : List UInt8 → Except Status (QsgpHeader × β)}
    {messageType : MessageType} {good : List UInt8 → β → Prop}
    (hdecode : ∀ {data header value}, decode data = .ok (header, value) ↔
      ∃ correlationId payload, Framed messageType correlationId payload data ∧
        header = .read messageType correlationId payload ∧ good payload value)
    (hgood : ∀ payload payload', Modified repeated payload payload' → payload'.length < 256 ^ 4 →
      ∀ value, good payload value ↔ good payload' value) (kind : β → NativeMessage) :
    (readAs kind (decode data')).toOption =
      resized (QsgpHeader.resize (data'.length - headerSize))
        (readAs kind (decode data)).toOption := by
  have hsame := h.decode (fun data => (decode data).toOption) QsgpHeader.resize
    (fun data header value => toOption_eq_some_iff.trans hdecode) (fun _ _ _ => rfl) hgood
  cases hread : decode data with
  | error status =>
    cases hread' : decode data' with
    | error status' => rfl
    | ok result =>
      simp only [hread, hread', Except.toOption] at hsame
      cases hsame
  | ok result =>
    simp only [hread, Except.toOption, Option.map_some] at hsame
    rw [readAs, readAs, toOption_eq_some_iff.mp hsame]
    rfl

/-- What a Python decoder returns for a rewritten frame. -/
lemma Rewritten.python {β : Type} {repeated : List Field} {data data' : List UInt8}
    (h : Rewritten repeated data data') {decode : List UInt8 → Except PyError (Header × β)}
    {messageType : MessageType} {good : List UInt8 → β → Prop}
    (hdecode : ∀ {data header value}, decode data = .ok (header, value) ↔
      ∃ correlationId payload, Framed messageType correlationId payload data ∧
        header = .read messageType correlationId payload ∧ good payload value)
    (hgood : ∀ payload payload', Modified repeated payload payload' → payload'.length < 256 ^ 4 →
      ∀ value, good payload value ↔ good payload' value) (message : β → CodecMessage) :
    ((decode data').map fun (header, value) => (header, message value)).toOption =
      resized (Header.resize (data'.length - headerSize))
        ((decode data).map fun (header, value) => (header, message value)).toOption := by
  have hsame := h.decode (fun data => (decode data).toOption) Header.resize
    (fun data header value => toOption_eq_some_iff.trans hdecode) (fun _ _ _ => rfl) hgood
  cases hread : decode data with
  | error failure =>
    cases hread' : decode data' with
    | error failure' => rfl
    | ok result =>
      simp only [hread, hread', Except.toOption] at hsame
      cases hsame
  | ok result =>
    simp only [hread, Except.toOption, Option.map_some] at hsame
    rw [toOption_eq_some_iff.mp hsame]
    rfl

section Good

variable {payload payload' : List UInt8}

/-- A modified payload is that of the same admission request, as the native decoders read it. -/
lemma Modified.native_request_iff (h : Modified [.serviceRequest] payload payload')
    (hlength : payload'.length < 256 ^ 4) (request : QsgpReserveRequest) :
    Carries .serviceRequest serviceRequestElement payload request.scalars request.serviceIds ↔
      Carries .serviceRequest serviceRequestElement payload' request.scalars
        request.serviceIds := by
  refine h.carries_iff hlength (fun bytes bytes' hsame => ?_) ?_ request.serviceIds
  · exact element_congr (fun _ _ => serviceRequestElement_eq_ok_iff)
      (fun serviceId => by simp [containerFields, serviceScalars]) hsame
  · simp [containerFields, QsgpReserveRequest.scalars]

/-- A modified payload is that of the same admission response. -/
lemma Modified.native_response_iff (h : Modified [.serviceResult] payload payload')
    (hlength : payload'.length < 256 ^ 4) (reserve : Bool) (response : QsgpReserveResponse) :
    Carries .serviceResult (serviceResultElement reserve) payload response.scalars
        response.results ↔
      Carries .serviceResult (serviceResultElement reserve) payload' response.scalars
        response.results := by
  refine h.carries_iff hlength (fun bytes bytes' hsame => ?_) ?_ response.results
  · exact element_congr (fun _ _ => serviceResultElement_eq_ok_iff.trans and_assoc.symm)
      (fun result => by simp [containerFields, QsgpServiceResult.scalars]) hsame
  · simp [containerFields, QsgpReserveResponse.scalars]

/-- A modified payload is that of the same release response. -/
lemma Modified.native_release_iff (h : Modified [.releaseResult] payload payload')
    (hlength : payload'.length < 256 ^ 4) (response : QsgpReleaseResponse) :
    Carries .releaseResult releaseResultElement payload response.scalars response.results ↔
      Carries .releaseResult releaseResultElement payload' response.scalars response.results := by
  refine h.carries_iff hlength (fun bytes bytes' hsame => ?_) ?_ response.results
  · exact element_congr (fun _ _ => releaseResultElement_eq_ok_iff.trans and_assoc.symm)
      (fun result => by simp [containerFields, QsgpReleaseResult.scalars]) hsame
  · simp [containerFields, QsgpReleaseResponse.scalars]

/-- A modified payload is that of the same get-reservations response. -/
lemma Modified.native_reservations_iff (h : Modified [.reservation] payload payload')
    (hlength : payload'.length < 256 ^ 4) (response : QsgpGetReservationsResponse) :
    Carries .reservation reservationElement payload response.scalars response.reservations ↔
      Carries .reservation reservationElement payload' response.scalars
        response.reservations := by
  refine h.carries_iff hlength (fun bytes bytes' hsame => ?_) ?_
    response.reservations
  · exact element_congr (fun _ _ => reservationElement_eq_ok_iff)
      (fun reservation => by simp [containerFields, QsgpReservation.scalars]) hsame
  · simp [containerFields, QsgpGetReservationsResponse.scalars]

/-- A modified payload is that of the same admission request, as the gateway reads it. -/
lemma Modified.python_request_iff (h : Modified [.serviceRequest] payload payload')
    (hlength : payload'.length < 256 ^ 4) (request : ReserveRequest) :
    Contains .serviceRequest decodeServiceRequest payload request.scalars request.serviceIds ↔
      Contains .serviceRequest decodeServiceRequest payload' request.scalars
        request.serviceIds := by
  refine h.contains_iff hlength (fun bytes bytes' hsame => ?_)
    (fun container hcontainer => ?_) request.serviceIds
  · exact element_congr (fun _ _ => decodeServiceRequest_eq_ok_iff)
      (fun serviceId => by simp [containerFields, serviceScalars]) hsame
  · have habsent : container ∉ admissionFields := by
      revert container
      decide
    exact request.scalars_absent habsent

/-- A modified payload is that of the same get-reservations response, as the gateway reads it. -/
lemma Modified.python_reservations_iff (h : Modified [.reservation] payload payload')
    (hlength : payload'.length < 256 ^ 4) (response : GetReservationsResponse) :
    Contains .reservation decodeReservation payload response.scalars response.reservations ↔
      Contains .reservation decodeReservation payload' response.scalars
        response.reservations := by
  refine h.contains_iff hlength (fun bytes bytes' hsame => ?_) ?_
    response.reservations
  · exact element_congr (fun _ _ => decodeReservation_eq_ok_iff)
      (fun reservation => by simp [containerFields, Reservation.scalars]) hsame
  · simp [containerFields, GetReservationsResponse.scalars]

end Good

/-! ### All decoders -/

section Rewritten

variable {data data' : List UInt8}

/-- The native decoders do not see how a frame was rewritten. -/
lemma Rewritten.decodeNative {messageType : MessageType}
    (h : Rewritten messageType.containers data data') :
    (Native.decodeNative messageType data').toOption =
      resized (QsgpHeader.resize (data'.length - headerSize))
        (Native.decodeNative messageType data).toOption := by
  cases messageType with
  | evaluateRequest =>
    exact h.native qsgpDecodeEvaluateRequest_eq_ok_iff (fun _ _ hmodified hlength request =>
      and_congr_right' (and_congr_right' (hmodified.native_request_iff hlength request))) _
  | reserveRequest =>
    exact h.native qsgpDecodeReserveRequest_eq_ok_iff (fun _ _ hmodified hlength request =>
      and_congr_right' (and_congr_right' (hmodified.native_request_iff hlength request))) _
  | releaseRequest =>
    refine h.native qsgpDecodeReleaseRequest_eq_ok_iff (fun _ _ hmodified hlength request =>
      and_congr_right' (hmodified.scalars_iff hlength ?_)) _
    simp [containerFields, QsgpReleaseRequest.scalars]
  | getReservationsRequest =>
    refine h.native qsgpDecodeGetReservationsRequest_eq_ok_iff (fun _ _ hmodified hlength request =>
      and_congr_right' (hmodified.scalars_iff hlength ?_)) _
    simp [containerFields, QsgpGetReservationsRequest.scalars]
  | evaluateResponse =>
    exact h.native decodeAdmissionResponse_eq_ok_iff (fun _ _ hmodified hlength response =>
      and_congr_right' (and_congr_right'
        (hmodified.native_response_iff hlength false response))) _
  | reserveResponse =>
    exact h.native decodeAdmissionResponse_eq_ok_iff (fun _ _ hmodified hlength response =>
      and_congr_right' (and_congr_right'
        (hmodified.native_response_iff hlength true response))) _
  | releaseResponse =>
    exact h.native qsgpDecodeReleaseResponse_eq_ok_iff (fun _ _ hmodified hlength response =>
      and_congr_right' (and_congr_right' (hmodified.native_release_iff hlength response))) _
  | getReservationsResponse =>
    exact h.native qsgpDecodeGetReservationsResponse_eq_ok_iff (fun _ _ hmodified hlength response =>
      and_congr_right' (hmodified.native_reservations_iff hlength response)) _
  | errorResponse =>
    refine h.native qsgpDecodeErrorResponse_eq_ok_iff (fun _ _ hmodified hlength response =>
      and_congr_right' (and_congr_right' (hmodified.scalars_iff hlength ?_))) _
    simp [containerFields, QsgpErrorResponse.scalars]

/-- The Python decoders do not see how a frame was rewritten. -/
lemma Rewritten.decodePython {kind : SharedKind}
    (h : Rewritten kind.messageType.containers data data') :
    (kind.decodePython data').toOption =
      resized (Header.resize (data'.length - headerSize)) (kind.decodePython data).toOption := by
  have hrequest {messageType : MessageType} {data : List UInt8} {header : Header}
      {request : ReserveRequest} :
      (decodeAdmissionRequest data messageType = .ok (header, request) ∧
        request.workload.isSome = true) ↔
        ∃ correlationId payload, Framed messageType correlationId payload data ∧
          header = .read messageType correlationId payload ∧ (request.Sendable ∧
            request.workload.isSome = true) ∧
            Contains .serviceRequest decodeServiceRequest payload request.scalars
              request.serviceIds := by
    rw [decodeAdmissionRequest_eq_ok_iff]
    constructor
    · rintro ⟨⟨correlationId, payload, hframed, hheader, hsendable, hcontains⟩, hworkload⟩
      exact ⟨correlationId, payload, hframed, hheader, ⟨hsendable, hworkload⟩, hcontains⟩
    · rintro ⟨correlationId, payload, hframed, hheader, ⟨hsendable, hworkload⟩, hcontains⟩
      exact ⟨⟨correlationId, payload, hframed, hheader, hsendable, hcontains⟩, hworkload⟩
  cases kind with
  | evaluateRequest =>
    exact h.python (decodeEvaluateRequest_eq_ok_iff.trans hrequest)
      (fun _ _ hmodified hlength request =>
        and_congr_right' (hmodified.python_request_iff hlength request.toReserveRequest))
      fun request => .ofRequest (.evaluate request)
  | reserveRequest =>
    exact h.python (decodeReserveRequest_eq_ok_iff.trans hrequest)
      (fun _ _ hmodified hlength request =>
        and_congr_right' (hmodified.python_request_iff hlength request))
      fun request => .ofRequest (.reserve request)
  | releaseRequest =>
    refine h.python decodeReleaseRequest_eq_ok_iff (fun _ _ hmodified hlength request =>
      and_congr_right' (hmodified.scalars_iff hlength ?_))
      fun request => .ofRequest (.release request)
    simp [containerFields, ReleaseRequest.scalars]
  | getReservationsRequest =>
    refine h.python decodeGetReservationsRequest_eq_ok_iff (fun _ _ hmodified hlength request =>
      and_congr_right' (hmodified.scalars_iff hlength ?_))
      fun request => .ofRequest (.getReservations request)
    simp [containerFields, GetReservationsRequest.scalars]
  | getReservationsResponse =>
    exact h.python decodeGetReservationsResponse_eq_ok_iff (fun _ _ hmodified hlength response =>
      and_congr_right' (hmodified.python_reservations_iff hlength response)) .ofResponse

end Rewritten

/-- For every kind of message and every decoder of that kind: a frame whose fields were permuted, the
repeated containers staying in order, and into which unknown optional fields were inserted, at any
place and depth, is accepted when the frame is, with the same value and, but for the size of the
payload, the same header. -/
theorem decoders_forward_compatible (messageType : MessageType) (data data' : List UInt8)
    (h : Rewritten messageType.containers data data') :
    (decodeNative messageType data').toOption =
      resized (QsgpHeader.resize (data'.length - headerSize))
        (decodeNative messageType data).toOption ∧
    ∀ kind : SharedKind, kind.messageType = messageType →
      (kind.decodePython data').toOption =
        resized (Header.resize (data'.length - headerSize)) (kind.decodePython data).toOption := by
  refine ⟨h.decodeNative, ?_⟩
  rintro kind rfl
  exact h.decodePython

/-- A field of a later version. -/
def laterField : Tlv := ⟨0x0100, 0, [1, 2, 3]⟩

lemma unknown_laterField : Unknown laterField := ⟨⟨by decide, by decide, by decide⟩, rfl, by decide⟩

/-- The fields of a request, its services first, with a later field in front and one in the first
service. -/
def laterTlvs : List Tlv :=
  laterField ::
    Field.serviceRequest.tlv (encodeAll [laterField, Field.serviceId.tlv (utf8 "qpu-a")]) ::
    Field.serviceRequest.tlv (encodeAll [Field.serviceId.tlv (utf8 "qpu-b")]) ::
    fieldTlvs admissionFields sampleMessage.scalars

/-- The decoders read the request as before. -/
theorem decoders_forward_compatible_sample :
    ∃ header, (decodeNative .reserveRequest
        (frameBytes .reserveRequest 9 sampleMessage.payload)).toOption =
          some (header, .reserveRequest sampleMessage.native) ∧
      (decodeNative .reserveRequest
        (frameBytes .reserveRequest 9 (encodeAll laterTlvs))).toOption =
          some (header.resize (encodeAll laterTlvs).length,
            .reserveRequest sampleMessage.native) := by
  have hmodified : Modified [.serviceRequest] sampleMessage.payload (encodeAll laterTlvs) := by
    have hwritten : Encodes sampleMessage.payload sampleTlvs := ⟨by decide +kernel, rfl⟩
    have horder : ∀ container ∈ [Field.serviceRequest],
        ((Field.serviceRequest.tlv (encodeAll [Field.serviceId.tlv (utf8 "qpu-a")]) ::
          Field.serviceRequest.tlv (encodeAll [Field.serviceId.tlv (utf8 "qpu-b")]) ::
          fieldTlvs admissionFields sampleMessage.scalars).filter
            (·.type = container.code)) = sampleTlvs.filter (·.type = container.code) := by
      decide +kernel
    refine .intro hwritten List.perm_append_comm horder (.insert unknown_laterField ?_) rfl
    exact .inside ⟨.serviceRequest, by decide, rfl⟩
      (show ∀ field ∈ [Field.serviceId.tlv (utf8 "qpu-a")], Legible field by decide +kernel) rfl
      (.insert unknown_laterField (.refl _)) (.refl _)
  have hrewritten : Rewritten MessageType.reserveRequest.containers
      (frameBytes .reserveRequest 9 sampleMessage.payload)
      (frameBytes .reserveRequest 9 (encodeAll laterTlvs)) := by
    have hfront : (headerFront .reserveRequest 9).length = 24 := by decide +kernel
    have hback : (bigEndian 4 0).length = 4 := by decide +kernel
    exact .intro hfront hback hmodified (frameBytes_eq_reframe _ _ _) (frameBytes_eq_reframe _ _ _)
      (by decide +kernel)
  obtain ⟨hsame, -⟩ := decoders_forward_compatible .reserveRequest _ _ hrewritten
  have hread : (decodeNative .reserveRequest
      (frameBytes .reserveRequest 9 sampleMessage.payload)).toOption =
        some (.read .reserveRequest 9 sampleMessage.payload,
          .reserveRequest sampleMessage.native) := by
    decide +kernel
  refine ⟨_, hread, ?_⟩
  rw [hsame, hread, length_frameBytes]
  simp [resized]

end QfwSlurm
