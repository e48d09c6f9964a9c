import QfwSlurm.Native.Counterparts
import QfwSlurm.Protocol.Rewriting

/-!
# The decoders accept the same language

The native decoders of `src/protocol/qsgp_decode.c` and the Python decoders of
`gateway/qfw_slurm_gateway/protocol.py` test a frame in different orders and by different means.  On
frames whose texts are UTF-8 and whose heterogeneous job id is not zero (the native decoders look at
neither) they accept the same frames and return the same values (`decoders_agree`): both accept
exactly the frames with the contents of a value within its bounds.
-/

namespace QfwSlurm

open Wire Native

/-! ### Frames on which the decoders can be compared -/

/-- The fields whose values are texts. -/
def textFields : List Field := [.clusterName, .serviceId, .diagnostic, .qpmRuntimeId]

/-- The text fields of a byte string are UTF-8. -/
def TextualFields (bytes : List UInt8) : Prop :=
  ∀ tlvs, Encodes bytes tlvs → ∀ field ∈ textFields, ∀ value ∈ occurrences tlvs field.code,
    Textual value

/-- A payload whose text fields, also those in containers, are UTF-8 and whose heterogeneous job id,
if present, is not zero. -/
structure Comparable (payload : List UInt8) : Prop where
  texts : TextualFields payload
  nested : ∀ tlvs, Encodes payload tlvs → ∀ container ∈ containerFields,
    ∀ value ∈ occurrences tlvs container.code, TextualFields value
  hetero : ∀ tlvs, Encodes payload tlvs →
    ∀ value ∈ occurrences tlvs Field.heteroJobId.code, value ≠ bigEndian 8 0

/-- A value that was collected occurs in the payload. -/
lemma exists_occurrence_of_scalar {payload value : List UInt8} {repeated : List Field}
    {collected : Collected} (h : collect payload repeated = .ok collected) {field : Field}
    (hvalue : collected.scalar field = some value) :
    ∃ tlvs, Encodes payload tlvs ∧ value ∈ occurrences tlvs field.code := by
  obtain ⟨tlvs, hlegible, hpayload, -, rfl⟩ := collect_eq_ok_iff.mp h
  refine ⟨tlvs, ⟨hlegible, hpayload⟩, ?_⟩
  by_cases hrepeated : field ∈ repeated
  · simp [gathered, hrepeated] at hvalue
  · simp only [gathered, if_neg hrepeated] at hvalue
    exact List.mem_of_mem_head? hvalue

/-- A container that was collected occurs in the payload. -/
lemma exists_occurrence_of_group {payload value : List UInt8} {repeated : List Field}
    {collected : Collected} (h : collect payload repeated = .ok collected) {field : Field}
    (hvalue : value ∈ collected.groups field) :
    ∃ tlvs, Encodes payload tlvs ∧ value ∈ occurrences tlvs field.code := by
  obtain ⟨tlvs, hlegible, hpayload, -, rfl⟩ := collect_eq_ok_iff.mp h
  refine ⟨tlvs, ⟨hlegible, hpayload⟩, ?_⟩
  by_cases hrepeated : field ∈ repeated
  · simpa [gathered, hrepeated] using hvalue
  · simp [gathered, hrepeated] at hvalue

lemma TextualFields.textual {bytes value : List UInt8} (h : TextualFields bytes)
    {repeated : List Field} {collected : Collected}
    (hcollect : collect bytes repeated = .ok collected) (field : Field) (hfield : field ∈ textFields)
    (hvalue : collected.scalar field = some value) : Textual value := by
  obtain ⟨tlvs, hencodes, hmem⟩ := exists_occurrence_of_scalar hcollect hvalue
  exact h tlvs hencodes field hfield value hmem

lemma Comparable.nested_textual {payload value : List UInt8} (h : Comparable payload)
    {repeated : List Field} {collected : Collected}
    (hcollect : collect payload repeated = .ok collected) {container : Field}
    (hcontainer : container ∈ containerFields) (hvalue : value ∈ collected.groups container) :
    TextualFields value := by
  obtain ⟨tlvs, hencodes, hmem⟩ := exists_occurrence_of_group hcollect hvalue
  exact h.nested tlvs hencodes container hcontainer value hmem

/-! ### Containers -/

/-- A service request is read alike. -/
lemma serviceRequestElement_iff {bytes : List UInt8} {serviceId : String} :
    serviceRequestElement bytes = .ok (utf8 serviceId) ↔
      decodeServiceRequest bytes = .ok serviceId := by
  rw [serviceRequestElement_eq_ok_iff, decodeServiceRequest_eq_ok_iff, textFits_iff]

/-- The service that a service request with a UTF-8 name names is a text. -/
lemma textual_of_serviceRequestElement {bytes serviceId : List UInt8} (h : TextualFields bytes)
    (hread : serviceRequestElement bytes = .ok serviceId) : Textual serviceId := by
  obtain ⟨-, collected, hcollect, hscalar⟩ := serviceRequestElement_eq_ok_iff.mp hread
  exact h.textual hcollect .serviceId (by decide) (by rw [hscalar]; rfl)

lemma reservation_sendable_iff {reservation : Reservation} (h : 0 ≤ reservation.reservationId) :
    reservation.native.Sendable ↔ reservation.Sendable := by
  refine ⟨fun hsendable => ⟨textFits_iff.mpr hsendable.serviceId, ?_⟩,
    fun hsendable => hsendable.native⟩
  have hid := hsendable.reservationId
  rw [← positive_natCast] at hid
  rwa [show ((reservation.native.reservationId : ℕ) : ℤ) = reservation.reservationId from
    Int.toNat_of_nonneg h] at hid

/-- A reservation is read alike. -/
lemma reservationElement_iff {bytes : List UInt8} {reservation : Reservation}
    (h : 0 ≤ reservation.reservationId) :
    reservationElement bytes = .ok reservation.native ↔
      decodeReservation bytes = .ok reservation := by
  rw [reservationElement_eq_ok_iff, decodeReservation_eq_ok_iff, reservation_sendable_iff h,
    reservation.scalars_native]

/-- A reservation with a UTF-8 name is the C value of a reservation. -/
lemma exists_reservation {bytes : List UInt8} {reservation : QsgpReservation}
    (h : TextualFields bytes) (hread : reservationElement bytes = .ok reservation) :
    ∃ found : Reservation, found.native = reservation ∧ 0 ≤ found.reservationId := by
  obtain ⟨-, collected, hcollect, hscalar⟩ := reservationElement_eq_ok_iff.mp hread
  have htextual : Textual reservation.serviceId :=
    h.textual hcollect .serviceId (by decide) (by rw [hscalar]; rfl)
  obtain ⟨serviceId, hservice⟩ := htextual.exists_text
  refine ⟨⟨serviceId, reservation.reservationId⟩, ?_, by simp⟩
  simp [Reservation.native, decodeUtf8_eq_some_iff.mp hservice]

/-- Containers whose elements are read alike carry and contain the same. -/
lemma carries_iff_contains {α β : Type} {container : Field}
    {element : List UInt8 → Except Status β} {decode : List UInt8 → Except PyError α}
    {native : α → β} {payload : List UInt8} {scalars : Scalars} {items : List α}
    (helement : ∀ item ∈ items, ∀ bytes, element bytes = .ok (native item) ↔
      decode bytes = .ok item) (hcount : items.length ≤ maxServices) :
    Carries container element payload scalars (items.map native) ↔
      Contains container decode payload scalars items := by
  have heach (values : List (List UInt8)) :
      Decodes element values (items.map native) ↔
        List.Forall₂ (fun bytes item => decode bytes = .ok item) values items := by
    have hforall : List.Forall₂ (fun bytes item => element bytes = .ok item) values
        (items.map native) ↔
          List.Forall₂ (fun bytes item => decode bytes = .ok item) values items := by
      rw [List.forall₂_map_right_iff]
      induction items generalizing values with
      | nil => cases values <;> simp
      | cons item items ih =>
        cases values with
        | nil => simp
        | cons bytes values =>
          obtain ⟨hitem, hitems⟩ := List.forall_mem_cons.mp helement
          rw [List.length_cons] at hcount
          rw [List.forall₂_cons, List.forall₂_cons, hitem bytes,
            ih hitems (by omega) values]
    rw [← hforall]
    exact ⟨fun h => h.each, fun h => ⟨h, by rwa [List.length_map]⟩⟩
  simp only [Carries, Contains, heach]

/-- Every item was read from one of the containers. -/
lemma exists_value_of_mem {β : Type} {element : List UInt8 → Except Status β}
    {values : List (List UInt8)} {items : List β}
    (h : List.Forall₂ (fun bytes item => element bytes = .ok item) values items) {item : β}
    (hmem : item ∈ items) : ∃ bytes ∈ values, element bytes = .ok item := by
  obtain ⟨index, hindex, rfl⟩ := List.mem_iff_getElem.mp hmem
  have hlength : index < values.length := by rwa [h.length_eq]
  exact ⟨values[index], List.getElem_mem hlength, h.get hlength hindex⟩

/-- Reservations that are each the C value of a reservation are so together. -/
lemma exists_reservations {reservations : List QsgpReservation}
    (h : ∀ reservation ∈ reservations,
      ∃ found : Reservation, found.native = reservation ∧ 0 ≤ found.reservationId) :
    ∃ found : List Reservation, found.map Reservation.native = reservations ∧
      ∀ reservation ∈ found, 0 ≤ reservation.reservationId := by
  induction reservations with
  | nil => exact ⟨[], rfl, by simp⟩
  | cons reservation reservations ih =>
    obtain ⟨hhead, htail⟩ := List.forall_mem_cons.mp h
    obtain ⟨first, rfl, hfirst⟩ := hhead
    obtain ⟨rest, rfl, hrest⟩ := ih htail
    exact ⟨first :: rest, rfl, List.forall_mem_cons.mpr ⟨hfirst, hrest⟩⟩

/-! ### One kind at a time -/

/-- The C value of a header. -/
def Header.native (header : Header) : QsgpHeader where
  majorVersion := header.majorVersion.toNat
  minorVersion := header.minorVersion.toNat
  messageType := header.messageType.code
  flags := 0
  correlationId := header.correlationId.toNat
  payloadSize := header.payloadSize.toNat

lemma Header.native_read (messageType : MessageType) (correlationId : ℕ) (payload : List UInt8) :
    (Header.read messageType correlationId payload).native =
      QsgpHeader.read messageType correlationId payload := by
  simp [Header.native, Header.read, QsgpHeader.read]

/-! ### What the Python decoders accept -/

section Accepted

variable {data : List UInt8} {read : Header}

/-- An admission request that the Python decoder reads is read by the native decoder. -/
lemma admission_request_native {messageType : MessageType} {found : ReserveRequest}
    (hdecode : decodeAdmissionRequest data messageType = .ok (read, found))
    (hworkload : found.workload.isSome = true) :
    ∃ correlationId payload, Framed messageType correlationId payload data ∧
      read.native = .read messageType correlationId payload ∧ found.native.Sendable ∧
        found.native.normalize = found.native ∧
          Carries .serviceRequest serviceRequestElement payload found.native.scalars
            found.native.serviceIds := by
  obtain ⟨correlationId, payload, hframed, rfl, hbounds, hcontains⟩ :=
    decodeAdmissionRequest_eq_ok_iff.mp hdecode
  refine ⟨correlationId, payload, hframed, Header.native_read _ _ _, hbounds.native hworkload,
    found.normalize_native, ?_⟩
  rw [found.scalars_native]
  exact (carries_iff_contains (fun _ _ _ => serviceRequestElement_iff) hbounds.count.2).mpr
    hcontains

lemma reserve_request_native {found : ReserveRequest}
    (h : decodeReserveRequest data = .ok (read, found)) :
    qsgpDecodeReserveRequest data = .ok (read.native, found.native) := by
  obtain ⟨hdecode, hworkload⟩ := decodeReserveRequest_eq_ok_iff.mp h
  exact qsgpDecodeReserveRequest_eq_ok_iff.mpr (admission_request_native hdecode hworkload)

lemma evaluate_request_native {found : EvaluateRequest}
    (h : decodeEvaluateRequest data = .ok (read, found)) :
    qsgpDecodeEvaluateRequest data = .ok (read.native, found.toReserveRequest.native) := by
  obtain ⟨hdecode, hworkload⟩ := decodeEvaluateRequest_eq_ok_iff.mp h
  exact qsgpDecodeEvaluateRequest_eq_ok_iff.mpr (admission_request_native hdecode hworkload)

lemma release_request_native {found : ReleaseRequest}
    (h : decodeReleaseRequest data = .ok (read, found)) :
    qsgpDecodeReleaseRequest data = .ok (read.native, found.native) := by
  obtain ⟨correlationId, payload, hframed, rfl, hbounds, collected, hcollect, hscalar⟩ :=
    decodeReleaseRequest_eq_ok_iff.mp h
  exact qsgpDecodeReleaseRequest_eq_ok_iff.mpr ⟨correlationId, payload, hframed,
    Header.native_read _ _ _, hbounds.native, collected, hcollect,
    hscalar.trans found.scalars_native.symm⟩

lemma getReservations_request_native {found : GetReservationsRequest}
    (h : decodeGetReservationsRequest data = .ok (read, found)) :
    qsgpDecodeGetReservationsRequest data = .ok (read.native, found.native) := by
  obtain ⟨correlationId, payload, hframed, rfl, hbounds, collected, hcollect, hscalar⟩ :=
    decodeGetReservationsRequest_eq_ok_iff.mp h
  exact qsgpDecodeGetReservationsRequest_eq_ok_iff.mpr ⟨correlationId, payload, hframed,
    Header.native_read _ _ _, hbounds.native, collected, hcollect,
    hscalar.trans found.scalars_native.symm⟩

end Accepted

section Kinds

variable {data : List UInt8} (h : Comparable (data.drop headerSize)) {header : QsgpHeader}
include h

/-- What the native decoders of admission requests read is the C value of what the Python decoders
read. -/
lemma admission_request_agrees {messageType : MessageType} {request : QsgpReserveRequest} :
    (∃ correlationId payload, Framed messageType correlationId payload data ∧
      header = .read messageType correlationId payload ∧ request.Sendable ∧
        request.normalize = request ∧
          Carries .serviceRequest serviceRequestElement payload request.scalars
            request.serviceIds) ↔
      ∃ read found, (decodeAdmissionRequest data messageType = .ok (read, found) ∧
        found.workload.isSome = true) ∧ read.native = header ∧ found.native = request := by
  simp only [decodeAdmissionRequest_eq_ok_iff]
  constructor
  · rintro ⟨correlationId, payload, hframed, rfl, hsendable, hnormal, hcarries⟩
    have hcarried := hcarries
    obtain ⟨collected, hcollect, hscalar, hservices⟩ := hcarried
    rw [← hframed.drop] at hcollect
    have hcluster : Textual request.clusterName :=
      h.texts.textual hcollect .clusterName (by decide) (by rw [hscalar]; rfl)
    have hnames : ∀ serviceId ∈ request.serviceIds, Textual serviceId := by
      intro serviceId hmem
      obtain ⟨bytes, hbytes, hread⟩ := exists_value_of_mem hservices.each hmem
      exact textual_of_serviceRequestElement (h.nested_textual hcollect (by decide) hbytes) hread
    have hhetero : request.hasHeteroJobId = true → request.heteroJobId ≠ 0 := by
      intro hhas hzero
      have hvalue : collected.scalar .heteroJobId = some (bigEndian 8 0) := by
        rw [hscalar]
        simp [QsgpReserveRequest.scalars, hhas, hzero]
      obtain ⟨tlvs, hencodes, hmem⟩ := exists_occurrence_of_scalar hcollect hvalue
      exact h.hetero tlvs hencodes _ hmem rfl
    obtain ⟨found, hfound⟩ := exists_counterpart_request hsendable hcluster hnames
    obtain ⟨hworkload, hbounds⟩ := (sendable_request_iff hfound hhetero).mpr hsendable
    have hnative : found.native = request := (native_of_counterpart hfound).trans hnormal
    refine ⟨_, found, ⟨⟨correlationId, payload, hframed, rfl, hbounds, ?_⟩, hworkload⟩,
      Header.native_read _ _ _, hnative⟩
    rw [← hnative, found.scalars_native] at hcarries
    exact (carries_iff_contains (fun _ _ _ => serviceRequestElement_iff) hbounds.count.2).mp hcarries
  · rintro ⟨read, found, ⟨hfound, hworkload⟩, rfl, rfl⟩
    exact admission_request_native (decodeAdmissionRequest_eq_ok_iff.mpr hfound) hworkload

lemma reserve_request_agrees (header : QsgpHeader) (request : QsgpReserveRequest) :
    qsgpDecodeReserveRequest data = .ok (header, request) ↔
      ∃ read found, decodeReserveRequest data = .ok (read, found) ∧ read.native = header ∧
        found.native = request := by
  rw [qsgpDecodeReserveRequest_eq_ok_iff, admission_request_agrees h]
  simp only [decodeReserveRequest_eq_ok_iff]

lemma evaluate_request_agrees (header : QsgpHeader) (request : QsgpReserveRequest) :
    qsgpDecodeEvaluateRequest data = .ok (header, request) ↔
      ∃ read found, decodeEvaluateRequest data = .ok (read, found) ∧ read.native = header ∧
        found.toReserveRequest.native = request := by
  rw [qsgpDecodeEvaluateRequest_eq_ok_iff, admission_request_agrees h]
  simp only [decodeEvaluateRequest_eq_ok_iff]
  constructor
  · rintro ⟨read, found, hfound⟩
    exact ⟨read, ⟨found⟩, hfound⟩
  · rintro ⟨read, ⟨found⟩, hfound⟩
    exact ⟨read, found, hfound⟩

lemma release_request_agrees {request : QsgpReleaseRequest} :
    qsgpDecodeReleaseRequest data = .ok (header, request) ↔
      ∃ read found, decodeReleaseRequest data = .ok (read, found) ∧ read.native = header ∧
        found.native = request := by
  simp only [qsgpDecodeReleaseRequest_eq_ok_iff, decodeReleaseRequest_eq_ok_iff]
  constructor
  · rintro ⟨correlationId, payload, hframed, rfl, hsendable, collected, hcollect, hscalar⟩
    have hcollected := hcollect
    rw [← hframed.drop] at hcollected
    obtain ⟨clusterName, hcluster⟩ := (h.texts.textual hcollected .clusterName
      (by decide) (by rw [hscalar]; rfl)).exists_text
    have hcounterpart : request.counterpart =
        some ⟨request.requestId, clusterName, request.canonicalJobId, request.reason⟩ := by
      simp [QsgpReleaseRequest.counterpart, hcluster]
    obtain ⟨hnative, hbounds⟩ := counterpart_release hcounterpart
    refine ⟨_, _, ⟨correlationId, payload, hframed, rfl, hbounds.mpr hsendable, collected,
      hcollect, ?_⟩, Header.native_read _ _ _, hnative⟩
    rw [hscalar, ← ReleaseRequest.scalars_native, hnative]
  · rintro ⟨read, found, hfound, rfl, rfl⟩
    exact qsgpDecodeReleaseRequest_eq_ok_iff.mp
      (release_request_native (decodeReleaseRequest_eq_ok_iff.mpr hfound))

lemma getReservations_request_agrees {request : QsgpGetReservationsRequest} :
    qsgpDecodeGetReservationsRequest data = .ok (header, request) ↔
      ∃ read found, decodeGetReservationsRequest data = .ok (read, found) ∧
        read.native = header ∧ found.native = request := by
  simp only [qsgpDecodeGetReservationsRequest_eq_ok_iff, decodeGetReservationsRequest_eq_ok_iff]
  constructor
  · rintro ⟨correlationId, payload, hframed, rfl, hsendable, collected, hcollect, hscalar⟩
    have hcollected := hcollect
    rw [← hframed.drop] at hcollected
    obtain ⟨clusterName, hcluster⟩ := (h.texts.textual hcollected .clusterName
      (by decide) (by rw [hscalar]; rfl)).exists_text
    have hcounterpart : request.counterpart = some ⟨request.requestId, clusterName,
        request.observedJobId, request.jobUid, request.jobGid⟩ := by
      simp [QsgpGetReservationsRequest.counterpart, hcluster]
    obtain ⟨hnative, hbounds⟩ := counterpart_getReservations hcounterpart
    refine ⟨_, _, ⟨correlationId, payload, hframed, rfl, hbounds.mpr hsendable, collected,
      hcollect, ?_⟩, Header.native_read _ _ _, hnative⟩
    rw [hscalar, ← GetReservationsRequest.scalars_native, hnative]
  · rintro ⟨read, found, hfound, rfl, rfl⟩
    exact qsgpDecodeGetReservationsRequest_eq_ok_iff.mp
      (getReservations_request_native (decodeGetReservationsRequest_eq_ok_iff.mpr hfound))

lemma getReservations_response_agrees {response : QsgpGetReservationsResponse} :
    qsgpDecodeGetReservationsResponse data = .ok (header, response) ↔
      ∃ read found, decodeGetReservationsResponse data = .ok (read, found) ∧
        read.native = header ∧ found.native = response := by
  simp only [qsgpDecodeGetReservationsResponse_eq_ok_iff,
    decodeGetReservationsResponse_eq_ok_iff]
  constructor
  · rintro ⟨correlationId, payload, hframed, rfl, hsendable, hcarries⟩
    have hcarried := hcarries
    obtain ⟨collected, hcollect, hscalar, hreservations⟩ := hcarried
    rw [← hframed.drop] at hcollect
    obtain ⟨reservations, hnative, hnonneg⟩ := exists_reservations fun reservation hmem => by
      obtain ⟨bytes, hbytes, hread⟩ := exists_value_of_mem hreservations.each hmem
      exact exists_reservation (h.nested_textual hcollect (by decide) hbytes) hread
    let found : GetReservationsResponse :=
      ⟨response.requestId, response.canonicalJobId, reservations⟩
    have hfound : found.native = response := by
      simp [found, GetReservationsResponse.native, hnative]
    have hbounds : found.Sendable := by
      have hnames : (response.reservations.map QsgpReservation.serviceId) =
          (reservations.map Reservation.serviceId).map utf8 := by
        rw [← hnative, List.map_map, List.map_map]
        rfl
      refine ⟨positive_natCast.mpr hsendable.requestId,
        positive_natCast.mpr hsendable.canonicalJobId, ?_, ?_, fun reservation hmem => ?_⟩
      · have hcount := hsendable.count
        rwa [← hnative, List.length_map] at hcount
      · have hdistinct := hsendable.distinct
        rw [hnames] at hdistinct
        exact hdistinct.of_map
      · refine (reservation_sendable_iff (hnonneg reservation hmem)).mp ?_
        exact hsendable.reservations _ (hnative ▸ List.mem_map_of_mem hmem)
    refine ⟨_, found, ⟨correlationId, payload, hframed, rfl, hbounds, ?_⟩,
      Header.native_read _ _ _, hfound⟩
    rw [← hfound, found.scalars_native] at hcarries
    exact (carries_iff_contains (fun reservation hmem _ => reservationElement_iff
      (hnonneg reservation hmem)) hbounds.count.2).mp hcarries
  · rintro ⟨_, found, ⟨correlationId, payload, hframed, rfl, hbounds, hcontains⟩, rfl, rfl⟩
    refine ⟨correlationId, payload, hframed, Header.native_read _ _ _, hbounds.native, ?_⟩
    rw [found.scalars_native]
    exact (carries_iff_contains (fun reservation hmem _ => reservationElement_iff
      (hbounds.reservations reservation hmem).reservationId.inWidth.1) hbounds.count.2).mpr
      hcontains

end Kinds

/-! ### All kinds -/

/-- The kinds of message with a decoder on both sides. -/
inductive SharedKind where
  | evaluateRequest
  | reserveRequest
  | releaseRequest
  | getReservationsRequest
  | getReservationsResponse
  deriving DecidableEq

/-- The type in the header. -/
def SharedKind.messageType : SharedKind → MessageType
  | .evaluateRequest => .evaluateRequest
  | .reserveRequest => .reserveRequest
  | .releaseRequest => .releaseRequest
  | .getReservationsRequest => .getReservationsRequest
  | .getReservationsResponse => .getReservationsResponse

/-- The Python decoder of a kind. -/
def SharedKind.decodePython (kind : SharedKind) (data : List UInt8) :
    Except PyError (Header × CodecMessage) :=
  match kind with
  | .evaluateRequest =>
    (decodeEvaluateRequest data).map fun (header, request) =>
      (header, .ofRequest (.evaluate request))
  | .reserveRequest =>
    (decodeReserveRequest data).map fun (header, request) =>
      (header, .ofRequest (.reserve request))
  | .releaseRequest =>
    (decodeReleaseRequest data).map fun (header, request) =>
      (header, .ofRequest (.release request))
  | .getReservationsRequest =>
    (decodeGetReservationsRequest data).map fun (header, request) =>
      (header, .ofRequest (.getReservations request))
  | .getReservationsResponse =>
    (decodeGetReservationsResponse data).map fun (header, response) =>
      (header, .ofResponse response)

/-- The C value of a message. -/
def CodecMessage.native : CodecMessage → NativeMessage
  | .ofRequest (.evaluate request) => .evaluateRequest request.toReserveRequest.native
  | .ofRequest (.reserve request) => .reserveRequest request.native
  | .ofRequest (.release request) => .releaseRequest request.native
  | .ofRequest (.getReservations request) => .getReservationsRequest request.native
  | .ofResponse response => .getReservationsResponse response.native

/-- Two decoders of a kind agree when what one reads is the C value of what the other reads. -/
lemma agree_of_iff {α β : Type} {read : Except Status (QsgpHeader × β)}
    {decode : Except PyError (Header × α)} (native : α → β) (kind : β → NativeMessage)
    (message : α → CodecMessage) (hnative : ∀ value, (message value).native = kind (native value))
    (h : ∀ header value, read = .ok (header, value) ↔
      ∃ header' found, decode = .ok (header', found) ∧ header'.native = header ∧
        native found = value) :
    (readAs kind read).toOption =
      ((decode.map fun (header, value) => (header, message value)).toOption.map
        fun (header, value) => (header.native, value.native)) := by
  cases hdecode : decode with
  | error failure =>
    have hnone : ∀ result, read ≠ .ok result := by
      rintro ⟨header, value⟩ hread
      obtain ⟨_, _, hfound, -⟩ := (h header value).mp hread
      rw [hdecode] at hfound
      exact (nomatch hfound)
    cases hread : read with
    | error status => rfl
    | ok result => exact absurd hread (hnone result)
  | ok found =>
    obtain ⟨header, value⟩ := found
    have hread := (h header.native (native value)).mpr ⟨header, value, hdecode, rfl, rfl⟩
    rw [readAs_eq_ok hread]
    simp [Except.map, Except.toOption, hnative]

/-- On every byte string whose texts are UTF-8 and whose heterogeneous job id, if present, is not
zero, the two decoders of a kind both fail, or both succeed with the same header and the same
value. -/
theorem decoders_agree (kind : SharedKind) (data : List UInt8)
    (h : Comparable (data.drop headerSize)) :
    (decodeNative kind.messageType data).toOption =
      (kind.decodePython data).toOption.map
        fun (header, message) => (header.native, message.native) := by
  cases kind with
  | evaluateRequest =>
    have hagree := agree_of_iff (fun request : EvaluateRequest => request.toReserveRequest.native)
      .evaluateRequest (fun request => .ofRequest (.evaluate request)) (fun _ => rfl)
      (evaluate_request_agrees h)
    exact hagree
  | reserveRequest =>
    have hagree := agree_of_iff ReserveRequest.native .reserveRequest
      (fun request => .ofRequest (.reserve request)) (fun _ => rfl) (reserve_request_agrees h)
    exact hagree
  | releaseRequest =>
    have hagree := agree_of_iff ReleaseRequest.native .releaseRequest
      (fun request => .ofRequest (.release request)) (fun _ => rfl)
      fun _ _ => release_request_agrees h
    exact hagree
  | getReservationsRequest =>
    have hagree := agree_of_iff GetReservationsRequest.native .getReservationsRequest
      (fun request => .ofRequest (.getReservations request)) (fun _ => rfl)
      fun _ _ => getReservations_request_agrees h
    exact hagree
  | getReservationsResponse =>
    have hagree := agree_of_iff GetReservationsResponse.native .getReservationsResponse
      CodecMessage.ofResponse (fun _ => rfl) fun _ _ => getReservations_response_agrees h
    exact hagree

/-! ### Requests that the gateway reads -/

lemma textual_utf8 (text : String) : Textual (utf8 text) :=
  Option.isSome_iff_exists.mpr ⟨text, decodeUtf8_eq_some_iff.mpr rfl⟩

/-- The texts of an admission request that is also one of Python are UTF-8, and its heterogeneous job
id, if present, is not zero. -/
lemma textual_of_native {request : QsgpReserveRequest} {found : ReserveRequest}
    (h : found.native = request.normalize) (hbounds : found.Sendable) :
    (∀ text ∈ request.clusterName :: request.serviceIds, Textual text) ∧
      (request.hasHeteroJobId = true → request.heteroJobId ≠ 0) := by
  have hcluster : utf8 found.clusterName = request.clusterName :=
    congrArg QsgpReserveRequest.clusterName h
  have hservices : found.serviceIds.map utf8 = request.serviceIds :=
    congrArg QsgpReserveRequest.serviceIds h
  have hhas : found.heteroJobId.isSome = request.hasHeteroJobId :=
    congrArg QsgpReserveRequest.hasHeteroJobId h
  have hid : nativeNumber found.heteroJobId = kept 0 request.hasHeteroJobId request.heteroJobId :=
    congrArg QsgpReserveRequest.heteroJobId h
  refine ⟨List.forall_mem_cons.mpr ⟨hcluster ▸ textual_utf8 _, fun text htext => ?_⟩,
    fun hpresent hzero => ?_⟩
  · rw [← hservices] at htext
    obtain ⟨name, -, rfl⟩ := List.mem_map.mp htext
    exact textual_utf8 name
  · rw [hpresent] at hhas hid
    obtain ⟨value, hvalue⟩ := Option.isSome_iff_exists.mp hhas
    have hpositive := hbounds.heteroJobId value hvalue
    rw [hvalue, hzero] at hid
    rw [Positive] at hpositive
    simp only [nativeNumber, Option.getD_some, kept, if_true] at hid
    omega

/-- A request that the native encoder writes and the gateway reads has UTF-8 texts, and its
heterogeneous job id, if present, is not zero. -/
lemma textual_of_decodeRequest {request : NativeRequest} {correlation : ℕ} {frame : List UInt8}
    (htyped : request.message.Typed) (hcorrelation : correlation < 2 ^ 64)
    (hencode : request.message.encode correlation = .ok frame) {header : Header} {found : Request}
    (hdecode : decodeRequest frame = .ok (header, found)) :
    (∀ text ∈ request.texts, Textual text) ∧ request.HeteroNonzero := by
  obtain ⟨haccepted, hne, rfl⟩ := htyped.encode_eq_ok_iff.mp hencode
  have hframed : Framed request.message.messageType correlation request.message.payload _ :=
    framed_of_le ⟨hne, hcorrelation⟩ haccepted.length_payload_le
  have hsendable : request.message.Sendable := by
    cases request <;> exact haccepted
  have hread := hsendable.decode htyped hframed
  generalize frameBytes request.message.messageType correlation request.message.payload = frame at *
  obtain ⟨first, hfirst, hdecode⟩ := bind_eq_ok_iff.mp hdecode
  have hheader : decodeHeader frame =
      .ok (.read request.message.messageType correlation request.message.payload) :=
    decodeHeader_eq_ok_iff.mpr ⟨correlation, request.message.payload, hframed, rfl⟩
  have htype : first.messageType = request.message.messageType :=
    congrArg Header.messageType (Except.ok.inj (hfirst.symm.trans hheader))
  cases request with
  | evaluate request =>
    rw [htype] at hdecode
    obtain ⟨⟨_, inner⟩, hinner, -⟩ := bind_eq_ok_iff.mp hdecode
    obtain ⟨hadmission, -⟩ := decodeEvaluateRequest_eq_ok_iff.mp hinner
    obtain ⟨-, -, -, -, hbounds, -⟩ := decodeAdmissionRequest_eq_ok_iff.mp hadmission
    have hnative := (readAs_eq_ok (evaluate_request_native hinner)).symm.trans hread
    exact textual_of_native (NativeMessage.evaluateRequest.inj
      (Prod.mk.inj (Except.ok.inj hnative)).2) hbounds
  | reserve request =>
    rw [htype] at hdecode
    obtain ⟨⟨_, inner⟩, hinner, -⟩ := bind_eq_ok_iff.mp hdecode
    obtain ⟨hadmission, -⟩ := decodeReserveRequest_eq_ok_iff.mp hinner
    obtain ⟨-, -, -, -, hbounds, -⟩ := decodeAdmissionRequest_eq_ok_iff.mp hadmission
    have hnative := (readAs_eq_ok (reserve_request_native hinner)).symm.trans hread
    exact textual_of_native (NativeMessage.reserveRequest.inj
      (Prod.mk.inj (Except.ok.inj hnative)).2) hbounds
  | release request =>
    rw [htype] at hdecode
    obtain ⟨⟨_, inner⟩, hinner, -⟩ := bind_eq_ok_iff.mp hdecode
    have hnative := (readAs_eq_ok (release_request_native hinner)).symm.trans hread
    have hsame : inner.native = request :=
      NativeMessage.releaseRequest.inj (Prod.mk.inj (Except.ok.inj hnative)).2
    refine ⟨fun text htext => ?_, trivial⟩
    rw [List.mem_singleton.mp htext, ← hsame]
    exact textual_utf8 inner.clusterName
  | getReservations request =>
    rw [htype] at hdecode
    obtain ⟨⟨_, inner⟩, hinner, -⟩ := bind_eq_ok_iff.mp hdecode
    have hnative := (readAs_eq_ok (getReservations_request_native hinner)).symm.trans hread
    have hsame : inner.native = request :=
      NativeMessage.getReservationsRequest.inj (Prod.mk.inj (Except.ok.inj hnative)).2
    refine ⟨fun text htext => ?_, trivial⟩
    rw [List.mem_singleton.mp htext, ← hsame]
    exact textual_utf8 inner.clusterName

/-- The fields of a request for two services. -/
def sampleTlvs : List Tlv :=
  messageTlvs admissionFields sampleMessage.scalars .serviceRequest
    (sampleMessage.serviceIds.map fun serviceId => serviceItem (utf8 serviceId))

/-- Both decoders read the request. -/
theorem decoders_agree_sample :
    ∃ header message, (decodeNative .reserveRequest
        (frameBytes .reserveRequest 9 sampleMessage.payload)).toOption = some (header, message) ∧
      ((SharedKind.reserveRequest.decodePython
        (frameBytes .reserveRequest 9 sampleMessage.payload)).toOption.map
          fun (header, message) => (header.native, message.native)) = some (header, message) := by
  have hdrop : (frameBytes .reserveRequest 9 sampleMessage.payload).drop headerSize =
      sampleMessage.payload := by
    rw [frameBytes, List.drop_left' (length_headerBytes _ _ _)]
  have hwritten : Encodes sampleMessage.payload sampleTlvs :=
    ⟨by decide +kernel, rfl⟩
  have hcomparable : Comparable sampleMessage.payload := by
    refine ⟨fun tlvs htlvs => ?_, fun tlvs htlvs container hcontainer value hvalue => ?_,
      fun tlvs htlvs => ?_⟩
    · obtain rfl := htlvs.unique hwritten
      unfold Textual
      decide +kernel
    · obtain rfl := htlvs.unique hwritten
      have hitems : ∀ container ∈ containerFields, ∀ value ∈ occurrences sampleTlvs container.code,
          ∃ serviceId ∈ sampleMessage.serviceIds, value = serviceItem (utf8 serviceId) := by
        decide +kernel
      obtain ⟨serviceId, hservice, rfl⟩ := hitems container hcontainer value hvalue
      intro nested hnested
      have hitem : ∀ serviceId ∈ sampleMessage.serviceIds,
          ∀ tlv ∈ fieldTlvs [.serviceId] (serviceScalars (utf8 serviceId)), Legible tlv := by
        decide +kernel
      obtain rfl := hnested.unique ⟨hitem serviceId hservice, rfl⟩
      have htexts : ∀ serviceId ∈ sampleMessage.serviceIds, ∀ field ∈ textFields, ∀ value ∈
          occurrences (fieldTlvs [.serviceId] (serviceScalars (utf8 serviceId))) field.code,
          (decodeUtf8 value).isSome = true := by
        decide +kernel
      exact htexts serviceId hservice
    · obtain rfl := htlvs.unique hwritten
      decide +kernel
  have hagree := decoders_agree .reserveRequest
    (frameBytes .reserveRequest 9 sampleMessage.payload) (hdrop ▸ hcomparable)
  cases hread : (decodeNative .reserveRequest
      (frameBytes .reserveRequest 9 sampleMessage.payload)).toOption with
  | none =>
    have hok : (decodeNative .reserveRequest
      (frameBytes .reserveRequest 9 sampleMessage.payload)).toOption.isSome = true := by
      decide +kernel
    rw [hread] at hok
    exact Bool.noConfusion hok
  | some result => exact ⟨result.1, result.2, rfl, hagree.symm.trans hread⟩

end QfwSlurm
