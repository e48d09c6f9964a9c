import QfwSlurm.Native.Answers
import QfwSlurm.Native.Environment
import QfwSlurm.Native.Operations

/-!
# Admission responses in the native client

`admission_response_process` of `src/native/operations.c`: the client checks a decoded response to
an evaluate or reserve request once more against the request.  On the responses that the gateway
encodes its checks come down to two: the results have to name the requested services, and the
reservations of an accepted set have to fit the environment (`admissionResponseProcess_spec`).
-/

namespace QfwSlurm.Native

open Wire C

/-! ### The processing -/

/-- The fields of `struct qfw_reserve_operation_result` that the processing fills in. -/
structure ReserveOperationResult where
  state : OperationState := .invalid
  response : QsgpReserveResponse := {}
  reservationsJson : List UInt8 := List.replicate environmentSize 0
  diagnostic : List UInt8 := []
  deriving DecidableEq

/-- `memset` of the result leaves a buffer of the size of the environment. -/
lemma length_reservationsJson :
    ({} : ReserveOperationResult).reservationsJson.length = environmentSize :=
  List.length_replicate

/-- `expected_service` -/
def expectedService (request : QsgpReserveRequest) (serviceId : List UInt8) : Bool :=
  request.serviceIds.any fun requested => strcmp requested serviceId = 0

/-- `duplicate_result`, with the results before the current one. -/
def duplicateResult (earlier : List QsgpServiceResult) (current : QsgpServiceResult) : Bool :=
  earlier.any fun result => strcmp result.serviceId current.serviceId = 0

/-- `response_error` -/
def ReserveOperationResult.responseError (result : ReserveOperationResult) (message : String) :
    ReserveOperationResult :=
  { result with state := .responseError, diagnostic := setDiagnostic (utf8 message) }

/-- The first loop of `admission_response_process`, with the results seen so far: the decisive
result, or the message of an early return. -/
def examineResults (request : QsgpReserveRequest) (decision : ℕ) :
    List QsgpServiceResult → List QsgpServiceResult → Option QsgpServiceResult →
      Except String (Option QsgpServiceResult)
  | _, [], decisive => .ok decisive
  | earlier, item :: items, decisive =>
    if item.serviceId = [] ∨ ¬ expectedService request item.serviceId then
      .error "gateway returned an unexpected service result"
    else if duplicateResult earlier item then
      .error "gateway returned a duplicate service result"
    else if item.decision < admissionAccepted ∨ admissionRejected < item.decision then
      .error "gateway returned an unknown service decision"
    else
      examineResults request decision (earlier ++ [item]) items
        (if item.decision = decision ∧ decisive = none then some item else decisive)

/-- The second loop of `admission_response_process`, over the results of an accepted response. -/
def examineAccepted (requireReservation : Bool) : List QsgpServiceResult → Except String Unit
  | [] => .ok ()
  | item :: items =>
    if item.decision ≠ admissionAccepted then
      .error "accepted response has a nonaccepted service"
    else if requireReservation ∧ (¬ item.hasReservationId ∨ item.reservationId = 0) then
      .error "accepted service has no valid reservation"
    else if ¬ requireReservation ∧ item.hasReservationId then
      .error "evaluation returned a reservation identifier"
    else examineAccepted requireReservation items

/-- The branch of `admission_response_process` for an accepted response. -/
def processAccepted (request : QsgpReserveRequest) (response : QsgpReserveResponse)
    (result : ReserveOperationResult) (requireReservation : Bool) :
    Except C.Stop ReserveOperationResult :=
  if response.results.length ≠ request.serviceIds.length then
    .ok (result.responseError "gateway returned an incomplete service result set")
  else
    match examineAccepted requireReservation response.results with
    | .error message => .ok (result.responseError message)
    | .ok () =>
      if requireReservation then
        match qfwReservationsJson response result.reservationsJson environmentSize with
        | .ok written => .ok { result with state := .accepted, reservationsJson := written }
        | .error (.refused left) =>
          .ok ({ result with reservationsJson := left }.responseError
            "cannot format the accepted reservation set")
        | .error .outside => .error .outside
      else .ok { result with state := .accepted }

/-- The end of `admission_response_process`, for a response that is not accepted. -/
def processDeclined (response : QsgpReserveResponse) (result : ReserveOperationResult) :
    Option QsgpServiceResult → ReserveOperationResult
  | none => result.responseError "admission decision has no corresponding service result"
  | some decisive =>
    { result with
      state := if response.decision = admissionDelayed then .delayed else .rejected
      diagnostic := setDiagnostic <|
        if decisive.hasDiagnostic then decisive.diagnostic
        else if response.decision = admissionDelayed then utf8 "QPM reservation was delayed"
        else utf8 "QPM reservation was rejected" }

/-- `admission_response_process` -/
def admissionResponseProcess (request : QsgpReserveRequest) (response : QsgpReserveResponse)
    (result : ReserveOperationResult) (requireReservation : Bool) :
    Except C.Stop ReserveOperationResult :=
  let result := { result with response := response }
  if response.requestId ≠ request.requestId then
    .ok (result.responseError "gateway response request identity does not match")
  else if response.decision < admissionAccepted ∨ admissionRejected < response.decision then
    .ok (result.responseError "gateway returned an unknown admission decision")
  else if response.results.length = 0 ∨ maxServices < response.results.length then
    .ok (result.responseError "gateway returned an empty or oversized service result set")
  else
    match examineResults request response.decision [] response.results none with
    | .error message => .ok (result.responseError message)
    | .ok decisive =>
      if response.decision = admissionAccepted then
        processAccepted request response result requireReservation
      else .ok (processDeclined response result decisive)

/-- `qfw_reserve_response_process` -/
def qfwReserveResponseProcess (request : QsgpReserveRequest) (response : QsgpReserveResponse)
    (result : ReserveOperationResult) : Except C.Stop ReserveOperationResult :=
  admissionResponseProcess request response result true

end QfwSlurm.Native

namespace QfwSlurm

open Wire Native C

/-- The service and the reservation id that the client reads in a result. -/
def ServiceResult.tuple (item : ServiceResult) : String × ℕ :=
  (item.serviceId, nativeNumber item.reservationId)

/-- The state in which the client reports a decision. -/
def AdmissionDecision.operationState : AdmissionDecision → Native.OperationState
  | .accepted => .accepted
  | .delayed => .delayed
  | .rejected => .rejected

end QfwSlurm

namespace QfwSlurm.Native

open Wire C

/-! ### The loops on results within their bounds -/

section Loops

variable {request : QsgpReserveRequest} {reserve : Bool}

lemma expectedService_iff (hrequest : ∀ id ∈ request.serviceIds, 0 ∉ id) {id : List UInt8}
    (hid : 0 ∉ id) : expectedService request id = true ↔ id ∈ request.serviceIds := by
  rw [expectedService, List.any_eq_true]
  constructor
  · rintro ⟨requested, hmem, hequal⟩
    rwa [← (strcmp_eq_zero_iff (hrequest requested hmem) hid).mp (of_decide_eq_true hequal)]
  · intro hmem
    exact ⟨id, hmem, decide_eq_true ((strcmp_eq_zero_iff hid hid).mpr rfl)⟩

lemma duplicateResult_eq_false {earlier : List QsgpServiceResult} {current : QsgpServiceResult}
    (hearlier : ∀ result ∈ earlier, 0 ∉ result.serviceId) (hcurrent : 0 ∉ current.serviceId)
    (hnew : current.serviceId ∉ earlier.map QsgpServiceResult.serviceId) :
    duplicateResult earlier current = false := by
  rw [duplicateResult, List.any_eq_false]
  intro result hmem hequal
  refine hnew (List.mem_map.mpr ⟨result, hmem, ?_⟩)
  exact (strcmp_eq_zero_iff (hearlier result hmem) hcurrent).mp (of_decide_eq_true hequal)

/-- The first loop accepts the results that name requested services, and keeps the first that has
the decision of the response. -/
lemma examineResults_spec (hrequest : ∀ id ∈ request.serviceIds, 0 ∉ id) (decision : ℕ)
    (earlier items : List QsgpServiceResult) (decisive : Option QsgpServiceResult)
    (hitems : ∀ item ∈ earlier ++ items, item.Sendable reserve)
    (hdistinct : ((earlier ++ items).map QsgpServiceResult.serviceId).Nodup) :
    ((∀ item ∈ items, item.serviceId ∈ request.serviceIds) →
      examineResults request decision earlier items decisive =
        .ok (decisive.or (items.find? (·.decision = decision)))) ∧
    ((¬ ∀ item ∈ items, item.serviceId ∈ request.serviceIds) →
      ∃ message, examineResults request decision earlier items decisive = .error message) := by
  induction items generalizing earlier decisive with
  | nil =>
    refine ⟨fun _ => ?_, fun hnot => absurd (fun item hitem => absurd hitem List.not_mem_nil) hnot⟩
    rw [examineResults, List.find?_nil, Option.or_none]
  | cons item items ih =>
    have hitem := hitems item (List.mem_append_right _ List.mem_cons_self)
    have hplain : 0 ∉ item.serviceId := hitem.serviceId.plain
    have hexpected := expectedService_iff hrequest hplain
    rw [examineResults]
    by_cases hmem : item.serviceId ∈ request.serviceIds
    swap
    · have hunexpected : item.serviceId = [] ∨ ¬ expectedService request item.serviceId = true :=
        .inr fun h => hmem (hexpected.mp h)
      rw [if_pos hunexpected]
      exact ⟨fun hall => absurd (hall item List.mem_cons_self) hmem, fun _ => ⟨_, rfl⟩⟩
    have hnamed : ¬ (item.serviceId = [] ∨ ¬ expectedService request item.serviceId = true) := by
      rintro (hempty | hunexpected)
      · exact hitem.serviceId.nonempty hempty
      · exact hunexpected (hexpected.mpr hmem)
    have hnew : item.serviceId ∉ earlier.map QsgpServiceResult.serviceId := by
      rw [List.map_append, List.map_cons, List.nodup_append] at hdistinct
      exact fun hold => hdistinct.2.2 _ hold _ List.mem_cons_self rfl
    have hunique := duplicateResult_eq_false
      (fun result hresult => (hitems result (List.mem_append_left _ hresult)).serviceId.plain)
      hplain hnew
    have hknown : ¬ (item.decision < admissionAccepted ∨ admissionRejected < item.decision) := by
      have hbounds := hitem.decision
      omega
    rw [if_neg hnamed, hunique, if_neg Bool.false_ne_true, if_neg hknown]
    have hsplit : earlier ++ item :: items = earlier ++ [item] ++ items := by simp
    obtain ⟨hok, herror⟩ := ih (earlier ++ [item])
      (if item.decision = decision ∧ decisive = none then some item else decisive)
      (hsplit ▸ hitems) (hsplit ▸ hdistinct)
    constructor
    · intro hall
      rw [hok fun other hother => hall other (List.mem_cons_of_mem _ hother), List.find?_cons]
      cases decisive with
      | some found => simp
      | none => by_cases hdecision : item.decision = decision <;> simp [hdecision]
    · intro hnot
      refine herror fun hrest => hnot fun other hother => ?_
      rcases List.mem_cons.mp hother with rfl | hother
      · exact hmem
      · exact hrest other hother

/-- The second loop accepts the results of an accepted response. -/
lemma examineAccepted_eq_ok {items : List QsgpServiceResult}
    (h : ∀ item ∈ items, item.Sendable reserve ∧ item.decision = admissionAccepted) :
    examineAccepted reserve items = .ok () := by
  induction items with
  | nil => rfl
  | cons item items ih =>
    obtain ⟨hitem, hdecision⟩ := h item List.mem_cons_self
    have hrest := ih fun other hother => h other (List.mem_cons_of_mem _ hother)
    have hgranted : item.hasReservationId = true ↔ reserve = true := by
      rw [hitem.granted]
      exact and_iff_left hdecision
    have hvalid :
        ¬ (reserve = true ∧ (¬ item.hasReservationId = true ∨ item.reservationId = 0)) := by
      rintro ⟨hreserve, hmissing | hzero⟩
      · exact hmissing (hgranted.mpr hreserve)
      · exact (hitem.reservationId (hgranted.mpr hreserve)).1.ne' hzero
    have habsent : ¬ (¬ reserve = true ∧ item.hasReservationId = true) :=
      fun h => h.1 (hgranted.mp h.2)
    rw [examineAccepted, if_neg (not_not.mpr hdecision), if_neg hvalid, if_neg habsent, hrest]

end Loops

/-! ### Responses that can be sent -/

section Sendable

variable {request : QsgpReserveRequest} {response : ReserveResponse} {reserve : Bool}

/-- The response is about what was requested: it names requested services only, all of them if it is
accepted. -/
structure Concerns (request : QsgpReserveRequest) (response : ReserveResponse) : Prop where
  requested : ∀ item ∈ response.results, utf8 item.serviceId ∈ request.serviceIds
  complete : response.decision = .accepted → response.results.length = request.serviceIds.length

/-- The client can make use of the response: it is about what was requested, and the reservations
that it has to export fit the environment. -/
structure Usable (request : QsgpReserveRequest) (response : ReserveResponse) (reserve : Bool) :
    Prop where
  concerns : Concerns request response
  fits : reserve = true → response.decision = .accepted →
    FitsEnvironment (response.results.map ServiceResult.tuple)

/-- The buffer holds the document of the reservations, in the order of their service ids. -/
def Exports (buffer : List UInt8) (pairs : List (String × ℕ)) : Prop :=
  ∃ sorted : List (String × ℕ), sorted.Perm pairs ∧
    (sorted.Pairwise fun left right => idKey left < idKey right) ∧
    stringOf buffer = bytesOf (environmentText sorted)

/-- The reservations of an accepted answer to a reserve request. -/
lemma reservationSet_of_sendable (h : response.Sendable true)
    (hdecision : response.decision = .accepted) :
    ReservationSet (response.results.map ServiceResult.tuple) where
  count := by simpa using h.count
  serviceIds := by
    intro pair hpair
    obtain ⟨item, hitem, rfl⟩ := List.mem_map.mp hpair
    exact (h.results item hitem).serviceId
  distinct := by
    rw [List.map_map]
    exact h.distinct
  reservationIds := by
    intro pair hpair
    obtain ⟨item, hitem, rfl⟩ := List.mem_map.mp hpair
    have hagrees := h.agrees
    rw [hdecision] at hagrees
    have haccepted : item.decision = .accepted := hagrees _ (List.mem_map_of_mem hitem)
    have hnative := (h.results item hitem).native
    exact hnative.reservationId (hnative.granted.mpr
      ⟨rfl, item.decision.native_eq_iff.1.mpr haccepted⟩)

/-- The client reads the reservations of an accepted answer. -/
lemma grants_of_sendable (h : response.Sendable true) (hdecision : response.decision = .accepted) :
    Grants response.native (response.results.map ServiceResult.tuple) where
  decision := response.decision.native_eq_iff.1.mpr hdecision
  accepted := by
    intro result hresult
    have hall := h.native.agrees.accepted (response.decision.native_eq_iff.1.mpr hdecision)
    have haccepted := hall result hresult
    exact ⟨haccepted, (h.native.results result hresult).granted.mpr ⟨rfl, haccepted⟩⟩
  pairs := by
    refine List.Perm.of_eq ?_
    rw [ReserveResponse.native, List.map_map, List.map_map]
    rfl

/-- The branch for an accepted response. -/
lemma processAccepted_spec (request : QsgpReserveRequest) (h : response.Sendable reserve)
    (hdecision : response.decision = .accepted) (result : ReserveOperationResult)
    (hbuffer : result.reservationsJson.length = environmentSize)
    (hresponse : result.response = response.native) :
    ∃ final, processAccepted request response.native result reserve = .ok final ∧
      final.response = response.native ∧
      (response.results.length = request.serviceIds.length →
        (reserve = true → FitsEnvironment (response.results.map ServiceResult.tuple)) →
        final.state = .accepted ∧ (reserve = true →
          Exports final.reservationsJson (response.results.map ServiceResult.tuple))) ∧
      (¬ (response.results.length = request.serviceIds.length ∧
          (reserve = true → FitsEnvironment (response.results.map ServiceResult.tuple))) →
        final.state = .responseError) := by
  have hlength : response.native.results.length = response.results.length := by
    rw [ReserveResponse.native, List.length_map]
  rw [processAccepted, hlength]
  by_cases hcomplete : response.results.length = request.serviceIds.length
  swap
  · rw [if_pos hcomplete]
    exact ⟨_, rfl, hresponse, fun h => absurd h hcomplete, fun _ => rfl⟩
  have hexamined : examineAccepted reserve response.native.results = .ok () :=
    examineAccepted_eq_ok fun item hitem => ⟨h.native.results item hitem,
      h.native.agrees.accepted (response.decision.native_eq_iff.1.mpr hdecision) item hitem⟩
  rw [if_neg (not_not.mpr hcomplete), hexamined]
  dsimp only
  cases reserve with
  | false =>
    refine ⟨_, rfl, hresponse, fun _ _ => ⟨rfl, fun h => absurd h Bool.false_ne_true⟩,
      fun hnot => ?_⟩
    exact absurd ⟨hcomplete, fun h => absurd h Bool.false_ne_true⟩ hnot
  | true =>
    rw [if_pos rfl]
    have hset := reservationSet_of_sendable h hdecision
    obtain ⟨sorted, hperm, hsorted⟩ := hset.exists_sorted
    have hwrites := (grants_of_sendable h hdecision).writesDocument hset hperm hsorted hbuffer
    have hroom : (bytesOf (environmentText sorted)).length < environmentSize ↔
        FitsEnvironment (response.results.map ServiceResult.tuple) := FitsEnvironment.perm hperm
    rw [WritesDocument, if_neg (by decide)] at hwrites
    by_cases hfits : FitsEnvironment (response.results.map ServiceResult.tuple)
    · rw [if_pos (hroom.mpr hfits)] at hwrites
      obtain ⟨written, hwritten, -, htext⟩ := hwrites
      rw [hwritten]
      exact ⟨_, rfl, hresponse, fun _ _ => ⟨rfl, fun _ => ⟨sorted, hperm, hsorted, htext⟩⟩,
        fun hnot => absurd ⟨hcomplete, fun _ => hfits⟩ hnot⟩
    · rw [if_neg fun hlt => hfits (hroom.mp hlt)] at hwrites
      obtain ⟨left, hleft, -⟩ := hwrites
      rw [hleft]
      exact ⟨_, rfl, hresponse, fun _ hall => absurd (hall rfl) hfits, fun _ => rfl⟩

/-- The branch for a response that is not accepted. -/
lemma processDeclined_spec (h : response.Sendable reserve)
    (hdecision : response.decision ≠ .accepted) (result : ReserveOperationResult) :
    (processDeclined response.native result (response.native.results.find?
      (·.decision = response.native.decision))).state = response.decision.operationState := by
  have hcode := response.decision.native_eq_iff
  have hagrees := h.native.agrees
  obtain ⟨decisive, hdecisive⟩ : ∃ decisive, response.native.results.find?
      (·.decision = response.native.decision) = some decisive := by
    refine Option.isSome_iff_exists.mp (List.find?_isSome.mpr ?_)
    cases hvalue : response.decision with
    | accepted => exact absurd hvalue hdecision
    | delayed =>
      have hdelayed : response.native.decision = admissionDelayed := hcode.2.1.mpr hvalue
      obtain ⟨item, hitem, heq⟩ := (hagrees.delayed hdelayed).1
      exact ⟨item, hitem, decide_eq_true (heq.trans hdelayed.symm)⟩
    | rejected =>
      have hrejected : response.native.decision = admissionRejected := hcode.2.2.mpr hvalue
      obtain ⟨item, hitem, heq⟩ := hagrees.rejected hrejected
      exact ⟨item, hitem, decide_eq_true (heq.trans hrejected.symm)⟩
  rw [hdecisive, processDeclined]
  cases hvalue : response.decision with
  | accepted => exact absurd hvalue hdecision
  | delayed => exact if_pos (hcode.2.1.mpr hvalue)
  | rejected =>
    refine if_neg fun hdelayed => ?_
    cases hvalue.symm.trans (hcode.2.1.mp hdelayed)

/-- On a response that the gateway can send for its request, the client reports the decision when it
can make use of the response, and an error of the response otherwise. -/
theorem admissionResponseProcess_spec (hrequest : request.Sendable) (h : response.Sendable reserve)
    (hid : request.requestId = response.requestId.toNat) {result : ReserveOperationResult}
    (hbuffer : result.reservationsJson.length = environmentSize) :
    ∃ final, admissionResponseProcess request response.native result reserve = .ok final ∧
      final.response = response.native ∧
      (Usable request response reserve → final.state = response.decision.operationState ∧
        (reserve = true → response.decision = .accepted →
          Exports final.reservationsJson (response.results.map ServiceResult.tuple))) ∧
      (¬ Usable request response reserve → final.state = .responseError) := by
  have hnative := h.native
  have hcode : response.native.decision = admissionAccepted ↔ response.decision = .accepted :=
    response.decision.native_eq_iff.1
  have hsame : ¬ response.native.requestId ≠ request.requestId := by
    rw [hid]
    exact not_not.mpr rfl
  have hknown : ¬ (response.native.decision < admissionAccepted ∨
      admissionRejected < response.native.decision) := by
    have hbounds := hnative.decision
    omega
  have hcount : ¬ (response.native.results.length = 0 ∨
      maxServices < response.native.results.length) := by
    have hbounds := hnative.count
    omega
  have hnames : (∀ item ∈ response.native.results, item.serviceId ∈ request.serviceIds) ↔
      ∀ item ∈ response.results, utf8 item.serviceId ∈ request.serviceIds := by
    rw [ReserveResponse.native, List.forall_mem_map]
    rfl
  obtain ⟨hok, herror⟩ := examineResults_spec (fun id hid => (hrequest.services id hid).plain)
    response.native.decision [] response.native.results none hnative.results hnative.distinct
  rw [admissionResponseProcess, if_neg hsame, if_neg hknown, if_neg hcount]
  by_cases hrequested : ∀ item ∈ response.results, utf8 item.serviceId ∈ request.serviceIds
  swap
  · obtain ⟨message, hmessage⟩ := herror fun hall => hrequested (hnames.mp hall)
    rw [hmessage]
    exact ⟨_, rfl, rfl, fun husable => absurd husable.concerns.requested hrequested, fun _ => rfl⟩
  rw [hok (hnames.mpr hrequested), Option.none_or]
  change ∃ final, (if response.native.decision = admissionAccepted then _ else _) = _ ∧ _
  by_cases hdecision : response.decision = .accepted
  · rw [if_pos (hcode.mpr hdecision)]
    obtain ⟨final, hfinal, hresponse, haccepted, hrefused⟩ := processAccepted_spec request h
      hdecision { result with response := response.native } hbuffer rfl
    refine ⟨final, hfinal, hresponse, fun husable => ?_, fun hnot => hrefused fun hboth => hnot ?_⟩
    · obtain ⟨hstate, hexports⟩ := haccepted (husable.concerns.complete hdecision)
        fun hreserve => husable.fits hreserve hdecision
      exact ⟨by rw [hstate, hdecision]; rfl, fun hreserve _ => hexports hreserve⟩
    · exact ⟨⟨hrequested, fun _ => hboth.1⟩, fun hreserve _ => hboth.2 hreserve⟩
  · rw [if_neg fun haccepted => hdecision (hcode.mp haccepted)]
    refine ⟨_, rfl, ?_, fun _ => ⟨processDeclined_spec h hdecision _, fun _ haccepted =>
      absurd haccepted hdecision⟩, fun hnot => ?_⟩
    · unfold processDeclined
      split <;> rfl
    · exact hnot.elim ⟨⟨hrequested, fun haccepted => absurd haccepted hdecision⟩,
        fun _ haccepted => absurd haccepted hdecision⟩

end Sendable

end QfwSlurm.Native
