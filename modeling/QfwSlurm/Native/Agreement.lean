import QfwSlurm.Gateway.Answerable
import QfwSlurm.Gateway.Decided
import QfwSlurm.Gateway.Extension
import QfwSlurm.Gateway.StoredAnswers
import QfwSlurm.Native.Acceptance
import QfwSlurm.Native.Exchange

/-!
# The gateway decides, the client reports

An evaluation, or a reserve for an allocation without an accepted set, ends at the client in the
state that the gateway decided, and an accepted reserve exports the reservations that were granted
(`decision_shared_iff`).  There are two exceptions.  A component repeats its extension of a set that
was released since: the gateway repeats the combined answer, and the client refuses it.  And a
verifier or a QPM said something that does not fit the wire: `encode_response` refuses the answer,
the gateway closes the connection, and the client reports a failure of its own.
-/

namespace QfwSlurm

open Interaction Wire Native

/-! ### What the client should report -/

/-- The state in which the client has to end on an answer to an admission request. -/
def Response.operationState : Response → Native.OperationState
  | .evaluate response => response.decision.operationState
  | .reserve response => response.decision.operationState
  | .error _ => .gatewayError
  | .release _ | .getReservations _ => .clientError

/-- The answer is decided by its rule: an evaluation is one of the services of the request, and when
QPMs were called for the answer, its decision goes by what they said. -/
def Response.DecidedBy (request : ReserveRequest) (calls : List Event) : Response → Prop
  | .evaluate response => IsEvaluationOf request response ∧
    (calls ≠ [] → response.decision = evaluateDecision ((estimated calls).map Prod.snd))
  | .reserve response =>
    calls ≠ [] → response.decision = reserveDecision ((decided calls).map Prod.snd)
  | _ => True

/-- The client has reported the answer: it ended in the state of the answer, which is never that of
a response error, and exports the reservations of an accepted reserve. -/
structure Reports (reserve : Bool) (answer : Response) (pairs : List (String × ℕ))
    (final : ReserveOperationResult) : Prop where
  state : final.state = answer.operationState
  readable : final.state ≠ .responseError
  exports : reserve = true → final.state = .accepted → Exports final.reservationsJson pairs

/-- The message of an admission request: a reserve, or an evaluation. -/
def admissionRequest (reserve : Bool) (request : ReserveRequest) : Request :=
  if reserve then .reserve request else .evaluate ⟨request⟩

/-- The operation of the client that sends the admission request. -/
def qfwAdmissionOperation (reserve : Bool) (request : QsgpReserveRequest)
    (received : Except CallError (List UInt8)) (correlation : ℕ) :
    Except C.Stop ReserveOperationResult :=
  if reserve then qfwReserveOperation request received correlation
  else qfwEvaluateOperation request received correlation

/-- What the client receives from a gateway with this answer: the frame of the answer, or, where
`encode_response` refuses it and the connection is closed, a failure. -/
def Returns (answer : Response) (correlationId : ℤ) (received : Except CallError (List UInt8)) :
    Prop :=
  match encodeResponse answer correlationId with
  | .ok bytes => received = .ok bytes
  | .error _ => ∃ source status, received = .error (.failed source status)

lemma operationState_ne_responseError (decision : AdmissionDecision) :
    decision.operationState ≠ .responseError := by
  cases decision <;> decide

lemma operationState_ne_clientError (decision : AdmissionDecision) :
    decision.operationState ≠ .clientError := by
  cases decision <;> decide

lemma eq_accepted_of_operationState {decision : AdmissionDecision}
    (h : decision.operationState = .accepted) : decision = .accepted := by
  cases decision <;> first | rfl | cases h

/-- An error of the gateway is reported. -/
lemma reports_of_error {error : PyError} {operation : String} {requestId correlationId : ℤ}
    {answer : Response} (hanswer : answer = operationError operation requestId error)
    {bytes : List UInt8} (hencode : encodeResponse answer correlationId = .ok bytes)
    (reserve : Bool) (q : QsgpReserveRequest) (pairs : List (String × ℕ)) :
    ∃ final, qfwAdmissionOperation reserve q (.ok bytes) correlationId.toNat = .ok final ∧
      Reports reserve answer pairs final := by
  obtain ⟨failure, hfailure⟩ := operationError_eq operation requestId error
  rw [hanswer, hfailure] at hencode ⊢
  obtain ⟨hevaluate, hreserve⟩ := operations_of_refused hencode q
  have hstate : (mapCallFailure (.refused failure.native)).state = .gatewayError := rfl
  refine ⟨mapCallFailure (.refused failure.native), ?_, hstate, ?_, fun _ haccepted => ?_⟩
  · rw [qfwAdmissionOperation, hevaluate, hreserve, ite_self]
  · rw [hstate]
    decide
  · cases hstate.symm.trans haccepted

/-- A failure of the call is not an answer. -/
lemma operation_of_failed (reserve : Bool) (q : QsgpReserveRequest) (source : ErrorSource)
    (status : Status) (correlation : ℕ) :
    qfwAdmissionOperation reserve q (.error (.failed source status)) correlation =
      .ok (mapCallFailure (.failed source status)) := by
  cases reserve <;> rfl

/-- An error of the gateway has a state of its own. -/
lemma operationError_state_ne (operation : String) (requestId : ℤ) (error : PyError) :
    (operationError operation requestId error).operationState ≠ .clientError := by
  obtain ⟨failure, hfailure⟩ := operationError_eq operation requestId error
  rw [hfailure, Response.operationState]
  decide

/-- The answer to an admission request never has the state of a failure of the client. -/
lemma operationState_of_admission (sha256 : Document → String) (j : Journal) (reserve : Bool)
    (request : ReserveRequest) (senderUid : ℤ) (oracle : Oracle) :
    (serve sha256 j (admissionRequest reserve request) senderUid oracle).1.operationState ≠
      .clientError := by
  cases reserve with
  | false =>
    have hanswer : (serve sha256 j (.evaluate ⟨request⟩) senderUid oracle).1 = _ :=
      serve_evaluate_response oracle
    show (serve sha256 j (.evaluate ⟨request⟩) senderUid oracle).1.operationState ≠ _
    rw [hanswer]
    cases evaluateResult sha256 j ⟨request⟩ senderUid oracle with
    | ok response => exact operationState_ne_clientError _
    | error error => exact operationError_state_ne _ _ _
  | true =>
    show (serve sha256 j (.reserve request) senderUid oracle).1.operationState ≠ _
    rw [serve_reserve_response]
    cases reserveResult sha256 j request senderUid oracle with
    | ok response => exact operationState_ne_clientError _
    | error error => exact operationError_state_ne _ _ _

section Admissions

variable {q : QsgpReserveRequest} {request : ReserveRequest} {response : ReserveResponse}

/-- The client can make use of an evaluation of the services of its request. -/
lemma usable_of_evaluation (hservices : request.serviceIds.map utf8 = q.serviceIds)
    (hnames : response.names = sorted request.serviceIds) : Usable q response false where
  concerns := by
    refine ⟨(requested_iff hservices).mpr fun s hs => ?_, fun _ => ?_⟩
    · exact mem_sorted.mp (hnames ▸ hs)
    · have hlength := congrArg List.length hnames
      rw [ReserveResponse.names, List.length_map, (sorted_perm _).length_eq] at hlength
      rw [hlength, ← hservices, List.length_map]
  fits := fun h => absurd h Bool.false_ne_true

/-- The client can make use of an answer to a reserve if an accepted one names nothing else. -/
lemma usable_of_answersTo (hservices : request.serviceIds.map utf8 = q.serviceIds)
    (hdistinct : request.serviceIds.Nodup) (hplain : ∀ s ∈ request.serviceIds, Unescaped s)
    (h : response.Sendable true) (hanswers : AnswersTo request response)
    (hnames : response.decision = .accepted → ∀ s ∈ response.names, s ∈ request.serviceIds) :
    Usable q response true := by
  by_cases hdecision : response.decision = .accepted
  · have hperm : response.names.Perm request.serviceIds :=
      (List.perm_ext_iff_of_nodup h.distinct hdistinct).mpr fun s =>
        ⟨hnames hdecision s, hanswers.accepted hdecision s⟩
    have hset := reservationSet_of_sendable h hdecision
    have hfits : FitsEnvironment (response.results.map ServiceResult.tuple) := by
      refine hset.fits_environment (List.Perm.refl _) fun pair hpair => ?_
      obtain ⟨item, hitem, rfl⟩ := List.mem_map.mp hpair
      exact hplain _ (hperm.mem_iff.mp (List.mem_map_of_mem hitem))
    refine (usable_iff hservices h hdecision).mpr ⟨?_, by rwa [map_nativeTuple_pair]⟩
    rw [List.map_map]
    exact hperm
  · exact ⟨⟨(requested_iff hservices).mpr (hanswers.declined hdecision),
      fun haccepted => absurd haccepted hdecision⟩, fun _ haccepted => absurd haccepted hdecision⟩

/-- The client cannot make use of an answer that names another service. -/
lemma not_usable_of_combined (hservices : request.serviceIds.map utf8 = q.serviceIds)
    (hcombined : ∃ s ∈ response.names, s ∉ request.serviceIds) : ¬ Usable q response true := by
  rintro ⟨⟨hrequested, -⟩, -⟩
  obtain ⟨s, hs, hnot⟩ := hcombined
  exact hnot ((requested_iff hservices).mp hrequested s hs)

end Admissions

/-! ### One answer -/

section Answers

variable {sha256 : Document → String} {j : Journal} {q : QsgpReserveRequest}
  {request : ReserveRequest} {senderUid correlationId : ℤ} {oracle : Oracle} {bytes : List UInt8}

/-- The client reports the answer to an evaluation. -/
lemma reports_evaluation (hq : q.Sendable) (hservices : request.serviceIds.map utf8 = q.serviceIds)
    (hid : q.requestId = request.requestId.toNat) (hj : EvaluatedFor sha256 request j)
    (hencode : encodeResponse (serve sha256 j (.evaluate ⟨request⟩) senderUid oracle).1
      correlationId = .ok bytes) (pairs : List (String × ℕ)) :
    ∃ final, qfwAdmissionOperation false q (.ok bytes) correlationId.toNat = .ok final ∧
      Reports false (serve sha256 j (.evaluate ⟨request⟩) senderUid oracle).1 pairs final := by
  rcases serve_evaluate_cases sha256 j ⟨request⟩ senderUid oracle with
    ⟨failure, hanswer, -⟩ | ⟨job, hpolls⟩
  · exact reports_of_error hanswer hencode false q pairs
  have hanswer : (serve sha256 j (.evaluate ⟨request⟩) senderUid oracle).1 = _ :=
    serve_evaluate_response oracle
  cases hresult : evaluateResult sha256 j ⟨request⟩ senderUid oracle with
  | error error =>
    rw [hresult] at hanswer
    exact reports_of_error hanswer hencode false q pairs
  | ok response =>
    rw [hresult] at hanswer hpolls
    have hevaluation := hpolls.isEvaluationOf hj rfl
    rw [hanswer] at hencode ⊢
    have hsendable := (encodeEvaluateResponse_eq_ok_iff.mp hencode).1
    obtain ⟨final, hfinal, -, husable, -⟩ := admissionResponseProcess_spec hq hsendable
      (hid.trans (congrArg Int.toNat hevaluation.requestId.symm)) length_reservationsJson
    obtain ⟨hstate, -⟩ := husable (usable_of_evaluation hservices hevaluation.names)
    refine ⟨final, (qfwEvaluateOperation_of_encoded hencode q).trans hfinal, hstate, ?_,
      fun h => absurd h Bool.false_ne_true⟩
    rw [hstate]
    exact operationState_ne_responseError _

/-- While no set is accepted, the client reports the answer to a reserve, unless that is a combined
one. -/
lemma reports_reservation_iff (hq : q.Sendable)
    (hservices : request.serviceIds.map utf8 = q.serviceIds)
    (hid : q.requestId = request.requestId.toNat)
    (hplain : ∀ s ∈ request.serviceIds, Unescaped s) (valid : (Request.reserve request).Valid)
    (hreachable : Reachable sha256 j) (hj : AnswersFor sha256 request j)
    (hset : ∀ row, j.allocation request.key = some row → row.state ≠ .accepted)
    (hencode : encodeResponse (serve sha256 j (.reserve request) senderUid oracle).1
      correlationId = .ok bytes) :
    ∃ final, qfwAdmissionOperation true q (.ok bytes) correlationId.toNat = .ok final ∧
      (Reports true (serve sha256 j (.reserve request) senderUid oracle).1
          ((answeredPairs sha256 request senderUid j
            (granted (serve sha256 j (.reserve request) senderUid oracle).2.trace)).map nativeTuple)
          final ↔
        ¬ ((∃ job, oracle 0 (.verifyReserve request senderUid) = .ok job) ∧
          ∃ answer, RepeatsCombined sha256 request senderUid j answer)) := by
  have hanswer : (serve sha256 j (.reserve request) senderUid oracle).1 = _ :=
    serve_reserve_response sha256 j request senderUid oracle
  cases hverdict : oracle 0 (.verifyReserve request senderUid) with
  | error failure =>
    rw [(serve_unverified sha256 j hverdict).1] at hanswer
    obtain ⟨final, hfinal, hreports⟩ := reports_of_error hanswer hencode true q _
    refine ⟨final, hfinal, fun _ => ?_, fun _ => hreports⟩
    rintro ⟨⟨job, hjob⟩, -⟩
    cases hjob
  | ok job =>
    have h := reserves_serve sha256 j valid hverdict
    cases hresult : reserveResult sha256 j request senderUid oracle with
    | error error =>
      rw [hresult] at hanswer h
      obtain ⟨final, hfinal, hreports⟩ := reports_of_error hanswer hencode true q _
      refine ⟨final, hfinal, fun _ => ?_, fun _ => hreports⟩
      rintro ⟨-, answer, hrepeats⟩
      cases hrepeats.result_eq h
    | ok response =>
      rw [hresult] at hanswer h
      have hanswers := h.answersTo hreachable hj
        (fun row hrow haccepted => absurd haccepted (hset row hrow)) rfl
      have hrequestId := requestId_of_answer hreachable valid hanswer
      have hpairs := fun hdecision => names_of_accepted_answer hreachable valid hanswer hdecision
      rw [hanswer] at hencode
      have hsendable := (encodeReserveResponse_eq_ok_iff.mp hencode).1
      obtain ⟨final, hfinal, -, husable, hunusable⟩ := admissionResponseProcess_spec hq hsendable
        (hid.trans (congrArg Int.toNat hrequestId.symm)) length_reservationsJson
      refine ⟨final, (qfwReserveOperation_of_encoded hencode q).trans hfinal, ?_⟩
      rw [hanswer]
      by_cases hnames : response.decision = .accepted → ∀ s ∈ response.names, s ∈ request.serviceIds
      · have hdistinct := (services_of_valid valid).2.1
        obtain ⟨hstate, hexports⟩ := husable
          (usable_of_answersTo hservices hdistinct hplain hsendable hanswers hnames)
        refine ⟨fun _ => ?_, fun _ => ⟨hstate, ?_, fun _ haccepted => ?_⟩⟩
        · rintro ⟨-, answer, hrepeats⟩
          cases hrepeats.result_eq h
          obtain ⟨s, hs, hnot⟩ := hrepeats.combined
          exact hnot (hnames hrepeats.accepted s hs)
        · rw [hstate]
          exact operationState_ne_responseError _
        · have hdecision := eq_accepted_of_operationState (hstate.symm.trans haccepted)
          obtain ⟨sorted, hperm, hsorted, htext⟩ := hexports rfl hdecision
          refine ⟨sorted, hperm.trans ?_, hsorted, htext⟩
          rw [← map_nativeTuple_pair]
          exact (hpairs hdecision).map nativeTuple
      · push Not at hnames
        obtain ⟨hdecision, hcombined⟩ := hnames
        have hrefused := hunusable (not_usable_of_combined hservices hcombined)
        refine ⟨fun hreports => absurd hrefused hreports.readable, fun hnot => (hnot ⟨⟨job, rfl⟩,
          response, ?_⟩).elim⟩
        refine (h.names_or_repeats hreachable hset rfl hdecision).resolve_left fun hall => ?_
        obtain ⟨s, hs, hother⟩ := hcombined
        exact hother (hall s hs)

/-- The answer to an evaluation is decided by its rule. -/
lemma decidedBy_evaluation (hj : EvaluatedFor sha256 request j) :
    (serve sha256 j (.evaluate ⟨request⟩) senderUid oracle).1.DecidedBy request
      (adapterCalls (serve sha256 j (.evaluate ⟨request⟩) senderUid oracle).2.trace) := by
  rcases serve_evaluate_cases sha256 j ⟨request⟩ senderUid oracle with
    ⟨failure, hanswer, -⟩ | ⟨job, hpolls⟩
  · obtain ⟨error, herror⟩ := operationError_eq "evaluate" request.requestId failure.error
    rw [hanswer, herror]
    trivial
  rw [serve_evaluate_response]
  cases hresult : evaluateResult sha256 j ⟨request⟩ senderUid oracle with
  | error failure =>
    obtain ⟨error, herror⟩ := operationError_eq "evaluate" request.requestId failure
    dsimp only
    rw [herror]
    trivial
  | ok response =>
    rw [hresult] at hpolls
    exact ⟨hpolls.isEvaluationOf hj rfl, fun hcalls => hpolls.decision_eq hcalls rfl⟩

/-- The answer to a reserve is decided by its rule. -/
lemma decidedBy_reservation (valid : (Request.reserve request).Valid) :
    (serve sha256 j (.reserve request) senderUid oracle).1.DecidedBy request
      (adapterCalls (serve sha256 j (.reserve request) senderUid oracle).2.trace) := by
  rw [serve_reserve_response]
  cases hresult : reserveResult sha256 j request senderUid oracle with
  | error failure =>
    obtain ⟨error, herror⟩ := operationError_eq "reserve" request.requestId failure
    dsimp only
    rw [herror]
    trivial
  | ok response =>
    rcases serve_reserve_cases sha256 j valid senderUid oracle with ⟨failure, herror, -⟩ | h
    · cases herror.symm.trans hresult
    · exact fun hcalls => h.decision_eq hcalls hresult

end Answers

/-! ### Every run -/

lemma valid_firstComponent : (Request.reserve (sampleComponentRequest 0 "qpm-a")).Valid := by
  decide +kernel

/-- The first component of the job was rejected. -/
def sampleDeclined : List Step :=
  [.handle (.reserve (sampleComponentRequest 0 "qpm-a")) valid_firstComponent 1000 rejecting]

lemma toldFrom_sampleDeclined :
    ∀ step ∈ sampleDeclined, step.ToldFrom sampleDigest (sampleComponentRequest 1 "qpm-b") := by
  intro step hstep other hother
  rw [List.mem_singleton.mp hstep] at hother
  cases hother
  have hrequests : sampleDigest (.request (sampleComponentRequest 0 "qpm-a")) ≠
      sampleDigest (.request (sampleComponentRequest 1 "qpm-b")) := by decide +kernel
  have hallocations : sampleDigest (allocationDocument (sampleComponentRequest 0 "qpm-a")) ≠
      sampleDigest (allocationDocument (sampleComponentRequest 1 "qpm-b")) := by decide +kernel
  exact ⟨fun h => absurd h hrequests, fun h => absurd h hallocations⟩

end QfwSlurm
