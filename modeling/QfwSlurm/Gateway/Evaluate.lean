import QfwSlurm.Gateway.Reserve

/-!
# What an evaluation and a lookup can do

Neither touches an allocation or a reservation.  An evaluation journals its operation and asks QPMs
for an estimate; a lookup only reads.
-/

namespace QfwSlurm

open Interaction

/-- The question asks a QPM nothing but where it is and what it would decide. -/
def Query.isEstimate : Query → Prop
  | .call (.resolve _) | .call (.evaluate _ _ _) => True
  | _ => False

/-- Estimates neither ask for a reservation nor give one back. -/
lemma projections_of_isEstimate {calls : List Event} (h : ∀ event ∈ calls, event.1.isEstimate) :
    asked calls = [] ∧ granted calls = [] ∧ returned calls = [] ∧ confirmed calls = [] := by
  have hevent : ∀ event : Event, event.1.isEstimate →
      event.asked = none ∧ event.granted = none ∧ event.returned = none ∧
        event.confirmed = none := by
    rintro ⟨q, answer⟩ hq
    cases q with
    | transaction t => cases hq
    | call c =>
      cases c with
      | resolve serviceId => exact ⟨rfl, rfl, rfl, rfl⟩
      | evaluate binding request job => exact ⟨rfl, rfl, rfl, rfl⟩
      | _ => cases hq
  refine ⟨?_, ?_, ?_, ?_⟩ <;> refine List.filterMap_eq_nil_iff.mpr fun event hmem => ?_
  · exact (hevent event (h event hmem)).1
  · exact (hevent event (h event hmem)).2.1
  · exact (hevent event (h event hmem)).2.2.1
  · exact (hevent event (h event hmem)).2.2.2

section Outcomes

variable (sha256 : Document → String) (request : ReserveRequest) (senderUid : ℤ) (j : Journal)

/-- The state and stored response of an evaluation that ended with `result`. -/
def evaluationOutcome : Except PyError EvaluateResponse → OperationState × Json
  | .ok response =>
    (if response.decision = .delayed then .retryable else .complete,
      responseToDict (.evaluate response))
  | .error error =>
    (.retryable, responseToDict (operationError "evaluate" request.requestId error))

/-- The ways the body of `_evaluate` can end when journal calls succeed. -/
inductive Evaluates : Except PyError EvaluateResponse → Journal → List Event → Prop
  /-- The verifier refused, the request id was used before, or the outcome is replayed. -/
  | idle (result : Except PyError EvaluateResponse) : Evaluates result j []
  /-- The QPMs were asked. -/
  | evaluated (result : Except PyError EvaluateResponse) (calls : List Event)
      (hbegin : j.MayBegin (request.operationKey .evaluate senderUid) (sha256 (.request request)))
      (hcalls : ∀ event ∈ calls, event.1.isEstimate) :
    Evaluates result
      ((j.putOperation (request.operationKey .evaluate senderUid)
        (begunRow (sha256 (.request request)))).putOperation
          (request.operationKey .evaluate senderUid)
          ⟨sha256 (.request request), (evaluationOutcome request result).1,
            some (evaluationOutcome request result).2⟩) calls

end Outcomes

/-- An evaluation asks for estimates alone. -/
lemma Evaluates.isEstimate {sha256 : Document → String} {request : ReserveRequest} {senderUid : ℤ}
    {j j' : Journal} {result : Except PyError EvaluateResponse} {calls : List Event}
    (h : Evaluates sha256 request senderUid j result j' calls) :
    ∀ event ∈ calls, event.1.isEstimate := by
  cases h with
  | idle => exact fun event hevent => nomatch hevent
  | evaluated calls hbegin hcalls => exact hcalls

/-! ### A verified evaluation in detail -/

section Details

variable (sha256 : Document → String) (request : ReserveRequest) (senderUid : ℤ) (job : VerifiedJob)
  (j : Journal)

/-- The calls of the loop over the services and what it ends with: each service in turn is resolved
and asked for an estimate, up to the first one that fails. -/
inductive Estimates : List String → Except PyError (List ServiceResult) → List Event → Prop
  /-- No service is left. -/
  | done : Estimates [] (.ok []) []
  /-- `resolve` raised. -/
  | unresolved (s : String) (rest : List String) (failure : AdapterFailure) :
    Estimates (s :: rest) (.error failure.error) [⟨.call (.resolve s), .error failure⟩]
  /-- `evaluate` raised. -/
  | unanswered (s : String) (rest : List String) (qpm : Incarnation) (failure : AdapterFailure) :
    Estimates (s :: rest) (.error failure.error)
      [⟨.call (.resolve s), .ok qpm⟩,
        ⟨.call (.evaluate (qpm.binding s) request job), .error failure⟩]
  /-- The QPM answered with a reservation. -/
  | misled (s : String) (rest : List String) (qpm : Incarnation) (admission : Admission)
      (h : admission.reservationId ≠ none) :
    Estimates (s :: rest)
      (.error ⟨.qfwAdapterError, s!"QPM {reprText s} evaluation returned a reservation"⟩)
      [⟨.call (.resolve s), .ok qpm⟩,
        ⟨.call (.evaluate (qpm.binding s) request job), .ok admission⟩]
  /-- The QPM answered, and the loop goes on. -/
  | answered (s : String) (rest : List String) (qpm : Incarnation) (admission : Admission)
      (h : admission.reservationId = none) (result : Except PyError (List ServiceResult))
      (calls : List Event) (hrest : Estimates rest result calls) :
    Estimates (s :: rest) (result.map (admission.result (qpm.binding s) :: ·))
      (⟨.call (.resolve s), .ok qpm⟩ ::
        ⟨.call (.evaluate (qpm.binding s) request job), .ok admission⟩ :: calls)

/-- What an evaluation that is already known answers. -/
inductive ReplaysEvaluate (row : OperationRow) : Except PyError EvaluateResponse → Prop
  /-- The operation is not complete. -/
  | unfinished (h : row.state ≠ .complete ∨ row.responseJson = none) :
    ReplaysEvaluate row (.error (journalError "evaluate operation requires recovery"))
  /-- The stored response is not one of an evaluation. -/
  | unreadable (error : PyError) (hstate : row.state = .complete)
      (h : ∀ response, row.responseJson ≠ some (responseToDict (.evaluate response))) :
    ReplaysEvaluate row (.error error)
  /-- The stored response. -/
  | stored (value : Json) (response : EvaluateResponse) (hstate : row.state = .complete)
      (hvalue : row.responseJson = some value)
      (h : responseFromDict value = .ok (.evaluate response)) :
    ReplaysEvaluate row (.ok response)

/-- The response made of the results of all services. -/
def evaluateResponse (results : List ServiceResult) : EvaluateResponse :=
  ⟨⟨request.requestId, combinedDecision results, results⟩⟩

/-- The ways the body of `_evaluate` can end for a verified request when journal calls succeed. -/
inductive Polls : Except PyError EvaluateResponse → Journal → List Event → Prop
  /-- The request id was used for another request. -/
  | conflicting (row : OperationRow)
      (hrow : j.operation (request.operationKey .evaluate senderUid) = some row)
      (hne : row.fingerprint ≠ sha256 (.request request)) :
    Polls (.error ⟨.requestConflict, "request ID reused with different content"⟩) j []
  /-- The operation is known. -/
  | replayed (row : OperationRow) (result : Except PyError EvaluateResponse)
      (hrow : j.operation (request.operationKey .evaluate senderUid) = some row)
      (hfingerprint : row.fingerprint = sha256 (.request request))
      (hstate : row.state ≠ .retryable) (h : ReplaysEvaluate row result) :
    Polls result j []
  /-- The QPMs were asked. -/
  | evaluated (outcome : Except PyError (List ServiceResult)) (calls : List Event)
      (hbegin : j.MayBegin (request.operationKey .evaluate senderUid) (sha256 (.request request)))
      (h : Estimates request job (sorted request.serviceIds) outcome calls) :
    Polls (outcome.map (evaluateResponse request))
      ((j.putOperation (request.operationKey .evaluate senderUid)
        (begunRow (sha256 (.request request)))).putOperation
          (request.operationKey .evaluate senderUid)
          ⟨sha256 (.request request),
            (evaluationOutcome request (outcome.map (evaluateResponse request))).1,
            some (evaluationOutcome request (outcome.map (evaluateResponse request))).2⟩) calls

end Details

/-- The calls of the loop are estimates. -/
lemma Estimates.isEstimate {request : ReserveRequest} {job : VerifiedJob} {serviceIds : List String}
    {result : Except PyError (List ServiceResult)} {calls : List Event}
    (h : Estimates request job serviceIds result calls) : ∀ event ∈ calls, event.1.isEstimate := by
  induction h with
  | done => exact fun event hevent => nomatch hevent
  | unresolved s rest failure => simp [Query.isEstimate]
  | unanswered s rest qpm failure => simp [Query.isEstimate]
  | misled s rest qpm admission h => simp [Query.isEstimate]
  | answered s rest qpm admission h result calls hrest ih =>
    intro event hevent
    rcases List.mem_cons.mp hevent with rfl | hevent
    · trivial
    rcases List.mem_cons.mp hevent with rfl | hevent
    · trivial
    · exact ih event hevent

/-- Estimates are calls to the adapter. -/
lemma adapterCalls_of_isEstimate {calls : List Event} (h : ∀ event ∈ calls, event.1.isEstimate) :
    adapterCalls calls = calls := by
  refine List.filter_eq_self.mpr fun event hevent => ?_
  obtain ⟨t | c, answer⟩ := event
  · exact (h _ hevent).elim
  · cases c <;> first | rfl | exact (h _ hevent).elim

section Executing

variable (oracle : Oracle) (sha256 : Document → String) (request : ReserveRequest)
  (senderUid : ℤ) (w : GatewayWorld)

/-- The loop leaves the journal alone. -/
lemma exec_evaluateServices (job : VerifiedJob) (serviceIds : List String) :
    ∃ result events,
      Procedure.exec (surroundings oracle noFaults) (evaluateServices request job serviceIds) w =
        (result, ⟨w.state, w.trace ++ events⟩) ∧
      Estimates request job serviceIds result events := by
  induction serviceIds generalizing w with
  | nil => exact ⟨.ok [], [], by simp [evaluateServices], .done⟩
  | cons s rest ih =>
    unfold evaluateServices
    have hresolve := exec_resolve oracle noFaults w s
    cases hqpm : oracle w.trace.length (.resolve s) with
    | error failure =>
      rw [hqpm] at hresolve
      exact ⟨_, _, Procedure.exec_bind_error hresolve _, .unresolved s rest failure⟩
    | ok qpm =>
      rw [hqpm] at hresolve
      rw [Procedure.exec_bind_ok hresolve]
      have hevaluate := exec_adapterEvaluate oracle noFaults
        ⟨w.state, w.trace ++ [⟨.call (.resolve s), .ok qpm⟩]⟩ (qpm.binding s) request job
      revert hevaluate
      generalize oracle _ (.evaluate (qpm.binding s) request job) = answer
      intro hevaluate
      cases answer with
      | error failure =>
        refine ⟨_, _, (Procedure.exec_bind_error hevaluate _).trans ?_,
          .unanswered s rest qpm failure⟩
        simp
      | ok admission =>
        rw [Procedure.exec_bind_ok hevaluate]
        by_cases hid : admission.reservationId = none
        · rw [if_neg (by simpa using hid)]
          obtain ⟨result, events, hexec, hestimates⟩ := ih ⟨w.state,
            w.trace ++ [⟨.call (.resolve s), .ok qpm⟩] ++
              [⟨.call (.evaluate (qpm.binding s) request job), .ok admission⟩]⟩
          refine ⟨_, _, ?_, .answered s rest qpm admission hid result events hestimates⟩
          cases result with
          | error error =>
            rw [Procedure.exec_bind_error hexec]
            simp [Except.map]
          | ok results =>
            rw [Procedure.exec_bind_ok hexec]
            simp [Except.map]
        · rw [if_pos (by simpa using hid)]
          refine ⟨_, _, ?_, .misled s rest qpm admission hid⟩
          rw [Procedure.exec_bind_error (Procedure.exec_throw _ _ _)]
          simp

/-- Replaying a known evaluation. -/
lemma exec_replayEvaluate (row : OperationRow) :
    Ends w (surroundings oracle noFaults) (replayEvaluate ⟨row.state, row.responseJson⟩)
      fun result j' calls => ReplaysEvaluate row result ∧ j' = w.state ∧ calls = [] := by
  unfold replayEvaluate
  by_cases hunfinished : row.state ≠ .complete ∨ row.responseJson = none
  · rw [if_pos (by simpa using hunfinished)]
    exact Ends.of_exec (Procedure.exec_bind_error (Procedure.exec_throw _ _ _) _)
      (List.append_nil _).symm ⟨.unfinished hunfinished, rfl, rfl⟩
  · rw [if_neg (by simpa using hunfinished)]
    push Not at hunfinished
    obtain ⟨hstate, hresponse⟩ := hunfinished
    obtain ⟨value, hvalue⟩ := Option.ne_none_iff_exists'.mp hresponse
    have hdecode : Procedure.exec (surroundings oracle noFaults) (decodeStored row.responseJson) w =
        (responseFromDict value, w) := by
      rw [hvalue]
      rfl
    cases hread : responseFromDict value with
    | error error =>
      rw [hread] at hdecode
      refine Ends.of_exec (Procedure.exec_bind_error hdecode _) (List.append_nil _).symm
        ⟨.unreadable error hstate fun response h => ?_, rfl, rfl⟩
      cases hvalue.symm.trans h
      simp at hread
    | ok response =>
      rw [hread] at hdecode
      refine Ends.bind hdecode (List.append_nil _).symm rfl ?_
      cases response with
      | evaluate response =>
        exact Ends.of_exec (Procedure.exec_pure _ _ _) (List.append_nil _).symm
          ⟨.stored value response hstate hvalue hread, rfl, rfl⟩
      | _ =>
        refine Ends.of_exec (Procedure.exec_throw _ _ _) (List.append_nil _).symm
          ⟨.unreadable _ hstate fun response h => ?_, rfl, rfl⟩
        cases hvalue.symm.trans h
        simp at hread

/-- What `_evaluate` does once its operation has begun. -/
lemma exec_attemptEvaluate (job : VerifiedJob) (j : Journal)
    (hbegin : j.MayBegin (request.operationKey .evaluate senderUid) (sha256 (.request request)))
    (hw : w.state = j.putOperation (request.operationKey .evaluate senderUid)
      (begunRow (sha256 (.request request)))) :
    Ends w (surroundings oracle noFaults) (attemptEvaluate request senderUid job)
      (Polls sha256 request senderUid job j) := by
  obtain ⟨result, events, hservices, hestimates⟩ :=
    exec_evaluateServices oracle request w job (sorted request.serviceIds)
  have hcalls : adapterCalls events = events := adapterCalls_of_isEstimate hestimates.isEstimate
  have hoperation : w.state.operation (request.operationKey .evaluate senderUid) =
      some (begunRow (sha256 (.request request))) := by
    simp [hw]
  unfold attemptEvaluate
  cases result with
  | error error =>
    have hfailed := (Procedure.exec_tryCatch_error hservices fun error => do
      transact (.completeOperation (request.operationKey .evaluate senderUid)
        (responseToDict (operationError "evaluate" request.requestId error)) .retryable)
      throw error).trans
      ((Procedure.exec_bind_ok (exec_completeOperation oracle ⟨w.state, w.trace ++ events⟩
        hoperation _ (by simp)) _).trans (Procedure.exec_throw _ _ _))
    refine Ends.of_exec (Procedure.exec_bind_error hfailed _) (List.append_assoc _ _ _) ?_
    rw [adapterCalls_append, show adapterCalls [_] = [] from rfl, List.append_nil, hw, hcalls]
    exact .evaluated (.error error) _ hbegin hestimates
  | ok results =>
    have hstate : (if combinedDecision results = .delayed then OperationState.retryable
        else .complete) ≠ .started := by
      split_ifs <;> simp
    have hcomplete := exec_completeOperation oracle ⟨w.state, w.trace ++ events⟩ hoperation
      (responseToDict (.evaluate ⟨⟨request.requestId, combinedDecision results, results⟩⟩)) hstate
    refine Ends.bind_calls (Procedure.exec_tryCatch_ok hservices _) rfl ?_
    refine Ends.bind hcomplete rfl rfl ?_
    refine Ends.of_exec (Procedure.exec_pure _ _ _) (List.append_nil _).symm ?_
    rw [show adapterCalls [] = [] from rfl, List.append_nil, hw, hcalls]
    exact .evaluated (.ok results) _ hbegin hestimates

/-- Every run of the body of `_evaluate` for a verified request ends in one of the listed ways. -/
theorem exec_evaluateTry_verified {job : VerifiedJob}
    (hjob : oracle w.trace.length (.verifyReserve request senderUid) = .ok job) :
    Ends w (surroundings oracle noFaults) (evaluateTry sha256 request senderUid)
      (Polls sha256 request senderUid job w.state) := by
  have hverify := exec_invoke oracle noFaults w (.verifyReserve request senderUid)
    (Except.mapError VerifierFailure.error)
  rw [hjob] at hverify
  refine Ends.bind hverify rfl rfl ?_
  have htransact := exec_transact_noFaults oracle
    ⟨w.state, w.trace ++ [⟨.call (.verifyReserve request senderUid), .ok job⟩]⟩
    (.beginOperation (request.operationKey .evaluate senderUid) (sha256 (.request request)))
  rw [Transaction.apply] at htransact
  rcases beginOperation_cases (request.operationKey .evaluate senderUid)
    (sha256 (.request request)) w.state with
    ⟨row, hrow, hne, hbegin⟩ | ⟨row, hrow, heq, hstate, hbegin⟩ | ⟨hmay, hbegin⟩
  · rw [hbegin] at htransact
    exact Ends.of_exec (Procedure.exec_bind_error htransact _) rfl (.conflicting row hrow hne)
  · rw [hbegin] at htransact
    refine Ends.bind htransact rfl rfl ?_
    refine Ends.mono (exec_replayEvaluate oracle _ row) ?_
    rintro result j' calls ⟨hreplay, rfl, rfl⟩
    exact .replayed row result hrow heq hstate hreplay
  · rw [hbegin] at htransact
    refine Ends.bind htransact rfl rfl ?_
    exact exec_attemptEvaluate oracle sha256 request senderUid _ job w.state hmay rfl

/-- The details left out. -/
lemma Polls.evaluates {job : VerifiedJob} {j j' : Journal}
    {result : Except PyError EvaluateResponse} {calls : List Event}
    (h : Polls sha256 request senderUid job j result j' calls) :
    Evaluates sha256 request senderUid j result j' calls := by
  cases h with
  | conflicting row hrow hne => exact .idle _
  | replayed row result hrow hfingerprint hstate h => exact .idle _
  | evaluated outcome calls hbegin h => exact .evaluated _ _ hbegin h.isEstimate

/-- Every run of the body of `_evaluate` ends in one of the listed ways. -/
theorem exec_evaluateTry :
    Ends w (surroundings oracle noFaults) (evaluateTry sha256 request senderUid)
      (Evaluates sha256 request senderUid w.state) := by
  cases hjob : oracle w.trace.length (.verifyReserve request senderUid) with
  | error failure =>
    have hverify := exec_invoke oracle noFaults w (.verifyReserve request senderUid)
      (Except.mapError VerifierFailure.error)
    rw [hjob] at hverify
    exact Ends.of_exec (Procedure.exec_bind_error hverify _) rfl (.idle _)
  | ok job =>
    refine Ends.mono (exec_evaluateTry_verified oracle sha256 request senderUid w hjob) ?_
    exact fun result j' calls h => h.evaluates

end Executing

/-! ### Lookups -/

/-- Every run of the body of `_get_reservations` leaves the journal alone and calls no QPM. -/
theorem exec_getReservationsTry (oracle : Oracle) (request : GetReservationsRequest)
    (senderUid : ℤ) (w : GatewayWorld) :
    Ends w (surroundings oracle noFaults) (getReservationsTry request senderUid)
      fun _ j' calls => j' = w.state ∧ calls = [] := by
  have hverify := exec_invoke oracle noFaults w (.verifyLookup request senderUid)
    (Except.mapError VerifierFailure.error)
  unfold getReservationsTry verifyLookup
  cases hjob : oracle w.trace.length (.verifyLookup request senderUid) with
  | error failure =>
    rw [hjob] at hverify
    exact Ends.of_exec (Procedure.exec_bind_error hverify _) rfl ⟨rfl, rfl⟩
  | ok job =>
    rw [hjob] at hverify
    refine Ends.bind hverify rfl rfl ?_
    have htransact := exec_transact_noFaults oracle
      ⟨w.state, w.trace ++ [⟨.call (.verifyLookup request senderUid), .ok job⟩]⟩
      (.reservationContext ⟨request.clusterName, job.canonicalJobId⟩ job.uid job.gid)
    cases hcontext : w.state.reservationContext ⟨request.clusterName, job.canonicalJobId⟩ job.uid
      job.gid with
    | error error =>
      rw [Transaction.apply, hcontext] at htransact
      exact Ends.of_exec (Procedure.exec_bind_error htransact _) rfl ⟨rfl, rfl⟩
    | ok records =>
      rw [Transaction.apply, hcontext] at htransact
      refine Ends.bind htransact rfl rfl ?_
      exact Ends.of_exec (Procedure.exec_pure _ _ _) (List.append_nil _).symm ⟨rfl, rfl⟩

end QfwSlurm
