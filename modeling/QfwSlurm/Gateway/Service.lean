import QfwSlurm.Gateway.Effects

/-!
# The gateway service

The handlers of `gateway/qfw_slurm_gateway/service.py` as interactive programs.  The body of each
`try` of the source is a procedure of its own (`evaluateTry`, `reserveTry`, ...); the handler around
it turns an exception into the error response the source returns.

`_fingerprint` is SHA-256 of a JSON document with sorted keys.  The documents are `Document`, and
the digest is a parameter `sha256` of the service, about which nothing is assumed here.
-/

namespace QfwSlurm

open Interaction

/-! ### Fingerprints and keys -/

/-- The documents that are fingerprinted.  The two admission requests have the same fields, so
`dataclasses.asdict` makes the same document of them. -/
inductive Document where
  | request (request : ReserveRequest)
  | release (request : ReleaseRequest)
  | allocation (clusterName : String) (canonicalJobId jobUid jobGid : ℤ)
      (workload : Option Workload) (serviceIds : List String)
  | reservation (clusterName : String) (canonicalJobId jobUid jobGid : ℤ)
      (workload : Option Workload)
  deriving DecidableEq

/-- The document of `_allocation_fingerprint`. -/
def allocationDocument (request : ReserveRequest) : Document :=
  .allocation request.clusterName request.canonicalJobId request.jobUid request.jobGid
    request.workload (sorted request.serviceIds)

/-- The document of `_reservation_fingerprint`. -/
def reservationDocument (request : ReserveRequest) : Document :=
  .reservation request.clusterName request.canonicalJobId request.jobUid request.jobGid
    request.workload

/-- `_operation_scope` of an admission request. -/
def operationScope (request : ReserveRequest) : Scope :=
  match request.heteroJobId with
  | some heteroJobId => .heterogeneous heteroJobId request.heteroComponent
  | none => .allocation

/-- The allocation an admission request is about. -/
def ReserveRequest.key (request : ReserveRequest) : AllocationKey :=
  ⟨request.clusterName, request.canonicalJobId⟩

/-- The allocation a release request is about. -/
def ReleaseRequest.key (request : ReleaseRequest) : AllocationKey :=
  ⟨request.clusterName, request.canonicalJobId⟩

/-- The operation an admission request is journalled as. -/
def ReserveRequest.operationKey (request : ReserveRequest) (operation : Operation)
    (senderUid : ℤ) : OperationKey :=
  ⟨senderUid, operation, request.requestId, operationScope request⟩

/-- The operation a release request is journalled as. -/
def ReleaseRequest.operationKey (request : ReleaseRequest) (senderUid : ℤ) : OperationKey :=
  ⟨senderUid, .release, request.requestId, .allocation⟩

/-! ### Error responses -/

/-- `_error` -/
def errorResponse (code : GatewayError) (requestId : ℤ) (detail : String) : Response :=
  .error ⟨code, some requestId, some (boundedDiagnostic detail)⟩

/-- `_operation_error` -/
def operationError (operation : String) (requestId : ℤ) (error : PyError) : Response :=
  match error.errorClass with
  | .requestConflict => errorResponse .requestConflict requestId error.message
  | .slurmVerificationError => errorResponse .unauthorized requestId error.message
  | .qfwAdapterError => errorResponse .qpm requestId error.message
  | errorClass =>
    if errorClass.isJournalError then errorResponse .internal requestId error.message
    else errorResponse .internal requestId s!"unexpected {operation} failure: {error.message}"

/-- The `except` clauses of `_release`. -/
def releaseError (requestId : ℤ) (error : PyError) : Response :=
  match error.errorClass with
  | .requestConflict => errorResponse .requestConflict requestId error.message
  | .slurmVerificationError => errorResponse .unauthorized requestId error.message
  | errorClass =>
    if errorClass.isJournalError then errorResponse .internal requestId error.message
    else errorResponse .internal requestId s!"unexpected release failure: {error.message}"

/-- The `except` clauses of `_get_reservations`. -/
def lookupError (requestId : ℤ) (error : PyError) : Response :=
  match error.errorClass with
  | .allocationNotFound => errorResponse .allocationNotFound requestId error.message
  | .allocationNotAccepted => errorResponse .allocationNotAccepted requestId error.message
  | .allocationReleased => errorResponse .allocationReleased requestId error.message
  | .requestConflict => errorResponse .requestConflict requestId error.message
  | .slurmVerificationError => errorResponse .unauthorized requestId error.message
  | errorClass =>
    if errorClass.isJournalError then errorResponse .internal requestId error.message
    else
      errorResponse .internal requestId
        s!"unexpected reservation lookup failure: {error.message}"

/-- `JournalError(message)` -/
def journalError (message : String) : PyError := ⟨.journalError, message⟩

/-- Decode a stored response; `None` has no method `get`. -/
def decodeStored (stored : Option Json) : Gateway Response :=
  match stored with
  | none => throw ⟨.other, "'NoneType' object has no attribute 'get'"⟩
  | some value => ExceptT.mk (pure (responseFromDict value))

/-- Decode a stored response that must be a `ReserveResponse`. -/
def decodeReserve (stored : Option Json) (wrongType : String) : Gateway ReserveResponse := do
  match (← decodeStored stored).asReserve with
  | some response => return response
  | none => throw (journalError wrongType)

/-- Run a procedure and turn an exception into a response. -/
def answer {α : Type} (body : Gateway α) (respond : α → Response) (fail : PyError → Response) :
    Program Query Answer Response := do
  match ← ExceptT.run body with
  | .ok value => return respond value
  | .error error => return fail error

/-! ### Lookup -/

/-- The body of `_get_reservations`. -/
def getReservationsTry (request : GetReservationsRequest) (senderUid : ℤ) :
    Gateway GetReservationsResponse := do
  let job ← verifyLookup request senderUid
  let records ← transact
    (.reservationContext ⟨request.clusterName, job.canonicalJobId⟩ job.uid job.gid)
  return {
    requestId := request.requestId
    canonicalJobId := job.canonicalJobId
    reservations := records.filterMap fun item =>
      item.reservationId.map fun id => ⟨item.serviceId, id⟩ }

/-- `GatewayService._get_reservations` -/
def getReservations (request : GetReservationsRequest) (senderUid : ℤ) :
    Program Query Answer Response :=
  answer (getReservationsTry request senderUid) .getReservations (lookupError request.requestId)

/-! ### Evaluation -/

/-- The loop of `_evaluate_services`. -/
def evaluateServices (request : ReserveRequest) (job : VerifiedJob) :
    List String → Gateway (List ServiceResult)
  | [] => return []
  | serviceId :: rest => do
    let binding ← resolve serviceId
    let result ← adapterEvaluate binding request job
    if result.reservationId ≠ none then
      throw ⟨.qfwAdapterError, s!"QPM {reprText serviceId} evaluation returned a reservation"⟩
    let results ← evaluateServices request job rest
    return result :: results

/-- The decision over the results of all services. -/
def combinedDecision (results : List ServiceResult) : AdmissionDecision :=
  if ∃ item ∈ results, item.decision = .rejected then .rejected
  else if ∃ item ∈ results, item.decision = .delayed then .delayed
  else .accepted

section Handlers

variable (sha256 : Document → String)

/-- `_evaluate` after `begin_operation`: replay the prior outcome. -/
def replayEvaluate (prior : OperationRecord) : Gateway EvaluateResponse := do
  if prior.state ≠ .complete ∨ prior.response.isNone then
    throw (journalError "evaluate operation requires recovery")
  match ← decodeStored prior.response with
  | .evaluate response => return response
  | _ => throw (journalError "stored evaluate response has wrong type")

/-- `_evaluate` after `begin_operation`: ask the QPMs. -/
def attemptEvaluate (request : ReserveRequest) (senderUid : ℤ) (job : VerifiedJob) :
    Gateway EvaluateResponse := do
  let key := request.operationKey .evaluate senderUid
  let results ← tryCatch (evaluateServices request job (sorted request.serviceIds))
    fun error => do
      -- `_journal_failed_evaluation`: a failed evaluation holds nothing and may be repeated.
      transact (.completeOperation key
        (responseToDict (operationError "evaluate" request.requestId error)) .retryable)
      throw error
  let response : EvaluateResponse := ⟨⟨request.requestId, combinedDecision results, results⟩⟩
  let state := if response.decision = .delayed then .retryable else .complete
  transact (.completeOperation key (responseToDict (.evaluate response)) state)
  return response

/-- The body of `_evaluate`. -/
def evaluateTry (request : ReserveRequest) (senderUid : ℤ) : Gateway EvaluateResponse := do
  let job ← verifyReserve request senderUid
  match ← transact (.beginOperation (request.operationKey .evaluate senderUid)
      (sha256 (.request request))) with
  | some prior => replayEvaluate prior
  | none => attemptEvaluate request senderUid job

/-- `GatewayService._evaluate` -/
def evaluate (request : EvaluateRequest) (senderUid : ℤ) : Program Query Answer Response :=
  answer (evaluateTry sha256 request.toReserveRequest senderUid) .evaluate
    (operationError "evaluate" request.requestId)

/-! ### Reservation: one attempt at the QPMs -/

/-- The body of the loop of `_rollback`; `failures` are the texts collected so far. -/
def rollbackOne (request : ReserveRequest) (binding : QPMBinding) (result : ServiceResult)
    (failures : List String) : Gateway (List String) := do
  let (state, diagnostic, failures) ←
    tryCatch
      (do
        let _ ← adapterRelease binding result.reservationId 1
        return (RecordState.rolledBack, (none : Option String), failures))
      fun error =>
        let diagnostic := boundedDiagnostic error.message
        return (RecordState.rollbackFailed, some diagnostic, failures ++ [diagnostic])
  tryCatch
    (do
      transact (.recordReservation request.key
        { serviceId := binding.serviceId
          reservationId := result.reservationId
          qpmRuntimeId := some binding.runtimeId
          qpmGeneration := some binding.generation
          state := state
          requestFingerprint := some (sha256 (reservationDocument request)) }
        diagnostic)
      return failures)
    fun error => return failures ++ [error.message]

/-- The loop of `_rollback` over the accepted results, latest first. -/
def rollbackLoop (request : ReserveRequest) :
    List (QPMBinding × ServiceResult) → List String → Gateway (List String)
  | [], failures => return failures
  | (binding, result) :: rest, failures => do
    let failures ← rollbackOne sha256 request binding result failures
    rollbackLoop request rest failures

/-- `GatewayService._rollback` -/
def rollback (request : ReserveRequest) (accepted : List (QPMBinding × ServiceResult)) :
    Gateway Unit := do
  let failures ←
    tryCatch
      (do
        transact (.setAllocationState request.key .rollingBack)
        return [])
      fun error => return [error.message]
  let failures ← rollbackLoop sha256 request accepted.reverse failures
  if failures ≠ [] then
    throw ⟨.rollbackIncomplete, "allocation rollback was incomplete"⟩

/-- `decision.name.lower()`, the state of a row that holds a QPM's answer. -/
def AdmissionDecision.recordState : AdmissionDecision → RecordState
  | .accepted => .accepted
  | .delayed => .delayed
  | .rejected => .rejected

/-- An exception in the body of the reserve loop, with the values `binding` and `result` have when
it strikes. -/
structure Interrupted where
  error : PyError
  binding : Option QPMBinding
  result : Option ServiceResult

/-- The guarded statements of the reserve loop for one service. -/
def contact (request : ReserveRequest) (job : VerifiedJob) (serviceId : String)
    (reservationFingerprint : String) :
    Procedure Query Answer Interrupted (QPMBinding × ServiceResult) := do
  let binding ← ExceptT.adapt (fun error => ⟨error, none, none⟩) (resolve serviceId)
  ExceptT.adapt (fun error => (⟨error, some binding, none⟩ : Interrupted))
    (transact (.recordReservation request.key
      { serviceId := serviceId
        reservationId := none
        qpmRuntimeId := some binding.runtimeId
        qpmGeneration := some binding.generation
        state := .pending
        requestFingerprint := some reservationFingerprint }
      none))
  let result ← ExceptT.adapt (fun error => ⟨error, some binding, none⟩)
    (adapterReserve binding request job)
  ExceptT.adapt (fun error => (⟨error, some binding, some result⟩ : Interrupted))
    (transact (.recordReservation request.key
      { serviceId := serviceId
        reservationId := result.reservationId
        qpmRuntimeId := some binding.runtimeId
        qpmGeneration := some binding.generation
        state := result.decision.recordState
        requestFingerprint := some reservationFingerprint }
      none))
  return (binding, result)

/-- The results to roll back after an exception: those accepted before it, and the one whose
journal write failed. -/
def Interrupted.pending (interrupted : Interrupted) (accepted : List (QPMBinding × ServiceResult)) :
    List (QPMBinding × ServiceResult) :=
  match interrupted.binding, interrupted.result with
  | some binding, some result =>
    if result.decision = .accepted then accepted ++ [(binding, result)] else accepted
  | _, _ => accepted

/-- The `except` clause of the reserve loop. -/
def abandon (request : ReserveRequest) (accepted : List (QPMBinding × ServiceResult))
    (interrupted : Interrupted) : Gateway ReserveResponse := do
  tryCatch (rollback sha256 request (interrupted.pending accepted)) fun rollbackError =>
    throw ⟨.rollbackIncomplete,
      s!"reserve failed and rollback was incomplete: {rollbackError.message}"⟩
  throw interrupted.error

/-- An accepted result as it is reported once the attempt as a whole was not accepted. -/
def rolledBackResult (decisive item : ServiceResult) : ServiceResult :=
  { item with
    decision := decisive.decision
    reservationId := none
    reasonCode := decisive.reasonCode
    diagnostic := some "rolled back after allocation-level failure" }

/-- The loop of `_reserve_services`. -/
def reserveLoop (request : ReserveRequest) (job : VerifiedJob) (reservationFingerprint : String) :
    List String → List (QPMBinding × ServiceResult) → List ServiceResult → Gateway ReserveResponse
  | [], _, results => return ⟨request.requestId, .accepted, results⟩
  | serviceId :: rest, accepted, results => do
    match ← ExceptT.lift (ExceptT.run (contact request job serviceId reservationFingerprint)) with
    | .error interrupted => abandon sha256 request accepted interrupted
    | .ok (binding, result) =>
      if result.decision = .accepted then
        reserveLoop request job reservationFingerprint rest (accepted ++ [(binding, result)])
          (results ++ [result])
      else
        rollback sha256 request accepted
        return ⟨request.requestId, result.decision,
          accepted.map (fun item => rolledBackResult result item.2) ++ [result]⟩

/-- `GatewayService._reserve_services` -/
def reserveServices (request : ReserveRequest) (job : VerifiedJob) (serviceIds : List String)
    (reservationFingerprint : String) : Gateway ReserveResponse :=
  reserveLoop sha256 request job reservationFingerprint (sorted serviceIds) [] []

/-! ### Reservation: the handler -/

/-- `_reserve` when the operation is known: replay its outcome, or the current accepted set. -/
def replayReserve (request : ReserveRequest) (prior : OperationRecord) :
    Gateway ReserveResponse := do
  if prior.state ≠ .complete ∨ prior.response.isNone then
    throw (journalError "reserve operation requires recovery")
  let response ← decodeReserve prior.response "stored reserve response has wrong type"
  if response.decision = .accepted then
    match ← transact (.acceptedAllocation request.key request.jobUid request.jobGid
        request.serviceIds) with
    | some current =>
      let response ← decodeReserve (some current) "stored allocation response has wrong type"
      return { response with requestId := request.requestId }
    | none => return response
  else return response

/-- `_reserve` when the allocation already has an outcome for every requested service. -/
def reuseAllocation (request : ReserveRequest) (senderUid : ℤ) (plan : AllocationPlan) :
    Gateway ReserveResponse := do
  let response ← decodeReserve plan.existingResponse "stored allocation response has wrong type"
  let response := { response with requestId := request.requestId }
  transact (.completeOperation (request.operationKey .reserve senderUid)
    (responseToDict (.reserve response)) .complete)
  return response

/-- `_journal_failed_attempt` -/
def journalFailedAttempt (request : ReserveRequest) (senderUid : ℤ) (plan : AllocationPlan)
    (error : PyError) : Gateway Unit := do
  let failure := responseToDict (operationError "reserve" request.requestId error)
  if ¬ plan.isExtension then
    transact (.completeAllocation request.key .rolledBack failure)
  transact (.completeOperation (request.operationKey .reserve senderUid) failure .retryable)

/-- Restore the accepted set that an extension started from. -/
def restorePlan (request : ReserveRequest) (plan : AllocationPlan) : Gateway Unit :=
  transact (.restoreAcceptedAllocation request.key plan.existingServices
    (plan.existingResponse.getD .null))

/-- The `except` clause around `_reserve_services`. -/
def recoverAttempt (request : ReserveRequest) (senderUid : ℤ) (plan : AllocationPlan)
    (error : PyError) : Gateway ReserveResponse := do
  if plan.isExtension then restorePlan request plan
  if error.errorClass ≠ .rollbackIncomplete then
    journalFailedAttempt request senderUid plan error
  throw error

/-- The response an extension ends with: the prior results and the new ones by service id. -/
def mergeExtension (request : ReserveRequest) (previous response : ReserveResponse) :
    ReserveResponse :=
  ⟨request.requestId, .accepted,
    (previous.results ++ response.results).insertionSort fun a b => a.serviceId ≤ b.serviceId⟩

/-- The allocation state that a decision leads to. -/
def decisionState : AdmissionDecision → AllocationState
  | .accepted => .accepted
  | .delayed => .delayed
  | .rejected => .rejected

/-- `_reserve` after the QPMs have answered: merge or restore an extension. -/
def settleExtension (request : ReserveRequest) (plan : AllocationPlan)
    (response : ReserveResponse) : Gateway ReserveResponse := do
  if plan.isExtension then
    if response.decision = .accepted then
      let previous ← decodeReserve plan.existingResponse "stored allocation response has wrong type"
      return mergeExtension request previous response
    else
      restorePlan request plan
      return response
  else return response

/-- `_reserve` after the QPMs have answered: journal the outcome. -/
def completeAttempt (request : ReserveRequest) (senderUid : ℤ) (plan : AllocationPlan)
    (response : ReserveResponse) : Gateway ReserveResponse := do
  let encoded := responseToDict (.reserve response)
  let state := decisionState response.decision
  if ¬ plan.isExtension ∨ state = .accepted then
    transact (.completeAllocation request.key state encoded)
  transact (.completeOperation (request.operationKey .reserve senderUid) encoded
    (if state = .delayed then .retryable else .complete))
  return response

/-- `_reserve` for an allocation with services to reserve. -/
def attemptReserve (request : ReserveRequest) (senderUid : ℤ) (job : VerifiedJob)
    (plan : AllocationPlan) : Gateway ReserveResponse := do
  let response ← tryCatch
    (reserveServices sha256 request job plan.missingServices
      (sha256 (reservationDocument request)))
    (recoverAttempt request senderUid plan)
  let response ← settleExtension request plan response
  completeAttempt request senderUid plan response

/-- `_reserve` for an operation that was just begun. -/
def beginReserve (request : ReserveRequest) (senderUid : ℤ) (job : VerifiedJob) :
    Gateway ReserveResponse := do
  let plan ← transact (.beginAllocation request.key request.jobUid request.jobGid
    request.serviceIds (sha256 (allocationDocument request))
    (sha256 (reservationDocument request)))
  if plan.missingServices = [] then reuseAllocation request senderUid plan
  else attemptReserve sha256 request senderUid job plan

/-- The body of `_reserve`. -/
def reserveTry (request : ReserveRequest) (senderUid : ℤ) : Gateway ReserveResponse := do
  let job ← verifyReserve request senderUid
  match ← transact (.beginOperation (request.operationKey .reserve senderUid)
      (sha256 (.request request))) with
  | some prior => replayReserve request prior
  | none => beginReserve sha256 request senderUid job

/-- `GatewayService._reserve` -/
def reserve (request : ReserveRequest) (senderUid : ℤ) : Program Query Answer Response :=
  answer (reserveTry sha256 request senderUid) .reserve (operationError "reserve" request.requestId)

/-! ### Release -/

/-- The outcomes of a release call, as far as `_release_one` journals them. -/
inductive ReleaseOutcome where
  | released
  | notFound
  | staleRuntime
  | qpmFailure
  deriving DecidableEq

def ReleaseOutcome.reservationState : ReleaseOutcome → ReservationState
  | .released => .released
  | .notFound => .notFound
  | .staleRuntime => .staleRuntime
  | .qpmFailure => .qpmFailure

/-- The dictionary `journal_state` of `_release_one`. -/
def ReleaseOutcome.journalState : ReleaseOutcome → RecordState
  | .released => .released
  | .notFound => .released
  | .staleRuntime => .staleRuntime
  | .qpmFailure => .releaseFailed

/-- The row states that `_release_one` leaves alone. -/
def RecordState.isTerminal : RecordState → Bool
  | .released | .rolledBack | .delayed | .rejected => true
  | _ => false

/-- The guarded statements of `_release_one`. -/
def releaseCall (request : ReleaseRequest) (record : ReservationRecord) :
    Gateway (ReleaseOutcome × Option String) := do
  let binding ← resolve record.serviceId
  if some binding.runtimeId ≠ record.qpmRuntimeId then
    return (.staleRuntime, some "QPM incarnation differs from reservation journal")
  else
    let raw ← adapterRelease binding record.reservationId request.reason
    if ¬ raw.confirms then
      throw ⟨.qfwAdapterError, s!"QPM returned release status {reprText (lower raw.status)}"⟩
    return (if lower raw.status = "not-found" then .notFound else .released, none)

/-- `GatewayService._release_one` -/
def releaseOne (request : ReleaseRequest) (record : ReservationRecord) :
    Gateway ReleaseResult := do
  if record.state.isTerminal ∨ record.reservationId = none then
    return { serviceId := record.serviceId
             reservationId := record.reservationId.getD 0
             state := .alreadyTerminal }
  let (outcome, diagnostic) ← tryCatch (releaseCall request record) fun error =>
    return (.qpmFailure, some (boundedDiagnostic error.message))
  transact (.recordReservation request.key { record with state := outcome.journalState }
    diagnostic)
  return { serviceId := record.serviceId
           reservationId := record.reservationId.getD 0
           state := outcome.reservationState
           gatewayError := if outcome = .qpmFailure then some .qpm else none
           diagnostic := diagnostic }

/-- One pass over the rows of an allocation that have a reservation id. -/
def releaseAll (request : ReleaseRequest) : List ReservationRecord → Gateway (List ReleaseResult)
  | [] => return []
  | record :: rest => do
    if record.reservationId = none then releaseAll request rest
    else
      let result ← releaseOne request record
      let results ← releaseAll request rest
      return result :: results

/-- The release results `_release` counts as unresolved. -/
def ReservationState.isUnresolved : ReservationState → Bool
  | .authorizationFailure | .qpmFailure | .gatewayFailure => true
  | _ => false

/-- The release results `retry_release` counts as unresolved. -/
def ReservationState.isRetryUnresolved : ReservationState → Bool
  | .staleRuntime | .qpmFailure | .gatewayFailure => true
  | _ => false

/-- The allocation state after a release pass. -/
def releasedState (unresolved : ReservationState → Bool) (results : List ReleaseResult) :
    AllocationState :=
  if results.any fun item => unresolved item.state then .releaseIncomplete else .released

/-- `_release` when the operation is known: replay its outcome. -/
def replayRelease (prior : OperationRecord) : Gateway ReleaseResponse := do
  if prior.state ≠ .complete ∨ prior.response.isNone then
    throw (journalError "release operation requires recovery")
  match ← decodeStored prior.response with
  | .release response => return response
  | _ => throw (journalError "stored release response has wrong type")

/-- `_release` for an operation that was just begun. -/
def attemptRelease (request : ReleaseRequest) (senderUid : ℤ) : Gateway ReleaseResponse := do
  let status ← transact (.allocationStatus request.key)
  let _ ← verifyRelease request senderUid (Option.map AllocationRow.jobUid status)
  let records ← transact (.reservations request.key)
  let results ← releaseAll request records
  let response : ReleaseResponse := ⟨request.requestId, results⟩
  let encoded := responseToDict (.release response)
  transact (.completeAllocation request.key
    (releasedState ReservationState.isUnresolved results) encoded)
  transact (.completeOperation (request.operationKey senderUid) encoded .complete)
  return response

/-- The body of `_release`. -/
def releaseTry (request : ReleaseRequest) (senderUid : ℤ) : Gateway ReleaseResponse := do
  match ← transact (.beginOperation (request.operationKey senderUid)
      (sha256 (.release request))) with
  | some prior => replayRelease prior
  | none => attemptRelease request senderUid

/-- `GatewayService._release` -/
def release (request : ReleaseRequest) (senderUid : ℤ) : Program Query Answer Response :=
  answer (releaseTry sha256 request senderUid) .release (releaseError request.requestId)

/-- `GatewayService.retry_release` -/
def retryRelease (request : ReleaseRequest) : Gateway ReleaseResponse := do
  let records ← transact (.reservations request.key)
  let results ← releaseAll request records
  let response : ReleaseResponse := ⟨request.requestId, results⟩
  transact (.completeAllocation request.key
    (releasedState ReservationState.isRetryUnresolved results)
    (responseToDict (.release response)))
  return response

/-- `GatewayService.handle`; the allocation lock orders the handlers of one allocation and is not
part of a single handler's computation. -/
def handle (request : Request) (senderUid : ℤ) : Program Query Answer Response :=
  match request with
  | .evaluate request => evaluate sha256 request senderUid
  | .reserve request => reserve sha256 request senderUid
  | .getReservations request => getReservations request senderUid
  | .release request => release sha256 request senderUid

end Handlers

end QfwSlurm
