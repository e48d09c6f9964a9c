import QfwSlurm.Native.Decode

/-!
# Processing responses in the native client

`qfw_release_response_process` of `src/native/operations.c`: the client checks a decoded response
against its request and counts the reservations that remain unresolved.
-/

namespace QfwSlurm.Native

/-- `enum qfw_operation_state` -/
inductive OperationState where
  | invalid
  | accepted
  | delayed
  | rejected
  | clientError
  | gatewayError
  | responseError
  | released
  | releaseUnresolved
  deriving DecidableEq

/-- `QFW_PLUGIN_MAX_ERROR` -/
def maxError : ℕ := maxDiagnostic

/-- `set_diagnostic` into a buffer of `QFW_PLUGIN_MAX_ERROR + 1` bytes. -/
def setDiagnostic (message : List UInt8) : List UInt8 :=
  message.take maxError

structure QsgpReleaseRequest where
  requestId : ℕ
  clusterName : List UInt8
  canonicalJobId : ℕ
  reason : ℕ
  deriving DecidableEq

/-- The fields of `struct qfw_release_operation_result` that the processing fills in. -/
structure ReleaseOperationResult where
  state : OperationState := .invalid
  response : QsgpReleaseResponse := {}
  unresolvedCount : ℕ := 0
  diagnostic : List UInt8 := []
  deriving DecidableEq

/-- `terminal_release_state` -/
def terminalReleaseState (state : ℕ) : Bool :=
  state = ReservationState.released.code ∨ state = ReservationState.alreadyTerminal.code ∨
    state = ReservationState.notFound.code ∨ state = ReservationState.staleRuntime.code

/-- `unresolved_release_state` -/
def unresolvedReleaseState (state : ℕ) : Bool :=
  state = ReservationState.authorizationFailure.code ∨
    state = ReservationState.qpmFailure.code ∨ state = ReservationState.gatewayFailure.code

/-- A response the client refuses. -/
def ReleaseOperationResult.responseError (result : ReleaseOperationResult) (message : String) :
    ReleaseOperationResult :=
  { result with state := .responseError, diagnostic := setDiagnostic (utf8 message) }

/-- The loop of `qfw_release_response_process`; the error is the result of an early return. -/
def countUnresolved : List QsgpReleaseResult → ReleaseOperationResult →
    Except ReleaseOperationResult ReleaseOperationResult
  | [], result => .ok result
  | item :: items, result =>
    if terminalReleaseState item.state then countUnresolved items result
    else if ¬ unresolvedReleaseState item.state then
      .error (result.responseError "gateway returned an unknown release state")
    else
      countUnresolved items
        { result with
          unresolvedCount := result.unresolvedCount + 1
          diagnostic :=
            if result.diagnostic = [] ∧ item.hasDiagnostic then setDiagnostic item.diagnostic
            else result.diagnostic }

/-- `qfw_release_response_process` -/
def qfwReleaseResponseProcess (request : QsgpReleaseRequest) (response : QsgpReleaseResponse)
    (result : ReleaseOperationResult) : ReleaseOperationResult :=
  let result := { result with response := response }
  if response.requestId ≠ request.requestId then
    result.responseError "gateway response request identity does not match"
  else if maxServices < response.results.length then
    result.responseError "gateway returned an oversized release result set"
  else
    match countUnresolved response.results result with
    | .error result => result
    | .ok result =>
      { result with
        state := if result.unresolvedCount = 0 then .released else .releaseUnresolved
        diagnostic :=
          if result.unresolvedCount ≠ 0 ∧ result.diagnostic = [] then
            setDiagnostic (utf8 "one or more reservations remain unresolved")
          else result.diagnostic }

end QfwSlurm.Native
