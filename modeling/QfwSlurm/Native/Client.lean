import QfwSlurm.Native.BuiltRequest
import QfwSlurm.Native.Network

/-!
# The operations of the native client

`src/native/operations.c` as a whole: a request is built, one of the four calls of
`src/native/qsgp_client.c` sends it, and the response is processed.  The correlation id of a call
comes from the request id, the process id and the clock.

The four calls are the calls of `qfwGatewayCall` at the types of their responses
(`qfwGatewayCall_reserve` and its siblings), so that what is known of these holds of the
operations.
-/

namespace QfwSlurm.Native

open Wire

/-! ### Calls -/

/-- `correlation_id`; the clock may fail. -/
def correlationId (requestId pid : ℕ) (now : Option (ℕ × ℕ)) : ℕ :=
  let value := requestId ^^^ (pid % 2 ^ 64)
  let value := match now with
    | none => value
    | some (seconds, nanoseconds) =>
      (value ^^^ (seconds % 2 ^ 64)) ^^^ (nanoseconds * 2 ^ 32 % 2 ^ 64)
  if value = 0 then 2 ^ 64 - 1 else value

/-- What a call finds: the process id, the monotonic clock, and what the exchange meets with. -/
structure Calling where
  pid : ℕ
  now : Option (ℕ × ℕ)
  around : CallSurroundings

/-- The correlation id of a call. -/
def Calling.correlation (calling : Calling) (requestId : ℕ) : ℕ :=
  correlationId requestId calling.pid calling.now

lemma correlationId_bounds {requestId : ℕ} (h : requestId < 2 ^ 64) (pid : ℕ)
    (now : Option (ℕ × ℕ)) :
    0 < correlationId requestId pid now ∧ correlationId requestId pid now < 2 ^ 64 := by
  have hcast (n : ℕ) : n % 2 ^ 64 < 2 ^ 64 := Nat.mod_lt _ (by decide)
  have hstart := Nat.xor_lt_two_pow h (hcast pid)
  unfold correlationId
  dsimp only
  split_ifs with hzero
  · exact ⟨by decide, by decide⟩
  · refine ⟨Nat.pos_of_ne_zero hzero, ?_⟩
    rcases now with - | ⟨seconds, nanoseconds⟩
    · exact hstart
    · exact Nat.xor_lt_two_pow (Nat.xor_lt_two_pow hstart (hcast _)) (hcast _)

/-- The configuration of the plugin, and the client that it gives. -/
def loadClient (getpwnam : List UInt8 → Option ℕ) (file : Option ConfigFile) :
    Except String (PluginConfig × GatewayClient) := do
  let config ← qfwPluginConfigLoad getpwnam file
  return (config, ← qfwGatewayClientInit config)

namespace GatewayClient

variable (client : GatewayClient) (calling : Calling)

/-- What the four calls share: the request is encoded and exchanged for the expected response. -/
def exchange {α : Type} (requestId : ℕ) (encode : ℕ → Except Status (List UInt8))
    (expectedResponse : MessageType) (decode : List UInt8 → Except Status (QsgpHeader × α)) :
    Except CallError α :=
  match encode (calling.correlation requestId) with
  | .error status => .error (.failed .errorLocal status)
  | .ok frame =>
    gatewayExchange (callFrame client frame calling.around).1 (calling.correlation requestId)
      expectedResponse decode

/-- `qfw_gateway_evaluate` -/
def qfwGatewayEvaluate (request : QsgpReserveRequest) : Except CallError QsgpReserveResponse :=
  client.exchange calling request.requestId (qsgpEncodeEvaluateRequest request) .evaluateResponse
    qsgpDecodeEvaluateResponse

/-- `qfw_gateway_reserve` -/
def qfwGatewayReserve (request : QsgpReserveRequest) : Except CallError QsgpReserveResponse :=
  client.exchange calling request.requestId (qsgpEncodeReserveRequest request) .reserveResponse
    qsgpDecodeReserveResponse

/-- `qfw_gateway_release` -/
def qfwGatewayRelease (request : QsgpReleaseRequest) : Except CallError QsgpReleaseResponse :=
  client.exchange calling request.requestId (qsgpEncodeReleaseRequest request) .releaseResponse
    qsgpDecodeReleaseResponse

/-- `qfw_gateway_get_reservations` -/
def qfwGatewayGetReservations (request : QsgpGetReservationsRequest) :
    Except CallError QsgpGetReservationsResponse :=
  client.exchange calling request.requestId (qsgpEncodeGetReservationsRequest request)
    .getReservationsResponse qsgpDecodeGetReservationsResponse

end GatewayClient

/-! ### Operations -/

/-- `struct qfw_reserve_operation_result`.  Of the request nothing is read but its id, and the call
error is absent where the call has not failed. -/
structure ReserveOutcome where
  requestId : ℕ := 0
  result : ReserveOperationResult := {}
  callError : Option CallError := none
  deriving DecidableEq

/-- `struct qfw_release_operation_result` -/
structure ReleaseOutcome where
  requestId : ℕ := 0
  result : ReleaseOperationResult := {}
  callError : Option CallError := none
  deriving DecidableEq

/-- `struct qfw_get_reservations_operation_result` -/
structure LookupOutcome where
  requestId : ℕ := 0
  state : OperationState := .invalid
  response : QsgpGetReservationsResponse := {}
  callError : Option CallError := none
  reservationsJson : List UInt8 := List.replicate environmentSize 0
  diagnostic : List UInt8 := []
  deriving DecidableEq

/-- The state of `map_call_failure`. -/
def CallError.operationState : CallError → OperationState
  | .failed _ _ => .clientError
  | .refused _ => .gatewayError

/-- The request id that `qfw_build_reserve_request` leaves behind where it fails: it is there when
the names are resolved. -/
def requestIdLeft (options : QuantumOptions) (allocation : AllocationContext) : ℕ :=
  if allocation.clusterName = [] ∨ allocation.canonicalJobId = 0 ∨ allocation.walltimeNs = 0 ∨
      qfwQuantumOptionsValidate options ≠ .ok () ∨
      maxClusterName < allocation.clusterName.length then 0
  else qfwRequestId allocation.clusterName allocation.canonicalJobId allocation.allocationEpoch
    MessageType.reserveRequest.code

/-- The message and state of an operation that has built no request. -/
def buildFailure (options : QuantumOptions) (allocation : AllocationContext)
    (message : List UInt8) : ReserveOutcome where
  requestId := requestIdLeft options allocation
  result := { state := .invalid, diagnostic := setDiagnostic message }

namespace GatewayClient

variable (client : GatewayClient) (calling : Calling)

/-- `qfw_reserve_operation` -/
def qfwReserveOperation (config : PluginConfig) (options : QuantumOptions)
    (allocation : AllocationContext) : Except C.Stop ReserveOutcome :=
  match qfwBuildReserveRequest config options allocation with
  | .error message => .ok (buildFailure options allocation message)
  | .ok request =>
    match client.qfwGatewayReserve calling request with
    | .error error => .ok ⟨request.requestId, mapCallFailure error, some error⟩
    | .ok response => do
      return ⟨request.requestId, ← qfwReserveResponseProcess request response {}, none⟩

/-- The request of `qfw_evaluate_operation`, which has a request id of its own. -/
def evaluationOf (allocation : AllocationContext) (request : QsgpReserveRequest) :
    QsgpReserveRequest :=
  { request with
    requestId := qfwRequestId allocation.clusterName allocation.canonicalJobId
      allocation.allocationEpoch MessageType.evaluateRequest.code }

/-- `qfw_evaluate_operation` -/
def qfwEvaluateOperation (config : PluginConfig) (options : QuantumOptions)
    (allocation : AllocationContext) : Except C.Stop ReserveOutcome :=
  match qfwBuildReserveRequest config options allocation with
  | .error message => .ok (buildFailure options allocation message)
  | .ok built =>
    let request := evaluationOf allocation built
    match client.qfwGatewayEvaluate calling request with
    | .error error => .ok ⟨request.requestId, mapCallFailure error, some error⟩
    | .ok response => do
      return ⟨request.requestId, ← admissionResponseProcess request response {} false, none⟩

/-- The request of `qfw_release_operation`. -/
def releaseOf (allocation : AllocationContext) (reason : ℕ) : QsgpReleaseRequest where
  requestId := qfwRequestId allocation.clusterName allocation.canonicalJobId
    allocation.allocationEpoch MessageType.releaseRequest.code
  clusterName := allocation.clusterName
  canonicalJobId := allocation.canonicalJobId
  reason := reason

/-- `qfw_release_operation` -/
def qfwReleaseOperation (allocation : AllocationContext) (reason : ℕ) : ReleaseOutcome :=
  if allocation.clusterName = [] ∨ allocation.canonicalJobId = 0 then
    { result := { state := .invalid,
                  diagnostic := setDiagnostic (utf8 "release allocation identity is invalid") } }
  else
    let request := releaseOf allocation reason
    match client.qfwGatewayRelease calling request with
    | .error error =>
      ⟨request.requestId, { state := error.operationState,
                            diagnostic := setDiagnostic (callErrorMessage error) }, some error⟩
    | .ok response => ⟨request.requestId, qfwReleaseResponseProcess request response {}, none⟩

/-- The request of `qfw_get_reservations_operation`. -/
def lookupOf (clusterName : List UInt8) (observedJobId jobUid jobGid : ℕ) :
    QsgpGetReservationsRequest where
  requestId := qfwRequestId clusterName observedJobId 0 MessageType.getReservationsRequest.code
  clusterName := clusterName
  observedJobId := observedJobId
  jobUid := jobUid
  jobGid := jobGid

/-- The end of `qfw_get_reservations_operation`. -/
def lookupResult (request : QsgpGetReservationsRequest) (response : QsgpGetReservationsResponse) :
    Except C.Stop LookupOutcome :=
  let result : LookupOutcome := { requestId := request.requestId, response := response }
  let refused (left : List UInt8) : LookupOutcome := { result with
    state := .responseError
    reservationsJson := left
    diagnostic := setDiagnostic (utf8 "gateway returned an invalid reservation set") }
  if response.requestId ≠ request.requestId ∨ response.canonicalJobId = 0 then
    .ok (refused result.reservationsJson)
  else
    match qfwLookupReservationsJson response result.reservationsJson environmentSize with
    | .ok written => .ok { result with state := .accepted, reservationsJson := written }
    | .error (.refused left) => .ok (refused left)
    | .error .outside => .error .outside

/-- `qfw_get_reservations_operation` -/
def qfwGetReservationsOperation (clusterName : List UInt8) (observedJobId jobUid jobGid : ℕ) :
    Except C.Stop LookupOutcome :=
  if clusterName = [] ∨ maxClusterName < clusterName.length ∨ observedJobId = 0 then
    .ok { state := .invalid,
          diagnostic := setDiagnostic (utf8 "reservation lookup identity is invalid") }
  else
    let request := lookupOf clusterName observedJobId jobUid jobGid
    match client.qfwGatewayGetReservations calling request with
    | .error error =>
      .ok { requestId := request.requestId, state := error.operationState,
            diagnostic := setDiagnostic (callErrorMessage error), callError := some error }
    | .ok response => lookupResult request response

end GatewayClient

/-! ### The calls as calls of one kind -/

section Calls

variable {received : Except CallError (List UInt8)} {correlation : ℕ}
  {expectedResponse : MessageType}

/-- An exchange whose response is taken as a message. -/
lemma gatewayExchange_readAs {α : Type} (kind : α → NativeMessage)
    (decode : List UInt8 → Except Status (QsgpHeader × α)) :
    gatewayExchange received correlation expectedResponse (fun data => readAs kind (decode data)) =
      (gatewayExchange received correlation expectedResponse decode).map kind := by
  rcases received with error | frame
  · rfl
  rcases hheader : qsgpDecodeHeader frame with status | header
  · simp [gatewayExchange, hheader, bind, Except.bind, Except.mapError, Except.map]
  by_cases hcorrelation : header.correlationId = correlation
  swap
  · simp [gatewayExchange, hheader, hcorrelation, bind, Except.bind, Except.mapError, Except.map,
      throw, throwThe, MonadExceptOf.throw]
  by_cases herror : header.messageType = MessageType.errorResponse.code
  · rcases hremote : qsgpDecodeErrorResponse frame with status | ⟨_, remote⟩ <;>
      simp [gatewayExchange, hheader, hcorrelation, herror, hremote, bind, Except.bind,
        Except.mapError, Except.map, throw, throwThe, MonadExceptOf.throw]
  by_cases hexpected : header.messageType = expectedResponse.code
  · have hother := hexpected ▸ herror
    rcases hdecode : decode frame with status | ⟨_, response⟩ <;>
      simp [gatewayExchange, hheader, hcorrelation, hother, hexpected, hdecode, readAs, bind,
        Except.bind, pure, Except.pure, Except.mapError, Except.map]
  · simp [gatewayExchange, hheader, hcorrelation, herror, hexpected, bind, Except.bind,
      Except.mapError, Except.map, throw, throwThe, MonadExceptOf.throw]

/-- The exchange of a call whose response is taken as a message. -/
lemma GatewayClient.exchange_readAs {α : Type} (client : GatewayClient) (calling : Calling)
    (requestId : ℕ) (encode : ℕ → Except Status (List UInt8)) (kind : α → NativeMessage)
    (decode : List UInt8 → Except Status (QsgpHeader × α)) :
    client.exchange calling requestId encode expectedResponse
        (fun data => readAs kind (decode data)) =
      (client.exchange calling requestId encode expectedResponse decode).map kind := by
  rw [exchange, exchange]
  cases encode (calling.correlation requestId) with
  | error status => rfl
  | ok frame => exact gatewayExchange_readAs kind decode

variable (client : GatewayClient) (calling : Calling)

lemma qfwGatewayCall_reserve (request : QsgpReserveRequest) :
    qfwGatewayCall client (.reserve request) (calling.correlation request.requestId)
        calling.around =
      (client.qfwGatewayReserve calling request).map .reserveResponse :=
  client.exchange_readAs calling _ _ .reserveResponse _

lemma qfwGatewayCall_release (request : QsgpReleaseRequest) :
    qfwGatewayCall client (.release request) (calling.correlation request.requestId)
        calling.around =
      (client.qfwGatewayRelease calling request).map .releaseResponse :=
  client.exchange_readAs calling _ _ .releaseResponse _

lemma qfwGatewayCall_getReservations (request : QsgpGetReservationsRequest) :
    qfwGatewayCall client (.getReservations request) (calling.correlation request.requestId)
        calling.around =
      (client.qfwGatewayGetReservations calling request).map .getReservationsResponse :=
  client.exchange_readAs calling _ _ .getReservationsResponse _

end Calls

/-! ### One undisturbed call -/

open Interaction

/-- The credential of a request. -/
def sampleCredentialOf (principal : ℕ) (request : NativeRequest) (correlation : ℕ) :
    Credential ℕ (List UInt8) (List UInt8) :=
  let frame := frameBytes request.message.messageType correlation request.message.payload
  ⟨principal, frame, sampleSeal principal frame⟩

/-- The credential is issued, and reaches the gateway. -/
def sampleRunOf (credential : Credential ℕ (List UInt8) (List UInt8)) :
    List (Occurrence Connection ℕ (List UInt8) (List UInt8)) :=
  [.issues credential,
    .connects ⟨{ arriving := delimited credential.text }, sampleMunge [credential] 991, obliging,
      none⟩]

/-- The credentials in circulation after that. -/
def sampleIssuedOf (j : Journal) (credential : Credential ℕ (List UInt8) (List UInt8)) :
    List (Credential ℕ (List UInt8) (List UInt8)) :=
  (networkAfter sampleDigest sampleGatewayConfig 991 j (sampleRunOf credential)).issued

/-- A call on whose socket the last of the credentials arrives. -/
def sampleCallingOf (issued : List (Credential ℕ (List UInt8) (List UInt8))) (uid : ℕ) :
    Calling where
  pid := 1
  now := none
  around :=
    { encoder := sampleMunge issued uid
      addresses := some [some
        { incoming := (issued.getLast?.map fun credential => delimited credential.text).getD []
          rounds := List.replicate 4 ⟨[.ready false true], .moved 10000⟩ }]
      decoder := sampleMunge issued uid }

/-- A client of the gateway. -/
def sampleCaller (host : String) : GatewayClient :=
  ⟨utf8 host, utf8 "18095", 5000, 120000, 524288, 991⟩

lemma attested_sampleRunOf (host : String) (j : Journal)
    {credential : Credential ℕ (List UInt8) (List UInt8)} (hother : credential.principal ≠ 991)
    (uid : ℕ) :
    Attested sampleDigest sampleGatewayConfig (sampleCaller host) j (sampleRunOf credential)
      (sampleCallingOf (sampleIssuedOf j credential) uid).around :=
  ⟨⟨fun h => absurd h hother, genuine_sampleMunge [credential] 991, trivial⟩,
    genuine_sampleMunge (sampleIssuedOf j credential) uid⟩

end QfwSlurm.Native
