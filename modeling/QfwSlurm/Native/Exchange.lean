import QfwSlurm.Native.Admission

/-!
# Calling the gateway from the native client

`gateway_exchange` of `src/native/qsgp_client.c` reads the frame that comes back, and
`qfw_evaluate_operation` and `qfw_reserve_operation` of `src/native/operations.c` turn the outcome
of the call into a state.  Sockets, credentials and deadlines are not modelled: the frame, or the
failure before there was one, is a parameter.  Whatever answer the gateway encodes arrives as it is,
and an error arrives as the error of the remote side (`gatewayExchange_encoded`).
-/

namespace QfwSlurm.Native

open Wire

/-! ### The call -/

/-- `qsgp_status_string` of a failure. -/
def statusString : Status → String
  | .invalid => "invalid data"
  | .nomem => "out of memory"
  | .bounds => "size limit exceeded"
  | .version => "unsupported protocol version"
  | .io => "I/O failure"
  | .auth => "authentication failure"
  | .timeout => "operation timed out"
  | .conflict => "conflicting duplicate field"

/-- The sources of `enum qfw_gateway_error_source` of a failure on the client's side. -/
inductive ErrorSource where
  | errorLocal
  | errorTransport
  | errorAuthentication
  | errorProtocol
  deriving DecidableEq

/-- `struct qfw_gateway_call_error` of a call that failed.  The source of a remote failure is
`QFW_GATEWAY_ERROR_REMOTE` and its status `QFW_GATEWAY_ERR_REMOTE`. -/
inductive CallError where
  | failed (source : ErrorSource) (status : Status)
  | refused (remote : QsgpErrorResponse)
  deriving DecidableEq

/-- `qfw_gateway_call_error_message` -/
def callErrorMessage : CallError → List UInt8
  | .failed _ status => utf8 (statusString status)
  | .refused remote =>
    if remote.hasDiagnostic then remote.diagnostic else utf8 "gateway rejected the request"

/-- `gateway_exchange`, once the credential that came back is authenticated, with the decoder of the
expected response. -/
def gatewayExchange {α : Type} (received : Except CallError (List UInt8)) (correlation : ℕ)
    (expectedResponse : MessageType) (decode : List UInt8 → Except Status (QsgpHeader × α)) :
    Except CallError α := do
  let frame ← received
  let header ← (qsgpDecodeHeader frame).mapError (CallError.failed .errorProtocol)
  if header.correlationId ≠ correlation then throw (.failed .errorProtocol .conflict)
  if header.messageType = MessageType.errorResponse.code then
    let (_, remote) ← (qsgpDecodeErrorResponse frame).mapError (CallError.failed .errorProtocol)
    throw (.refused remote)
  if header.messageType ≠ expectedResponse.code then throw (.failed .errorProtocol .invalid)
  let (_, response) ← (decode frame).mapError (CallError.failed .errorProtocol)
  return response

/-- `qfw_gateway_evaluate`, from what came back. -/
def qfwGatewayEvaluate (received : Except CallError (List UInt8)) (correlation : ℕ) :
    Except CallError QsgpReserveResponse :=
  gatewayExchange received correlation .evaluateResponse qsgpDecodeEvaluateResponse

/-- `qfw_gateway_reserve`, from what came back. -/
def qfwGatewayReserve (received : Except CallError (List UInt8)) (correlation : ℕ) :
    Except CallError QsgpReserveResponse :=
  gatewayExchange received correlation .reserveResponse qsgpDecodeReserveResponse

/-! ### The operations -/

/-- `map_call_failure` -/
def mapCallFailure (error : CallError) : ReserveOperationResult :=
  match error with
  | .failed _ _ =>
    { state := .clientError, diagnostic := setDiagnostic (callErrorMessage error) }
  | .refused _ =>
    { state := .gatewayError, diagnostic := setDiagnostic (callErrorMessage error) }

/-- `qfw_evaluate_operation`, from the request it has built. -/
def qfwEvaluateOperation (request : QsgpReserveRequest) (received : Except CallError (List UInt8))
    (correlation : ℕ) : Except C.Stop ReserveOperationResult :=
  match qfwGatewayEvaluate received correlation with
  | .error error => .ok (mapCallFailure error)
  | .ok response => admissionResponseProcess request response {} false

/-- `qfw_reserve_operation`, from the request it has built. -/
def qfwReserveOperation (request : QsgpReserveRequest) (received : Except CallError (List UInt8))
    (correlation : ℕ) : Except C.Stop ReserveOperationResult :=
  match qfwGatewayReserve received correlation with
  | .error error => .ok (mapCallFailure error)
  | .ok response => qfwReserveResponseProcess request response {}

/-! ### Answers that arrive -/

section Encoded

variable {messageType : MessageType} {correlationId : ℕ} {payload data : List UInt8}

/-- The header of a well formed frame is read, whatever is expected. -/
lemma qsgpDecodeHeader_of_framed (h : Framed messageType correlationId payload data) :
    qsgpDecodeHeader data = .ok (.read messageType correlationId payload) := by
  have hstart := decodeStart_eq_ok_iff.mpr ⟨correlationId, h, rfl⟩
  obtain ⟨header, hheader, hrest⟩ := bind_eq_ok_iff.mp hstart
  by_cases htype : header.messageType ≠ messageType.code
  · rw [if_pos htype] at hrest
    cases hrest
  · rw [if_neg htype] at hrest
    rw [hheader, (Prod.mk.inj (Except.ok.inj hrest)).1]

/-- A response of the expected type is decoded. -/
lemma gatewayExchange_of_framed {α : Type} (h : Framed messageType correlationId payload data)
    (hnot : messageType.code ≠ MessageType.errorResponse.code)
    {decode : List UInt8 → Except Status (QsgpHeader × α)} {header : QsgpHeader} {response : α}
    (hdecode : decode data = .ok (header, response)) :
    gatewayExchange (.ok data) correlationId messageType decode = .ok response := by
  have hheader := qsgpDecodeHeader_of_framed h
  have hcorrelation : (QsgpHeader.read messageType correlationId payload).correlationId =
    correlationId := rfl
  have htype : (QsgpHeader.read messageType correlationId payload).messageType =
    messageType.code := rfl
  simp [gatewayExchange, bind, Except.bind, pure, Except.pure, Except.mapError, hheader,
    hcorrelation, htype, hnot, hdecode]

/-- An error is reported as the error of the remote side, whatever is expected. -/
lemma gatewayExchange_of_refused {α : Type}
    (h : Framed .errorResponse correlationId payload data) {header : QsgpHeader}
    {remote : QsgpErrorResponse} (hdecode : qsgpDecodeErrorResponse data = .ok (header, remote))
    (expectedResponse : MessageType) (decode : List UInt8 → Except Status (QsgpHeader × α)) :
    gatewayExchange (.ok data) correlationId expectedResponse decode =
      .error (.refused remote) := by
  have hheader := qsgpDecodeHeader_of_framed h
  have hcorrelation : (QsgpHeader.read .errorResponse correlationId payload).correlationId =
    correlationId := rfl
  have htype : (QsgpHeader.read .errorResponse correlationId payload).messageType =
    MessageType.errorResponse.code := rfl
  simp [gatewayExchange, bind, Except.bind, Except.mapError, hheader, hcorrelation, htype, hdecode,
    throw, throwThe, MonadExceptOf.throw]

end Encoded

section Answers

variable {correlationId : ℤ} {bytes : List UInt8}

/-- An evaluate response that the gateway encodes arrives at `qfw_evaluate_operation`. -/
lemma qfwEvaluateOperation_of_encoded {response : EvaluateResponse}
    (h : encodeEvaluateResponse response correlationId = .ok bytes) (request : QsgpReserveRequest) :
    qfwEvaluateOperation request (.ok bytes) correlationId.toNat =
      admissionResponseProcess request response.toReserveResponse.native {} false := by
  obtain ⟨hsendable, hcorrelation, hbytes⟩ := encodeEvaluateResponse_eq_ok_iff.mp h
  have hframed : Framed .evaluateResponse correlationId.toNat response.toReserveResponse.payload
      bytes := hbytes ▸ framed_frameBytes hcorrelation hsendable.length_payload_le
  rw [qfwEvaluateOperation, qfwGatewayEvaluate,
    gatewayExchange_of_framed hframed (by decide) (hsendable.decode hframed)]

/-- A reserve response that the gateway encodes arrives at `qfw_reserve_operation`. -/
lemma qfwReserveOperation_of_encoded {response : ReserveResponse}
    (h : encodeReserveResponse response correlationId = .ok bytes) (request : QsgpReserveRequest) :
    qfwReserveOperation request (.ok bytes) correlationId.toNat =
      qfwReserveResponseProcess request response.native {} := by
  obtain ⟨hsendable, hcorrelation, hbytes⟩ := encodeReserveResponse_eq_ok_iff.mp h
  have hframed : Framed .reserveResponse correlationId.toNat response.payload bytes :=
    hbytes ▸ framed_frameBytes hcorrelation hsendable.length_payload_le
  rw [qfwReserveOperation, qfwGatewayReserve,
    gatewayExchange_of_framed hframed (by decide) (hsendable.decode hframed)]

/-- An error that the gateway encodes ends both operations as an error of the gateway. -/
lemma operations_of_refused {response : ErrorResponse}
    (h : encodeErrorResponse response correlationId = .ok bytes) (request : QsgpReserveRequest) :
    qfwEvaluateOperation request (.ok bytes) correlationId.toNat =
        .ok (mapCallFailure (.refused response.native)) ∧
      qfwReserveOperation request (.ok bytes) correlationId.toNat =
        .ok (mapCallFailure (.refused response.native)) := by
  obtain ⟨hsendable, hcorrelation, hbytes⟩ := encodeErrorResponse_eq_ok_iff.mp h
  have hframed : Framed .errorResponse correlationId.toNat response.payload bytes :=
    hbytes ▸ framed_frameBytes hcorrelation hsendable.length_payload_le
  have hdecode := hsendable.decode hframed
  rw [qfwEvaluateOperation, qfwGatewayEvaluate, gatewayExchange_of_refused hframed hdecode,
    qfwReserveOperation, qfwGatewayReserve, gatewayExchange_of_refused hframed hdecode]
  exact ⟨rfl, rfl⟩

end Answers

end QfwSlurm.Native
