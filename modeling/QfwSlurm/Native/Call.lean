import QfwSlurm.Gateway.Server
import QfwSlurm.Native.Answers
import QfwSlurm.Native.Counterparts
import QfwSlurm.Native.Exchange
import QfwSlurm.Native.PluginConfig
import QfwSlurm.Native.Transport

/-!
# A call of the gateway

`src/native/qsgp_client.c` and `src/protocol/qsgp_munge.c`: the request is encoded, put into a
credential, sent, and what comes back is opened and read.  Deadlines, allocations, the resolver and
MUNGE may fail, and the socket is served as the kernel likes.

A frame that comes back was found in a credential of the user that is expected
(`callFrame_cases`), and of the frames that the gateway encodes a call makes what the response is,
if the correlation id is its own (`gatewayExchange_encodeResponse`).
-/

namespace QfwSlurm.Native

open Wire Interaction

/-! ### The functions -/

/-- `struct qfw_gateway_client` -/
structure GatewayClient where
  host : List UInt8
  port : List UInt8
  connectTimeoutMs : ℕ
  requestTimeoutMs : ℕ
  maxCredentialBytes : ℕ
  expectedMungeUid : ℕ
  deriving DecidableEq

/-- `qfw_gateway_client_init` -/
def qfwGatewayClientInit (config : PluginConfig) : Except String GatewayClient :=
  if config.gatewayHost = [] ∨ config.gatewayPort = [] ∨ config.connectTimeoutMs = 0 ∨
      config.requestTimeoutMs < config.connectTimeoutMs ∨ config.maxCredentialBytes = 0 ∨
      maxCredentialSize < config.maxCredentialBytes ∨
      config.expectedMungeUid = 2 ^ 32 - 1 then
    .error "gateway client configuration is invalid"
  else
    .ok ⟨config.gatewayHost, config.gatewayPort, config.connectTimeoutMs, config.requestTimeoutMs,
      config.maxCredentialBytes, config.expectedMungeUid⟩

/-- `qsgp_deadline_after_ms`; `clock_gettime` may fail. -/
def qsgpDeadlineAfterMs (clock : Bool) (timeoutMs : ℕ) : Except Status Unit :=
  if timeoutMs = 0 then .error .invalid else if clock = false then .error .io else .ok ()

/-- `qsgp_connect_deadline`: the addresses of the host, each with a socket if it was connected, and
whether the deadline has passed after them. -/
def qsgpConnectDeadline (host port : List UInt8) (addresses : Option (List (Option Socket)))
    (expired : Bool) : Except Status Socket :=
  if host = [] ∨ port = [] then .error .invalid
  else
    match addresses with
    | none => .error .io
    | some addresses =>
      match addresses.findSome? id with
      | some socket => .ok socket
      | none => if expired then .error .timeout else .error .io

/-- `qsgp_munge_encode`; `munge_ctx_create` may fail. -/
def qsgpMungeEncode (munge : Munge) (context : Bool) (data : List UInt8) :
    Except Status (List UInt8) :=
  if data = [] ∨ maxFrameSize < data.length then .error .invalid
  else if context = false then .error .nomem
  else
    match munge.encode data with
    | .error _ => .error .auth
    | .ok encoded =>
      if encoded = [] ∨ maxCredentialSize < encoded.length then .error .bounds else .ok encoded

/-- `qsgp_munge_decode`; `malloc` and `munge_ctx_create` may fail. -/
def qsgpMungeDecode (munge : Munge) (allocates context : Bool) (credential : List UInt8) :
    Except Status (PeerIdentity × List UInt8) :=
  if credential = [] ∨ maxCredentialSize < credential.length then .error .invalid
  else if allocates = false ∨ context = false then .error .nomem
  else
    match munge.decode (C.stringOf credential) with
    | .error _ => .error .auth
    | .ok (identity, decoded) =>
      if decoded = [] then .error .auth
      else if maxFrameSize < decoded.length then .error .bounds
      else .ok (identity, decoded)

/-- What a call meets with: the clock, for each deadline, the addresses of the gateway, MUNGE before
and after the exchange, and what is allocated. -/
structure CallSurroundings where
  requestClock : Bool := true
  connectClock : Bool := true
  encoder : Munge
  encodeContext : Bool := true
  addresses : Option (List (Option Socket))
  expired : Bool := false
  receiveBuffer : Bool := true
  decoder : Munge
  decodeBuffer : Bool := true
  decodeContext : Bool := true

/-- `gateway_exchange`, once there is a connected socket, until the answer is authenticated: the
frame that came back, and the socket. -/
def exchangeCredentials (client : GatewayClient) (credential : List UInt8) (socket : Socket)
    (around : CallSurroundings) : Except CallError (List UInt8) × Socket :=
  match qsgpSendCredential credential socket with
  | (.error status, socket) => (.error (.failed .errorTransport status), socket)
  | (.ok (), socket) =>
    match qsgpReceiveCredential client.maxCredentialBytes around.receiveBuffer socket with
    | (.error status, socket) => (.error (.failed .errorTransport status), socket)
    | (.ok response, socket) =>
      match qsgpMungeDecode around.decoder around.decodeBuffer around.decodeContext response with
      | .error status => (.error (.failed .errorAuthentication status), socket)
      | .ok (identity, frame) =>
        if identity.uid ≠ client.expectedMungeUid then
          (.error (.failed .errorAuthentication .auth), socket)
        else (.ok frame, socket)

/-- `gateway_exchange`, until the answer is authenticated: the frame that came back, and the socket
if there was one. -/
def callFrame (client : GatewayClient) (request : List UInt8) (around : CallSurroundings) :
    Except CallError (List UInt8) × Option Socket :=
  match qsgpDeadlineAfterMs around.requestClock client.requestTimeoutMs with
  | .error status => (.error (.failed .errorLocal status), none)
  | .ok () =>
    match qsgpDeadlineAfterMs around.connectClock client.connectTimeoutMs with
    | .error status => (.error (.failed .errorLocal status), none)
    | .ok () =>
      match qsgpMungeEncode around.encoder around.encodeContext request with
      | .error status => (.error (.failed .errorAuthentication status), none)
      | .ok credential =>
        match qsgpConnectDeadline client.host client.port around.addresses around.expired with
        | .error status => (.error (.failed .errorTransport status), none)
        | .ok socket =>
          ((exchangeCredentials client credential socket around).1,
            some (exchangeCredentials client credential socket around).2)

end QfwSlurm.Native

namespace QfwSlurm

open Wire Native Interaction

/-- The type of the response that the client expects. -/
def NativeRequest.expectedResponse : NativeRequest → MessageType
  | .evaluate _ => .evaluateResponse
  | .reserve _ => .reserveResponse
  | .release _ => .releaseResponse
  | .getReservations _ => .getReservationsResponse

/-- `qfw_gateway_evaluate`, `qfw_gateway_reserve`, `qfw_gateway_release` and
`qfw_gateway_get_reservations`. -/
def qfwGatewayCall (client : GatewayClient) (request : NativeRequest) (correlation : ℕ)
    (around : CallSurroundings) : Except CallError NativeMessage :=
  match request.message.encode correlation with
  | .error status => .error (.failed .errorLocal status)
  | .ok frame =>
    gatewayExchange (callFrame client frame around).1 correlation request.expectedResponse
      (decodeNative request.expectedResponse)

/-- What a call ends with when it has got the response. -/
def Response.outcome : Response → Except CallError NativeMessage
  | .error response => .error (.refused response.native)
  | response => .ok response.native

/-- The gateway has answered the call. -/
def Conclusive (outcome : Except CallError NativeMessage) : Prop :=
  ∀ source status, outcome ≠ .error (.failed source status)

/-- A call that ends with a message has been answered. -/
lemma conclusive_of_ok {outcome : Except CallError NativeMessage} {message : NativeMessage}
    (h : outcome = .ok message) : Conclusive outcome := by
  intro source status hfailed
  cases h.symm.trans hfailed

/-! ### The credential of the answer -/

/-- A client that was initialized has settings that every part of a call accepts. -/
lemma qfwGatewayClientInit_ok {config : PluginConfig} {client : GatewayClient}
    (h : qfwGatewayClientInit config = .ok client) :
    client.host ≠ [] ∧ client.port ≠ [] ∧ client.connectTimeoutMs ≠ 0 ∧
      client.requestTimeoutMs ≠ 0 ∧ client.maxCredentialBytes ≠ 0 ∧
      client.maxCredentialBytes ≤ maxCredentialSize ∧ client.expectedMungeUid ≠ 2 ^ 32 - 1 := by
  rw [qfwGatewayClientInit] at h
  split_ifs at h with hinvalid
  obtain rfl := Except.ok.inj h
  push Not at hinvalid
  obtain ⟨hhost, hport, hconnect, hrequest, hcredential, hbound, huid⟩ := hinvalid
  exact ⟨hhost, hport, hconnect, by dsimp only; omega, hcredential, hbound, huid⟩

section Frames

variable {client : GatewayClient} {request frame : List UInt8} {around : CallSurroundings}

/-- `qsgp_munge_decode` opens what precedes a NUL byte. -/
lemma qsgpMungeDecode_ok {munge : Munge} {allocates context : Bool} {credential : List UInt8}
    {identity : PeerIdentity}
    (h : qsgpMungeDecode munge allocates context credential = .ok (identity, frame)) :
    munge.decode (C.stringOf credential) = .ok (identity, frame) := by
  rw [qsgpMungeDecode] at h
  split_ifs at h
  rcases hdecode : munge.decode (C.stringOf credential) with message | result
  · rw [hdecode] at h
    cases h
  · rw [hdecode] at h
    dsimp only at h
    split_ifs at h
    exact congrArg _ (Except.ok.inj h)

/-- A call fails before there is a frame, or the frame was found in a credential of the user that is
expected. -/
lemma callFrame_cases (client : GatewayClient) (request : List UInt8) (around : CallSurroundings) :
    (∃ source status, (callFrame client request around).1 = .error (.failed source status)) ∨
      ∃ frame text identity, (callFrame client request around).1 = .ok frame ∧
        around.decoder.decode text = .ok (identity, frame) ∧
        identity.uid = client.expectedMungeUid := by
  rw [callFrame]
  cases qsgpDeadlineAfterMs around.requestClock client.requestTimeoutMs with
  | error status => exact .inl ⟨_, _, rfl⟩
  | ok u =>
  cases qsgpDeadlineAfterMs around.connectClock client.connectTimeoutMs with
  | error status => exact .inl ⟨_, _, rfl⟩
  | ok u' =>
  cases qsgpMungeEncode around.encoder around.encodeContext request with
  | error status => exact .inl ⟨_, _, rfl⟩
  | ok credential =>
  cases qsgpConnectDeadline client.host client.port around.addresses around.expired with
  | error status => exact .inl ⟨_, _, rfl⟩
  | ok socket =>
  dsimp only
  rw [exchangeCredentials]
  rcases qsgpSendCredential credential socket with ⟨status | u, sent⟩
  · exact .inl ⟨_, _, rfl⟩
  dsimp only
  rcases qsgpReceiveCredential client.maxCredentialBytes around.receiveBuffer sent with
    ⟨status | response, received⟩
  · exact .inl ⟨_, _, rfl⟩
  dsimp only
  rcases hopen : qsgpMungeDecode around.decoder around.decodeBuffer around.decodeContext response
    with status | ⟨identity, frame⟩
  · exact .inl ⟨_, _, rfl⟩
  dsimp only
  split_ifs with huid
  · exact .inl ⟨_, _, rfl⟩
  · exact .inr ⟨frame, _, identity, rfl, qsgpMungeDecode_ok hopen, not_not.mp huid⟩

end Frames

/-! ### What a call makes of a response -/

section Responses

variable {response : Response} {correlationId : ℤ} {bytes : List UInt8}

/-- The frame of a response has its type and correlation id, and its decoder returns its C value. -/
lemma framed_of_encodeResponse (h : encodeResponse response correlationId = .ok bytes) :
    ∃ payload header, Framed response.messageType correlationId.toNat payload bytes ∧
      decodeNative response.messageType bytes = .ok (header, response.native) := by
  cases response with
  | evaluate response =>
    obtain ⟨hsendable, hcorrelation, hbytes⟩ := encodeEvaluateResponse_eq_ok_iff.mp h
    have hframed := hbytes ▸ framed_frameBytes hcorrelation hsendable.length_payload_le
    exact ⟨_, _, hframed, readAs_eq_ok (hsendable.decode hframed)⟩
  | reserve response =>
    obtain ⟨hsendable, hcorrelation, hbytes⟩ := encodeReserveResponse_eq_ok_iff.mp h
    have hframed := hbytes ▸ framed_frameBytes hcorrelation hsendable.length_payload_le
    exact ⟨_, _, hframed, readAs_eq_ok (hsendable.decode hframed)⟩
  | release response =>
    obtain ⟨hsendable, hcorrelation, hbytes⟩ := encodeReleaseResponse_eq_ok_iff.mp h
    have hframed := hbytes ▸ framed_frameBytes hcorrelation hsendable.length_tlvs_le
    exact ⟨_, _, hframed, readAs_eq_ok (qsgpDecodeReleaseResponse_encode h)⟩
  | getReservations response =>
    obtain ⟨hsendable, hcorrelation, hbytes⟩ := encodeGetReservationsResponse_eq_ok_iff.mp h
    have hframed := hbytes ▸ framed_frameBytes hcorrelation hsendable.length_payload_le
    exact ⟨_, _, hframed, readAs_eq_ok (hsendable.decode hframed)⟩
  | error response =>
    obtain ⟨hsendable, hcorrelation, hbytes⟩ := encodeErrorResponse_eq_ok_iff.mp h
    have hframed := hbytes ▸ framed_frameBytes hcorrelation hsendable.length_payload_le
    exact ⟨_, _, hframed, readAs_eq_ok (hsendable.decode hframed)⟩

/-- A call that gets the response to its request ends with what the response is. -/
lemma gatewayExchange_encodeResponse (h : encodeResponse response correlationId = .ok bytes)
    {expectedResponse : MessageType}
    (htype : response.messageType = expectedResponse ∨ response.messageType = .errorResponse) :
    gatewayExchange (.ok bytes) correlationId.toNat expectedResponse
      (decodeNative expectedResponse) = response.outcome := by
  by_cases herror : response.messageType = .errorResponse
  · cases response with
    | error response =>
      obtain ⟨hsendable, hcorrelation, hbytes⟩ := encodeErrorResponse_eq_ok_iff.mp h
      have hframed := hbytes ▸ framed_frameBytes hcorrelation hsendable.length_payload_le
      exact gatewayExchange_of_refused hframed (hsendable.decode hframed) _ _
    | evaluate response => cases herror
    | reserve response => cases herror
    | release response => cases herror
    | getReservations response => cases herror
  · obtain ⟨payload, header, hframed, hdecode⟩ := framed_of_encodeResponse h
    rw [htype.resolve_right herror] at hframed hdecode
    have hcode : ∀ messageType : MessageType, messageType ≠ .errorResponse →
        messageType.code ≠ MessageType.errorResponse.code := by
      intro messageType hne
      cases messageType <;> first | exact absurd rfl hne | decide
    rw [gatewayExchange_of_framed hframed (hcode _ (htype.resolve_right herror ▸ herror)) hdecode]
    cases response with
    | error response => exact absurd rfl herror
    | evaluate response => rfl
    | reserve response => rfl
    | release response => rfl
    | getReservations response => rfl

/-- A call that the gateway has answered has got a frame with its correlation id, of an error or of
the type that is expected. -/
lemma header_of_conclusive {frame : List UInt8} {correlation : ℕ} {expectedResponse : MessageType}
    (h : Conclusive (gatewayExchange (.ok frame) correlation expectedResponse
      (decodeNative expectedResponse))) :
    ∃ header, qsgpDecodeHeader frame = .ok header ∧ header.correlationId = correlation ∧
      (header.messageType = MessageType.errorResponse.code ∨
        header.messageType = expectedResponse.code) := by
  cases hheader : qsgpDecodeHeader frame with
  | error status =>
    simp [gatewayExchange, hheader, Conclusive, bind, Except.bind, Except.mapError] at h
  | ok header =>
  by_cases hcorrelation : header.correlationId = correlation
  swap
  · simp [gatewayExchange, hheader, hcorrelation, Conclusive, bind, Except.bind, Except.mapError,
      throw, throwThe, MonadExceptOf.throw] at h
  refine ⟨header, rfl, hcorrelation, ?_⟩
  by_contra htype
  obtain ⟨herror, hexpected⟩ := not_or.mp htype
  simp [gatewayExchange, hheader, hcorrelation, herror, hexpected, Conclusive, bind, Except.bind,
    Except.mapError, throw, throwThe, MonadExceptOf.throw] at h

end Responses

end QfwSlurm
