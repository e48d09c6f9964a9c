import QfwSlurm.Gateway.Tasks
import QfwSlurm.Interaction.Credentials
import QfwSlurm.Protocol.Responses
import QfwSlurm.Wire.Delimited

/-!
# The server

`gateway/qfw_slurm_gateway/server.py` takes one request from each connection: a credential that
MUNGE opens, of a user that is accepted, with a frame in it.  The request is served, and the answer
goes back in a credential of the gateway.  A frame that is no request is answered with an error, and
everything else is dropped without an answer.

Whatever bytes arrive, the requests that are decoded are valid (`decodeRequest_ok`), and what is
answered is what the service returned to the request of an accepted user (`client_eq_ok`).
-/

namespace QfwSlurm

open Wire Interaction

/-! ### The parts -/

/-- The fields of `GatewayConfig` that the server reads, within the bounds of `load_config`. -/
structure GatewayConfig where
  acceptedUids : List ℕ
  maxCredentialSize : ℕ := 512 * 1024
  maxFrameSize : ℕ := 256 * 1024
  credentialBound : maxCredentialSize ≤ 512 * 1024 := by decide

/-- `PeerIdentity` -/
structure PeerIdentity where
  uid : ℕ
  gid : ℕ
  deriving DecidableEq

/-- `libmunge`, as it answers one process at one time: the credential `munge_encode` makes of a
payload, and what `munge_decode` finds in a credential.  A credential is a string of C. -/
structure Munge where
  encode : List UInt8 → Except String (List UInt8)
  decode : List UInt8 → Except String (PeerIdentity × List UInt8)

/-- The exceptions that `_client` drops a connection with. -/
inductive Dropped where
  /-- `AuthenticationError` -/
  | authentication (message : String)
  /-- `asyncio.IncompleteReadError` -/
  | incomplete
  /-- `asyncio.TimeoutError` -/
  | timeout
  /-- `OSError` -/
  | broken
  /-- `ProtocolError`, or an unexpected one -/
  | raised (error : PyError)
  deriving DecidableEq

/-- How a stream ends before enough has arrived: the peer closes it, the deadline passes, or the
connection breaks. -/
inductive StreamEnd where
  | closed
  | deadline
  | broken
  deriving DecidableEq

/-- What `readexactly` raises then. -/
def StreamEnd.dropped : StreamEnd → Dropped
  | .closed => .incomplete
  | .deadline => .timeout
  | .broken => .broken

/-- `asyncio.StreamReader`: what arrives, and how it ends. -/
structure StreamReader where
  arriving : List UInt8
  ending : StreamEnd := .closed

/-- `readexactly` -/
def StreamReader.readexactly (reader : StreamReader) (n : ℕ) :
    Except Dropped (List UInt8 × StreamReader) :=
  if reader.arriving.length < n then .error reader.ending.dropped
  else .ok (reader.arriving.take n, { reader with arriving := reader.arriving.drop n })

/-- A failure of `libmunge`. -/
def mungeError (message : String) : Dropped := .authentication s!"MUNGE operation failed: {message}"

/-- `MungeAuthenticator.encode` -/
def Munge.authenticatorEncode (munge : Munge) (payload : List UInt8) :
    Except Dropped (List UInt8) :=
  (munge.encode payload).mapError mungeError

/-- `MungeAuthenticator.decode` -/
def Munge.authenticatorDecode (munge : Munge) (credential : List UInt8) :
    Except Dropped (PeerIdentity × List UInt8) :=
  if credential = [] ∨ 0 ∈ credential then
    .error (.authentication "MUNGE credential framing is invalid")
  else (munge.decode credential).mapError mungeError

lemma mapError_eq_ok_iff {ε ε' α : Type} {x : Except ε α} {f : ε → ε'} {value : α} :
    x.mapError f = .ok value ↔ x = .ok value := by
  cases x <;> simp [Except.mapError]

section Client

variable (config : GatewayConfig)

/-- `_read_credential` -/
def readCredential (reader : StreamReader) : Except Dropped (List UInt8) := do
  let (encodedSize, reader) ← reader.readexactly 4
  let size := ofBigEndian encodedSize
  if size = 0 ∨ config.maxCredentialSize < size then
    throw (.raised (protocolError "QSGP credential size is invalid"))
  let (credential, _) ← reader.readexactly size
  return credential

/-- `_write_credential`: what is handed to the connection. -/
def writeCredential (credential : List UInt8) : Except Dropped (List UInt8) :=
  if credential = [] ∨ config.maxCredentialSize < credential.length then
    .error (.raised (protocolError "encoded response credential size is invalid"))
  else .ok (delimited credential)

/-- `_client`, until the frame of a peer is there. -/
def authenticate (munge : Munge) (reader : StreamReader) :
    Except Dropped (PeerIdentity × List UInt8) := do
  let credential ← readCredential config reader
  let (identity, frame) ← munge.authenticatorDecode credential
  if identity.uid ∉ config.acceptedUids then
    throw (.authentication "MUNGE UID is not authorized")
  if config.maxFrameSize < frame.length then
    throw (.raised (protocolError "QSGP frame exceeds configured maximum"))
  return (identity, frame)

/-- `except ProtocolError` of `_client`. -/
def answerUnreadable (frame : List UInt8) (error : PyError) : Except Dropped (Header × Response) :=
  if error.errorClass ≠ .protocolError then .error (.raised error)
  else do
    let header ← (decodeHeader frame).mapError .raised
    return (header, .error ⟨.invalidRequest, none, some (boundedDiagnostic error.message)⟩)

/-- `_client`, once there is a response: the exchange, and what is written. -/
def reply (munge : Munge) (identity : PeerIdentity) (frame : List UInt8) (header : Header)
    (response : Response) :
    Except Dropped (Exchange ℕ (List UInt8) (List UInt8) × List UInt8) := do
  let responseFrame ← (encodeResponse response header.correlationId).mapError .raised
  let responseCredential ← munge.authenticatorEncode responseFrame
  let written ← writeCredential config responseCredential
  return (⟨identity.uid, frame, responseFrame, responseCredential⟩, written)

/-- One connection: what arrives on it, the answers of `libmunge`, and those of the verifier and the
adapter while the request is served.  If the deadline passes, it does so after some number of the
questions. -/
structure Connection where
  reader : StreamReader
  munge : Munge
  oracle : Oracle
  deadline : Option ℕ := none

variable (sha256 : Document → String) (j : Journal)

/-- `service.handle` with a deadline. -/
def handleWithin (request : Request) (senderUid : ℤ) (oracle : Oracle) :
    Option ℕ → Except Dropped Response × GatewayWorld
  | none => (.ok (serve sha256 j request senderUid oracle).1,
      (serve sha256 j request senderUid oracle).2)
  | some n =>
    let stopped := (handle sha256 request senderUid).runFor (surroundings oracle noFaults) n ⟨j, []⟩
    (match stopped.1.result with
      | some response => .ok response
      | none => .error .timeout, stopped.2)

/-- `_client`: the answer or how the connection is dropped, and the journal with what was asked. -/
def client (connection : Connection) :
    Except Dropped (Exchange ℕ (List UInt8) (List UInt8) × List UInt8) × GatewayWorld :=
  match authenticate config connection.munge connection.reader with
  | .error dropped => (.error dropped, ⟨j, []⟩)
  | .ok (identity, frame) =>
    match decodeRequest frame with
    | .error error =>
      ((answerUnreadable frame error).bind fun (header, response) =>
        reply config connection.munge identity frame header response, ⟨j, []⟩)
    | .ok (header, request) =>
      let handled := handleWithin sha256 j request identity.uid connection.oracle
        connection.deadline
      (handled.1.bind fun response =>
        reply config connection.munge identity frame header response, handled.2)

/-! ### What reaches the service -/

/-- The credential is the first one that arrives. -/
lemma readCredential_eq_ok_iff {reader : StreamReader} {credential : List UInt8} :
    readCredential config reader = .ok credential ↔
      ∃ rest, nextDelimited config.maxCredentialSize reader.arriving = some (credential, rest) := by
  have hread {reader : StreamReader} {n : ℕ} {result : List UInt8 × StreamReader} :
      reader.readexactly n = .ok result ↔ n ≤ reader.arriving.length ∧
        result = (reader.arriving.take n, { reader with arriving := reader.arriving.drop n }) := by
    rw [StreamReader.readexactly]
    split_ifs with hshort
    · exact iff_of_false (by simp) fun h => absurd h.1 (not_le.mpr hshort)
    · exact ⟨fun h => ⟨not_lt.mp hshort, (Except.ok.inj h).symm⟩, fun h => congrArg _ h.2.symm⟩
  rw [readCredential, nextDelimited, bind_eq_ok_iff]
  constructor
  · rintro ⟨_, hhead, hrest⟩
    obtain ⟨hlong, rfl⟩ := hread.mp hhead
    dsimp only at hrest
    split_ifs at hrest with hsize
    · cases hrest
    obtain ⟨_, hbody, hcredential⟩ := bind_eq_ok_iff.mp hrest
    obtain ⟨hthere, rfl⟩ := hread.mp hbody
    obtain rfl := Except.ok.inj hcredential
    rw [if_neg (not_lt.mpr hlong), if_neg hsize, if_neg (not_lt.mpr hthere)]
    exact ⟨_, rfl⟩
  · rintro ⟨rest, hnext⟩
    split_ifs at hnext with hshort hsize hmissing
    obtain ⟨rfl, rfl⟩ := Prod.mk.inj (Option.some.inj hnext)
    refine ⟨_, hread.mpr ⟨not_lt.mp hshort, rfl⟩, ?_⟩
    dsimp only
    rw [if_neg hsize]
    exact bind_eq_ok_iff.mpr ⟨_, hread.mpr ⟨not_lt.mp hmissing, rfl⟩, rfl⟩

/-- What is opened, and whose it has to be. -/
lemma authenticate_eq_ok {munge : Munge} {reader : StreamReader} {identity : PeerIdentity}
    {frame : List UInt8} (h : authenticate config munge reader = .ok (identity, frame)) :
    ∃ credential rest,
      nextDelimited config.maxCredentialSize reader.arriving = some (credential, rest) ∧
      munge.decode credential = .ok (identity, frame) ∧ identity.uid ∈ config.acceptedUids ∧
      frame.length ≤ config.maxFrameSize := by
  obtain ⟨credential, hcredential, h⟩ := bind_eq_ok_iff.mp h
  obtain ⟨rest, hnext⟩ := (readCredential_eq_ok_iff config).mp hcredential
  obtain ⟨⟨opened, found⟩, hopened, h⟩ := bind_eq_ok_iff.mp h
  dsimp only at h
  by_cases huid : opened.uid ∉ config.acceptedUids
  · rw [if_pos huid] at h
    cases h
  rw [if_neg huid] at h
  by_cases hsize : config.maxFrameSize < found.length
  · rw [if_pos hsize] at h
    cases h
  rw [if_neg hsize] at h
  obtain ⟨rfl, rfl⟩ := Prod.mk.inj (Except.ok.inj h)
  refine ⟨credential, rest, hnext, ?_, not_not.mp huid, not_lt.mp hsize⟩
  rw [Munge.authenticatorDecode] at hopened
  split_ifs at hopened
  exact mapError_eq_ok_iff.mp hopened

/-- What `decode_request` returns is valid, and the header that of a well formed frame. -/
lemma decodeRequest_ok {frame : List UInt8} {header : Header} {request : Request}
    (h : decodeRequest frame = .ok (header, request)) :
    request.Valid ∧ ∃ messageType correlationId payload,
      Framed messageType correlationId payload frame ∧
        header = Header.read messageType correlationId payload := by
  obtain ⟨first, -, h⟩ := bind_eq_ok_iff.mp h
  cases htype : first.messageType <;> rw [htype] at h <;> dsimp only at h
  case evaluateRequest =>
    obtain ⟨⟨header', found⟩, hdecode, h⟩ := bind_eq_ok_iff.mp h
    obtain ⟨rfl, rfl⟩ := Prod.mk.inj (Except.ok.inj h)
    obtain ⟨hadmission, hworkload⟩ := decodeEvaluateRequest_eq_ok_iff.mp hdecode
    obtain ⟨_, _, hframed, hheader, hsendable, -⟩ :=
      decodeAdmissionRequest_eq_ok_iff.mp hadmission
    exact ⟨⟨hworkload, validateReserveRequest_eq_ok_iff.mpr hsendable⟩, _, _, _, hframed, hheader⟩
  case reserveRequest =>
    obtain ⟨⟨header', found⟩, hdecode, h⟩ := bind_eq_ok_iff.mp h
    obtain ⟨rfl, rfl⟩ := Prod.mk.inj (Except.ok.inj h)
    obtain ⟨hadmission, hworkload⟩ := decodeReserveRequest_eq_ok_iff.mp hdecode
    obtain ⟨_, _, hframed, hheader, hsendable, -⟩ :=
      decodeAdmissionRequest_eq_ok_iff.mp hadmission
    exact ⟨⟨hworkload, validateReserveRequest_eq_ok_iff.mpr hsendable⟩, _, _, _, hframed, hheader⟩
  case releaseRequest =>
    obtain ⟨⟨header', found⟩, hdecode, h⟩ := bind_eq_ok_iff.mp h
    obtain ⟨rfl, rfl⟩ := Prod.mk.inj (Except.ok.inj h)
    obtain ⟨_, _, hframed, hheader, -⟩ := decodeReleaseRequest_eq_ok_iff.mp hdecode
    exact ⟨trivial, _, _, _, hframed, hheader⟩
  case getReservationsRequest =>
    obtain ⟨⟨header', found⟩, hdecode, h⟩ := bind_eq_ok_iff.mp h
    obtain ⟨rfl, rfl⟩ := Prod.mk.inj (Except.ok.inj h)
    obtain ⟨_, _, hframed, hheader, -⟩ := decodeGetReservationsRequest_eq_ok_iff.mp hdecode
    exact ⟨trivial, _, _, _, hframed, hheader⟩
  all_goals cases h

/-! ### What is answered -/

/-- The response to a frame, and the journal with what was asked: those of the service for the
request in it, or the error for a frame without one. -/
inductive Responds (oracle : Oracle) (senderUid : ℤ) (frame : List UInt8) :
    Header → Response → GatewayWorld → Prop
  | served {header : Header} {request : Request}
      (h : decodeRequest frame = .ok (header, request)) :
      Responds oracle senderUid frame header (serve sha256 j request senderUid oracle).1
        (serve sha256 j request senderUid oracle).2
  | unreadable {header : Header} {error : PyError} (h : decodeRequest frame = .error error)
      (hheader : decodeHeader frame = .ok header) :
      Responds oracle senderUid frame header
        (.error ⟨.invalidRequest, none, some (boundedDiagnostic error.message)⟩) ⟨j, []⟩

/-- A request that was served in time was served. -/
lemma handleWithin_ok {request : Request} {senderUid : ℤ} {oracle : Oracle} {deadline : Option ℕ}
    {response : Response}
    (h : (handleWithin sha256 j request senderUid oracle deadline).1 = .ok response) :
    response = (serve sha256 j request senderUid oracle).1 ∧
      (handleWithin sha256 j request senderUid oracle deadline).2 =
        (serve sha256 j request senderUid oracle).2 := by
  cases deadline with
  | none => exact ⟨(Except.ok.inj h).symm, rfl⟩
  | some n =>
    rw [handleWithin] at h ⊢
    dsimp only at h ⊢
    cases hresult : ((handle sha256 request senderUid).runFor (surroundings oracle noFaults) n
        ⟨j, []⟩).1.result with
    | none =>
      rw [hresult] at h
      cases h
    | some found =>
      rw [hresult] at h
      obtain rfl := Except.ok.inj h
      have hrun := Program.run_of_runFor (Program.result_eq_some.mp hresult)
      exact ⟨(congrArg Prod.fst hrun).symm, (congrArg Prod.snd hrun).symm⟩

/-- What `_client` writes: the response to a frame of an accepted user, under the correlation id of
the frame, in a credential of the gateway behind its size. -/
structure Wrote (connection : Connection) (exchange : Exchange ℕ (List UInt8) (List UInt8))
    (written : List UInt8) (header : Header) (response : Response) : Prop where
  opened : ∃ identity, authenticate config connection.munge connection.reader =
    .ok (identity, exchange.question) ∧ exchange.sender = identity.uid
  responds : Responds sha256 j connection.oracle exchange.sender exchange.question header response
    (client config sha256 j connection).2
  encoded : encodeResponse response header.correlationId = .ok exchange.answer
  sealed : connection.munge.encode exchange.answer = .ok exchange.text
  written : written = delimited exchange.text
  size : exchange.text ≠ [] ∧ exchange.text.length ≤ config.maxCredentialSize

lemma reply_eq_ok {munge : Munge} {identity : PeerIdentity} {frame written : List UInt8}
    {header : Header} {response : Response} {exchange : Exchange ℕ (List UInt8) (List UInt8)}
    (h : reply config munge identity frame header response = .ok (exchange, written)) :
    exchange.sender = identity.uid ∧ exchange.question = frame ∧
      encodeResponse response header.correlationId = .ok exchange.answer ∧
      munge.encode exchange.answer = .ok exchange.text ∧ written = delimited exchange.text ∧
      exchange.text ≠ [] ∧ exchange.text.length ≤ config.maxCredentialSize := by
  obtain ⟨answer, hencode, h⟩ := bind_eq_ok_iff.mp h
  obtain ⟨text, hseal, h⟩ := bind_eq_ok_iff.mp h
  obtain ⟨bytes, hwrite, h⟩ := bind_eq_ok_iff.mp h
  obtain ⟨rfl, rfl⟩ := Prod.mk.inj (Except.ok.inj h)
  rw [writeCredential] at hwrite
  split_ifs at hwrite with hsize
  obtain ⟨hne, hle⟩ := not_or.mp hsize
  exact ⟨rfl, rfl, mapError_eq_ok_iff.mp hencode, mapError_eq_ok_iff.mp hseal,
    (Except.ok.inj hwrite).symm, hne, not_lt.mp hle⟩

/-- A connection that is answered. -/
lemma client_eq_ok {connection : Connection} {exchange : Exchange ℕ (List UInt8) (List UInt8)}
    {written : List UInt8}
    (h : (client config sha256 j connection).1 = .ok (exchange, written)) :
    ∃ header response, Wrote config sha256 j connection exchange written header response := by
  rcases hopened : authenticate config connection.munge connection.reader with
    dropped | ⟨identity, frame⟩
  · rw [client, hopened] at h
    cases h
  rcases hdecode : decodeRequest frame with error | ⟨header, request⟩
  · have hworld : (client config sha256 j connection).2 = ⟨j, []⟩ := by
      rw [client, hopened]
      dsimp only
      rw [hdecode]
    rw [client, hopened] at h
    dsimp only at h
    rw [hdecode] at h
    obtain ⟨⟨header, response⟩, hunreadable, hreply⟩ := bind_eq_ok_iff.mp h
    obtain ⟨hsender, rfl, hencode, hseal, hwritten, hsize⟩ := reply_eq_ok config hreply
    rw [answerUnreadable] at hunreadable
    split_ifs at hunreadable
    obtain ⟨found, hheader, hresult⟩ := bind_eq_ok_iff.mp hunreadable
    obtain ⟨rfl, rfl⟩ := Prod.mk.inj (Except.ok.inj hresult)
    exact ⟨found, _, ⟨identity, hopened, hsender⟩,
      hworld ▸ .unreadable hdecode (mapError_eq_ok_iff.mp hheader), hencode, hseal, hwritten, hsize⟩
  · have hworld : (client config sha256 j connection).2 = (handleWithin sha256 j request
        identity.uid connection.oracle connection.deadline).2 := by
      rw [client, hopened]
      dsimp only
      rw [hdecode]
    rw [client, hopened] at h
    dsimp only at h
    rw [hdecode] at h
    obtain ⟨response, hhandled, hreply⟩ := bind_eq_ok_iff.mp h
    obtain ⟨hsender, rfl, hencode, hseal, hwritten, hsize⟩ := reply_eq_ok config hreply
    obtain ⟨rfl, hserved⟩ := handleWithin_ok sha256 j hhandled
    rw [hserved] at hworld
    exact ⟨header, _, ⟨identity, hopened, hsender⟩, hworld ▸ hsender ▸ .served hdecode, hencode,
      hseal, hwritten, hsize⟩

end Client

end QfwSlurm
