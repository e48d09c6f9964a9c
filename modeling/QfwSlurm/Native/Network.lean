import QfwSlurm.Native.Call
import QfwSlurm.Native.Languages

/-!
# Calls across a network

The gateway and its clients, with a network between them that delivers, repeats, delays, redirects
and makes up whatever it likes.  What they can rely on is MUNGE: nobody finds a message in a
credential that the user did not put there.

A call that ends with an answer, good or bad, ends with one that the gateway gave in this run to a
message of an accepted user with the same correlation id.  If nobody else has used the correlation
id, it is the answer of the service to the call's own request, on behalf of the call's user
(`call_answers_its_request`).
-/

namespace QfwSlurm

open Wire Native Interaction

/-! ### The network -/

/-- What MUNGE finds in credentials. -/
def Munge.opening (munge : Munge) (text : List UInt8) : Option (ℕ × List UInt8) :=
  (munge.decode text).toOption.map fun (identity, frame) => (identity.uid, frame)

/-- A frame that is no request. -/
def IsAnswer (frame : List UInt8) : Prop :=
  ∃ header messageType, qsgpDecodeHeader frame = .ok header ∧
    header.messageType = MessageType.code messageType ∧
    messageType ∈ [MessageType.evaluateResponse, .reserveResponse, .releaseResponse,
      .getReservationsResponse, .errorResponse]

/-- The correlation id of a well formed frame. -/
def correlationOf (frame : List UInt8) : Option ℕ :=
  (qsgpDecodeHeader frame).toOption.map QsgpHeader.correlationId

section Networks

variable (sha256 : Document → String) (config : GatewayConfig) (gatewayUid : ℕ)

/-- A connection of the gateway. -/
def gatewayServe (j : Journal) (connection : Connection) :
    Option (Exchange ℕ (List UInt8) (List UInt8)) × Journal :=
  ((client config sha256 j connection).1.toOption.map Prod.fst,
    (client config sha256 j connection).2.state)

/-- The journal, and the credentials that MUNGE vouches for, after a run. -/
abbrev networkAfter (j : Journal)
    (run : List (Occurrence Connection ℕ (List UInt8) (List UInt8))) :
    Realm Journal ℕ (List UInt8) (List UInt8) :=
  after (Realm.next gatewayUid (gatewayServe sha256 config)) ⟨j, []⟩ run

/-- MUNGE vouches for what the gateway opens. -/
def OpensIssued (realm : Realm Journal ℕ (List UInt8) (List UInt8)) :
    Occurrence Connection ℕ (List UInt8) (List UInt8) → Prop
  | .issues _ => True
  | .connects connection => Genuine realm.issued connection.munge.opening

/-- MUNGE vouches for what the gateway opens, and no other process of the gateway's user claims to
answer. -/
def Authentic (realm : Realm Journal ℕ (List UInt8) (List UInt8)) :
    Occurrence Connection ℕ (List UInt8) (List UInt8) → Prop
  | .issues credential => credential.principal = gatewayUid → ¬ IsAnswer credential.message
  | .connects connection => Genuine realm.issued connection.munge.opening

end Networks

/-! ### One connection -/

lemma correlationOf_framed {messageType : MessageType} {correlationId : ℕ}
    {payload frame : List UInt8} (h : Framed messageType correlationId payload frame) :
    correlationOf frame = some correlationId := by
  rw [correlationOf, qsgpDecodeHeader_of_framed h]
  rfl

section Connections

variable {sha256 : Document → String} {config : GatewayConfig} {j : Journal}
  {connection : Connection} {exchange : Exchange ℕ (List UInt8) (List UInt8)}

/-- The header of a frame with a response is that of a well formed frame. -/
lemma Responds.framed {oracle : Oracle} {senderUid : ℤ} {frame : List UInt8} {header : Header}
    {response : Response} {w : GatewayWorld}
    (h : Responds sha256 j oracle senderUid frame header response w) :
    ∃ messageType correlationId payload, Framed messageType correlationId payload frame ∧
      header = Header.read messageType correlationId payload := by
  cases h with
  | served hdecode => exact (decodeRequest_ok hdecode).2
  | unreadable _ hheader =>
    obtain ⟨correlationId, payload, hframed, hread⟩ := decodeHeader_eq_ok_iff.mp hheader
    exact ⟨_, correlationId, payload, hframed, hread⟩

/-- The response to a frame with a request is that of the service. -/
lemma Responds.of_decode {oracle : Oracle} {senderUid : ℤ} {frame : List UInt8} {header : Header}
    {response : Response} {w : GatewayWorld}
    (h : Responds sha256 j oracle senderUid frame header response w) {read : Header}
    {request : Request} (hdecode : decodeRequest frame = .ok (read, request)) :
    response = (serve sha256 j request senderUid oracle).1 ∧
      w = (serve sha256 j request senderUid oracle).2 := by
  cases h with
  | served hfound =>
    obtain ⟨-, rfl⟩ := Prod.mk.inj (Except.ok.inj (hfound.symm.trans hdecode))
    exact ⟨rfl, rfl⟩
  | unreadable herror => cases herror.symm.trans hdecode

/-- The gateway answers under the correlation id of the request. -/
lemma Wrote.correlation {written : List UInt8} {header : Header} {response : Response}
    (h : Wrote config sha256 j connection exchange written header response) :
    ∃ correlation : ℕ, header.correlationId = correlation ∧
      correlationOf exchange.question = some correlation ∧
      correlationOf exchange.answer = some correlation := by
  obtain ⟨messageType, correlationId, payload, hframed, rfl⟩ := h.responds.framed
  obtain ⟨_, _, hanswer, -⟩ := framed_of_encodeResponse h.encoded
  exact ⟨correlationId, rfl, correlationOf_framed hframed, correlationOf_framed hanswer⟩

/-- What the gateway answers was found in a credential of an accepted user. -/
lemma Wrote.found {written : List UInt8} {header : Header} {response : Response}
    (h : Wrote config sha256 j connection exchange written header response) :
    exchange.sender ∈ config.acceptedUids ∧
      ∃ text, connection.munge.opening text = some (exchange.sender, exchange.question) := by
  obtain ⟨identity, hopened, hsender⟩ := h.opened
  obtain ⟨credential, -, -, hdecode, huid, -⟩ := authenticate_eq_ok config hopened
  refine ⟨hsender ▸ huid, credential, ?_⟩
  rw [Munge.opening, hdecode, hsender]
  rfl

lemma gatewayServe_eq_some (h : (gatewayServe sha256 config j connection).1 = some exchange) :
    ∃ written header response,
      Wrote config sha256 j connection exchange written header response := by
  obtain ⟨⟨exchange', written⟩, hresult, rfl⟩ := Option.map_eq_some_iff.mp h
  obtain ⟨header, response, hwrote⟩ := client_eq_ok config sha256 j
    (toOption_eq_some_iff.mp hresult)
  exact ⟨written, header, response, hwrote⟩

/-- An occurrence in which MUNGE can be relied on. -/
lemma Authentic.trusted (sha256 : Document → String) (config : GatewayConfig) {gatewayUid : ℕ}
    {realm : Realm Journal ℕ (List UInt8) (List UInt8)}
    {occurrence : Occurrence Connection ℕ (List UInt8) (List UInt8)}
    (h : Authentic gatewayUid realm occurrence) :
    Trusted gatewayUid (gatewayServe sha256 config) (· ∈ config.acceptedUids)
      (fun question answer => ∃ correlation, correlationOf question = some correlation ∧
        correlationOf answer = some correlation) IsAnswer realm occurrence := by
  cases occurrence with
  | issues credential => exact h
  | connects connection =>
    intro exchange hexchange
    obtain ⟨written, header, response, hwrote⟩ := gatewayServe_eq_some hexchange
    obtain ⟨haccepted, text, hopening⟩ := hwrote.found
    obtain ⟨correlation, -, hquestion, hanswer⟩ := hwrote.correlation
    exact ⟨haccepted, ⟨correlation, hquestion, hanswer⟩, text, h _ _ _ hopening⟩

end Connections

/-! ### One call -/

lemma MessageType.code_injective : Function.Injective MessageType.code := by
  intro first second h
  have hread := MessageType.ofCode_code first
  rw [h, MessageType.ofCode_code] at hread
  exact (Option.some.inj hread).symm

/-- A call that ends with an answer has found it in a credential of the gateway. -/
lemma answer_of_conclusive {client : GatewayClient} {request : NativeRequest} {correlation : ℕ}
    {around : CallSurroundings}
    (h : Conclusive (qfwGatewayCall client request correlation around)) :
    ∃ frame answer text, request.message.encode correlation = .ok frame ∧
      around.decoder.opening text = some (client.expectedMungeUid, answer) ∧
      qfwGatewayCall client request correlation around = gatewayExchange (.ok answer) correlation
        request.expectedResponse (decodeNative request.expectedResponse) ∧
      ∃ header, qsgpDecodeHeader answer = .ok header ∧ header.correlationId = correlation ∧
        (header.messageType = MessageType.errorResponse.code ∨
          header.messageType = request.expectedResponse.code) := by
  rw [qfwGatewayCall] at h ⊢
  cases hencode : request.message.encode correlation with
  | error status =>
    rw [hencode] at h
    exact absurd rfl (h _ _)
  | ok frame =>
    rw [hencode] at h
    dsimp only at h ⊢
    rcases callFrame_cases client frame around with
      ⟨source, status, hfailed⟩ | ⟨answer, text, identity, hframe, hdecode, huid⟩
    · rw [hfailed] at h
      exact absurd rfl (h _ _)
    · rw [hframe] at h ⊢
      refine ⟨frame, answer, text, rfl, ?_, rfl, header_of_conclusive h⟩
      rw [Munge.opening, hdecode, ← huid]
      rfl

/-- The frame of a request whose texts are UTF-8 is read as the counterpart of the request. -/
lemma decodeRequest_of_encode {request : NativeRequest} {correlation : ℕ} {frame : List UInt8}
    (htyped : request.message.Typed) (hcorrelation : correlation < 2 ^ 64)
    (htexts : ∀ text ∈ request.texts, Textual text) (hhetero : request.HeteroNonzero)
    (h : request.message.encode correlation = .ok frame) :
    ∃ found, ∃ header : Header, request.counterpart = some found ∧
      header.correlationId = correlation ∧ decodeRequest frame = .ok (header, found) := by
  obtain ⟨haccepted, hne, rfl⟩ := htyped.encode_eq_ok_iff.mp h
  obtain ⟨found, hfound⟩ := NativeRequest.exists_counterpart htexts haccepted
  have halike := NativeRequest.alike hfound hhetero
  have hframed : Framed request.message.messageType correlation request.message.payload _ :=
    framed_of_le ⟨hne, hcorrelation⟩ haccepted.length_payload_le
  rw [← halike.messageType, ← halike.payload haccepted] at hframed
  rw [← halike.messageType, ← halike.payload haccepted]
  exact ⟨found, _, hfound, rfl,
    decodeRequest_of_framed (halike.accepted.mpr haccepted) hframed⟩

/-- What a call makes of an answer of the gateway under its correlation id. -/
lemma outcome_of_answer {response : Response} {correlationId : ℤ} {answer : List UInt8}
    (h : encodeResponse response correlationId = .ok answer) {expectedResponse : MessageType}
    {header : QsgpHeader} (hheader : qsgpDecodeHeader answer = .ok header)
    (htype : header.messageType = MessageType.errorResponse.code ∨
      header.messageType = expectedResponse.code) :
    gatewayExchange (.ok answer) header.correlationId expectedResponse
      (decodeNative expectedResponse) = response.outcome := by
  obtain ⟨payload, _, hframed, -⟩ := framed_of_encodeResponse h
  rw [qsgpDecodeHeader_of_framed hframed] at hheader
  obtain rfl := Except.ok.inj hheader
  refine gatewayExchange_encodeResponse h ?_
  exact htype.symm.imp (fun h => MessageType.code_injective h) fun h => MessageType.code_injective h

/-! ### Every run -/

section Runs

variable {sha256 : Document → String} {config : GatewayConfig} {client : GatewayClient}
  {j : Journal} {run : List (Occurrence Connection ℕ (List UInt8) (List UInt8))}
  {request : NativeRequest} {correlation : ℕ} {around : CallSurroundings}

/-- A call in a run of the network: MUNGE can be relied on by the gateway and by the client. -/
structure Attested (sha256 : Document → String) (config : GatewayConfig) (client : GatewayClient)
    (j : Journal) (run : List (Occurrence Connection ℕ (List UInt8) (List UInt8)))
    (around : CallSurroundings) : Prop where
  authentic : Meets (Realm.next client.expectedMungeUid (gatewayServe sha256 config))
    (Authentic client.expectedMungeUid) ⟨j, []⟩ run
  genuine : Genuine (networkAfter sha256 config client.expectedMungeUid j run).issued
    around.decoder.opening

/-- Accepted users have put one message under the correlation id into credentials, if any. -/
def OnlyMessage (issued : List (Credential ℕ (List UInt8) (List UInt8))) (config : GatewayConfig)
    (correlation uid : ℕ) (frame : List UInt8) : Prop :=
  ∀ credential ∈ issued, credential.principal ∈ config.acceptedUids →
    correlationOf credential.message = some correlation →
      credential.principal = uid ∧ credential.message = frame

/-- An exchange of the gateway whose answer ends the call. -/
lemma Wrote.outcome {connection : Connection} {exchange : Exchange ℕ (List UInt8) (List UInt8)}
    {written : List UInt8} {read : Header} {response : Response} {j : Journal}
    (h : Wrote config sha256 j connection exchange written read response) {header : QsgpHeader}
    (hheader : qsgpDecodeHeader exchange.answer = .ok header)
    (htype : header.messageType = MessageType.errorResponse.code ∨
      header.messageType = request.expectedResponse.code)
    (hcall : qfwGatewayCall client request header.correlationId around =
      gatewayExchange (.ok exchange.answer) header.correlationId request.expectedResponse
        (decodeNative request.expectedResponse)) :
    correlationOf exchange.question = some header.correlationId ∧
      qfwGatewayCall client request header.correlationId around = response.outcome := by
  obtain ⟨correlation, -, hquestion, hown⟩ := h.correlation
  have hread : correlationOf exchange.answer = some header.correlationId := by
    rw [correlationOf, hheader]
    rfl
  rw [hread] at hown
  exact ⟨hquestion.trans hown.symm, hcall.trans (outcome_of_answer h.encoded hheader htype)⟩

/-- A frame that ends a call is an answer. -/
lemma isAnswer_of_type {answer : List UInt8} {header : QsgpHeader} {request : NativeRequest}
    (hheader : qsgpDecodeHeader answer = .ok header)
    (htype : header.messageType = MessageType.errorResponse.code ∨
      header.messageType = request.expectedResponse.code) : IsAnswer answer := by
  rcases htype with herror | hexpected
  · exact ⟨header, .errorResponse, hheader, herror, by decide⟩
  · refine ⟨header, request.expectedResponse, hheader, hexpected, ?_⟩
    cases request <;> simp [NativeRequest.expectedResponse]

/-- A call that ends with an answer ends with one that the gateway has given under its correlation
id. -/
lemma Attested.answered (h : Attested sha256 config client j run around)
    (hconclusive : Conclusive (qfwGatewayCall client request correlation around)) :
    ∃ before connection rest exchange written header response,
      run = before ++ Occurrence.connects connection :: rest ∧
      Wrote config sha256 (networkAfter sha256 config client.expectedMungeUid j before).state
        connection exchange written header response ∧
      correlationOf exchange.question = some correlation ∧
      qfwGatewayCall client request correlation around = response.outcome := by
  obtain ⟨-, answer, text, -, hopening, hcall, header, hheader, rfl, htype⟩ :=
    answer_of_conclusive hconclusive
  have htrusted := Meets.mono (Realm.next client.expectedMungeUid (gatewayServe sha256 config))
    (fun _ _ hsound => hsound.trusted sha256 config) h.authentic
  obtain ⟨before, connection, rest, exchange, hrest, hexchange, rfl, -⟩ :=
    Realm.exists_question htrusted (isAnswer_of_type hheader htype) (h.genuine _ _ _ hopening)
  obtain ⟨written, read, response, hwrote⟩ := gatewayServe_eq_some hexchange
  exact ⟨before, connection, rest, exchange, written, read, response, hrest, hwrote,
    hwrote.outcome hheader htype hcall⟩

/-- If no other message of an accepted user is under its correlation id, the answer with which a call
ends is the gateway's answer to the frame of the call. -/
lemma Attested.asked (h : Attested sha256 config client j run around)
    (hconclusive : Conclusive (qfwGatewayCall client request correlation around))
    {frame : List UInt8} {uid : ℕ}
    (honly : OnlyMessage (networkAfter sha256 config client.expectedMungeUid j run).issued config
      correlation uid frame) :
    ∃ before connection rest answer text written header response,
      run = before ++ Occurrence.connects connection :: rest ∧
      Wrote config sha256 (networkAfter sha256 config client.expectedMungeUid j before).state
        connection ⟨uid, frame, answer, text⟩ written header response ∧
      qfwGatewayCall client request correlation around = response.outcome := by
  obtain ⟨-, answer, text, -, hopening, hcall, header, hheader, rfl, htype⟩ :=
    answer_of_conclusive hconclusive
  have htrusted := Meets.mono (Realm.next client.expectedMungeUid (gatewayServe sha256 config))
    (fun _ _ hsound => hsound.trusted sha256 config) h.authentic
  obtain ⟨before, connection, rest, text', hrest, hexchange⟩ :=
    Realm.question_eq htrusted (isAnswer_of_type hheader htype) (h.genuine _ _ _ hopening)
      fun credential hmem haccepted hbelongs => honly credential hmem haccepted (by
        obtain ⟨correlation, hquestion, hown⟩ := hbelongs
        rw [correlationOf, hheader] at hown
        exact hquestion.trans hown.symm)
  obtain ⟨written, read, response, hwrote⟩ := gatewayServe_eq_some hexchange
  exact ⟨before, connection, rest, answer, text', written, read, response, hrest, hwrote,
    (hwrote.outcome hheader htype hcall).2⟩

/-- What makes sure that the gateway can read the request of a call: its texts are UTF-8 and its
heterogeneous job id, if present, is not zero; or the call has ended with a message. -/
def Understood (request : NativeRequest) (outcome : Except CallError NativeMessage) : Prop :=
  (∀ text ∈ request.texts, Textual text) ∧ request.HeteroNonzero ∨
    ∃ received, outcome = .ok received

/-- The gateway reads a request that is understood. -/
lemma Understood.readable {frame : List UInt8} {response : Response} {oracle : Oracle}
    {senderUid : ℤ} {read : Header} {w : GatewayWorld}
    (h : Understood request response.outcome)
    (hresponds : Responds sha256 j oracle senderUid frame read response w)
    (htyped : request.message.Typed) (hcorrelation : correlation < 2 ^ 64)
    (hframe : request.message.encode correlation = .ok frame) :
    (∀ text ∈ request.texts, Textual text) ∧ request.HeteroNonzero := by
  rcases h with hreadable | ⟨received, hok⟩
  · exact hreadable
  · cases hresponds with
    | served hdecode => exact textual_of_decodeRequest htyped hcorrelation hframe hdecode
    | unreadable => cases hok

/-- If no other message of an accepted user is under its correlation id, the gateway has served the
request of the call, and the call ends with the response, which the gateway has encoded. -/
lemma Attested.served (h : Attested sha256 config client j run around)
    (hconclusive : Conclusive (qfwGatewayCall client request correlation around))
    {frame : List UInt8} {uid : ℕ} (hframe : request.message.encode correlation = .ok frame)
    (honly : OnlyMessage (networkAfter sha256 config client.expectedMungeUid j run).issued config
      correlation uid frame)
    (htyped : request.message.Typed) (hcorrelation : correlation < 2 ^ 64)
    (hunderstood : Understood request (qfwGatewayCall client request correlation around)) :
    ∃ before connection rest found, run = before ++ Occurrence.connects connection :: rest ∧
      request.counterpart = some found ∧
      (networkAfter sha256 config client.expectedMungeUid j
          (before ++ [Occurrence.connects connection])).state =
        (serve sha256 (networkAfter sha256 config client.expectedMungeUid j before).state found
          uid connection.oracle).2.state ∧
      qfwGatewayCall client request correlation around =
        (serve sha256 (networkAfter sha256 config client.expectedMungeUid j before).state found
          uid connection.oracle).1.outcome ∧
      (serve sha256 (networkAfter sha256 config client.expectedMungeUid j before).state found
        uid connection.oracle).1.Sendable ∧ request.HeteroNonzero := by
  obtain ⟨before, connection, rest, answer, text, written, read, response, hrest, hwrote,
    hresponse⟩ := h.asked hconclusive honly
  rw [hresponse] at hunderstood
  obtain ⟨htexts, hhetero⟩ :=
    hunderstood.readable hwrote.responds htyped hcorrelation hframe
  obtain ⟨found, read', hfound, -, hdecode⟩ :=
    decodeRequest_of_encode htyped hcorrelation htexts hhetero hframe
  obtain ⟨hserved, hstate⟩ := hwrote.responds.of_decode hdecode
  refine ⟨before, connection, rest, found, hrest, hfound, ?_, ?_, ?_, hhetero⟩
  · rw [networkAfter, after_append, after_cons, after_nil]
    exact congrArg (·.state) hstate
  · rw [hresponse, hserved]
  · rw [← hserved]
    exact (encodeResponse_ok_iff.mp ⟨_, hwrote.encoded⟩).1

end Runs

/-- Whatever the network does with what is sent: a call that ends with an answer ends with one that
the gateway has given in this run, to a message of an accepted user under the correlation id of the
call.  If no accepted user has sent another message under it, and the request is understood, the
gateway has served the request of the call to its end, on behalf of the user whose message this is,
and the call ends with its response. -/
theorem call_answers_its_request (sha256 : Document → String) (config : GatewayConfig)
    (client : GatewayClient) (j : Journal)
    (run : List (Occurrence Connection ℕ (List UInt8) (List UInt8)))
    (hrun : Meets (Realm.next client.expectedMungeUid (gatewayServe sha256 config))
      (Authentic client.expectedMungeUid) ⟨j, []⟩ run)
    (request : NativeRequest) (correlation : ℕ) (around : CallSurroundings)
    (hgenuine : Genuine (networkAfter sha256 config client.expectedMungeUid j run).issued
      around.decoder.opening)
    (hconclusive : Conclusive (qfwGatewayCall client request correlation around)) :
    (∃ before connection rest exchange written header response,
      run = before ++ Occurrence.connects connection :: rest ∧
      Wrote config sha256 (networkAfter sha256 config client.expectedMungeUid j before).state
        connection exchange written header response ∧
      correlationOf exchange.question = some correlation ∧
      qfwGatewayCall client request correlation around = response.outcome) ∧
    ∀ frame uid, request.message.encode correlation = .ok frame →
      (∀ credential ∈ (networkAfter sha256 config client.expectedMungeUid j run).issued,
        credential.principal ∈ config.acceptedUids →
        correlationOf credential.message = some correlation →
          credential.principal = uid ∧ credential.message = frame) →
      request.message.Typed → correlation < 2 ^ 64 →
      Understood request (qfwGatewayCall client request correlation around) →
      ∃ before connection rest found, run = before ++ Occurrence.connects connection :: rest ∧
        request.counterpart = some found ∧
        (networkAfter sha256 config client.expectedMungeUid j
            (before ++ [Occurrence.connects connection])).state =
          (serve sha256 (networkAfter sha256 config client.expectedMungeUid j before).state found
            uid connection.oracle).2.state ∧
        qfwGatewayCall client request correlation around =
          (serve sha256 (networkAfter sha256 config client.expectedMungeUid j before).state found
            uid connection.oracle).1.outcome := by
  have hattested : Attested sha256 config client j run around := ⟨hrun, hgenuine⟩
  refine ⟨hattested.answered hconclusive, ?_⟩
  intro frame uid hframe honly htyped hcorrelation hunderstood
  obtain ⟨before, connection, rest, found, hrest, hfound, hstate, houtcome, -⟩ :=
    hattested.served hconclusive hframe honly htyped hcorrelation hunderstood
  exact ⟨before, connection, rest, found, hrest, hfound, hstate, houtcome⟩

/-! ### An undisturbed run -/

/-- A credential, for a MUNGE that keeps no secret: the user and the payload, in half bytes. -/
def sampleSeal (uid : ℕ) (payload : List UInt8) : List UInt8 :=
  (bigEndian 4 uid ++ payload).flatMap fun byte => [byte / 16 + 1, byte % 16 + 1]

/-- A MUNGE that opens the credentials that were issued. -/
def sampleMunge (issued : List (Credential ℕ (List UInt8) (List UInt8))) (uid : ℕ) : Munge where
  encode payload := .ok (sampleSeal uid payload)
  decode text :=
    match issued.find? (·.text = text) with
    | some credential => .ok (⟨credential.principal, credential.principal⟩, credential.message)
    | none => .error "Invalid credential"

lemma genuine_sampleMunge (issued : List (Credential ℕ (List UInt8) (List UInt8))) (uid : ℕ) :
    Genuine issued (sampleMunge issued uid).opening := by
  intro text principal message hopening
  rw [Munge.opening, sampleMunge] at hopening
  dsimp only at hopening
  cases hfind : issued.find? (·.text = text) with
  | none =>
    rw [hfind] at hopening
    cases hopening
  | some credential =>
    rw [hfind] at hopening
    have htext : credential.text = text := by simpa using List.find?_some hfind
    obtain ⟨rfl, rfl⟩ := Prod.mk.inj (Option.some.inj hopening)
    exact htext ▸ List.mem_of_find?_eq_some hfind

def sampleGatewayConfig : GatewayConfig := { acceptedUids := [0, 990] }

def sampleClient : GatewayClient :=
  ⟨utf8 "gateway", utf8 "18095", 5000, 120000, 64 * 1024, 991⟩

/-- The request of `SlurmUser`. -/
def sampleCredential : Credential ℕ (List UInt8) (List UInt8) :=
  let frame := frameBytes .reserveRequest 9 sampleNativeRequest.message.payload
  ⟨990, frame, sampleSeal 990 frame⟩

def sampleNetworkRun : List (Occurrence Connection ℕ (List UInt8) (List UInt8)) :=
  [.issues sampleCredential,
    .connects ⟨{ arriving := delimited sampleCredential.text }, sampleMunge [sampleCredential] 991,
      obliging, none⟩]

lemma typed_sampleNativeRequest : sampleNativeRequest.message.Typed := by
  refine ⟨by decide, by decide, by decide, by decide, by decide, by decide, by decide,
    ⟨by decide, by decide, by decide, by decide, by decide, by decide, by decide, by decide,
      by decide⟩, ?_⟩
  decide

lemma textual_sampleNativeRequest : ∀ text ∈ sampleNativeRequest.texts, Textual text := by
  unfold Textual
  decide +kernel

lemma encode_sampleNativeRequest :
    sampleNativeRequest.message.encode 9 = .ok sampleCredential.message := by
  decide +kernel

/-- The credentials in circulation. -/
def sampleIssued : List (Credential ℕ (List UInt8) (List UInt8)) :=
  (networkAfter sampleDigest sampleGatewayConfig sampleClient.expectedMungeUid Journal.empty
    sampleNetworkRun).issued

/-- A socket on which the last of them arrives. -/
def sampleAround : CallSurroundings where
  encoder := sampleMunge sampleIssued 990
  addresses := some [none, some
    { incoming := (sampleIssued.getLast?.map fun credential => delimited credential.text).getD []
      rounds := List.replicate 4 ⟨[.ready false true], .moved 10000⟩ }]
  decoder := sampleMunge sampleIssued 990

/-- A client issues a credential, and the gateway opens no other. -/
lemma sound_pair {gatewayUid : ℕ} {credential : Credential ℕ (List UInt8) (List UInt8)}
    {connection : Connection} (hother : credential.principal ≠ gatewayUid)
    (hgenuine : Genuine [credential] connection.munge.opening) :
    Meets (Realm.next gatewayUid (gatewayServe sampleDigest sampleGatewayConfig))
      (Authentic gatewayUid) ⟨Journal.empty, []⟩ [.issues credential, .connects connection] :=
  ⟨fun h => absurd h hother, hgenuine, trivial⟩

/-- After that, of the credentials in circulation only the client's is of an accepted user. -/
lemma eq_of_accepted_pair {gatewayUid : ℕ} {j : Journal}
    {credential other : Credential ℕ (List UInt8) (List UInt8)} {connection : Connection}
    (hgateway : gatewayUid ∉ sampleGatewayConfig.acceptedUids)
    (hmem : other ∈ (networkAfter sampleDigest sampleGatewayConfig gatewayUid j
      [.issues credential, .connects connection]).issued)
    (haccepted : other.principal ∈ sampleGatewayConfig.acceptedUids) : other = credential := by
  rcases Realm.issued_cases _ _ hmem with hstart | hissued | hserver
  · exact absurd hstart List.not_mem_nil
  · rcases List.mem_cons.mp hissued with hclient | hconnects
    · exact Occurrence.issues.inj hclient
    · cases List.mem_singleton.mp hconnects
  · exact absurd (hserver ▸ haccepted) hgateway

lemma sampleCall_conclusive :
    Conclusive (qfwGatewayCall sampleClient sampleNativeRequest 9 sampleAround) := by
  have hok : (qfwGatewayCall sampleClient sampleNativeRequest 9 sampleAround).toBool = true := by
    decide +kernel
  obtain ⟨response, hresponse⟩ := exists_eq_ok_of_toBool hok
  exact conclusive_of_ok hresponse

theorem call_answers_its_request_sample :
    ∃ found, sampleNativeRequest.counterpart = some found ∧
      qfwGatewayCall sampleClient sampleNativeRequest 9 sampleAround =
        (serve sampleDigest Journal.empty found 990 obliging).1.outcome := by
  have hprincipal : sampleCredential.principal = 990 := by decide
  have hother : sampleCredential.principal ≠ sampleClient.expectedMungeUid := by decide
  obtain ⟨before, connection, rest, found, hsplit, hfound, -, houtcome⟩ :=
    (call_answers_its_request sampleDigest sampleGatewayConfig sampleClient Journal.empty
      sampleNetworkRun (sound_pair hother (genuine_sampleMunge [sampleCredential] 991))
      sampleNativeRequest 9 sampleAround
      (genuine_sampleMunge sampleIssued 990) sampleCall_conclusive).2 sampleCredential.message 990
      encode_sampleNativeRequest (fun credential hmem haccepted _ => by
        obtain rfl := eq_of_accepted_pair (by decide) hmem haccepted
        exact ⟨hprincipal, rfl⟩) typed_sampleNativeRequest (by decide)
      (.inl ⟨textual_sampleNativeRequest, fun _ => by decide⟩)
  obtain ⟨hbefore, hconnection⟩ : before = [.issues sampleCredential] ∧
      connection.oracle = obliging := by
    rcases before with - | ⟨first, - | ⟨second, before⟩⟩
    · cases hsplit
    · obtain ⟨rfl, hrest⟩ := List.cons.inj hsplit
      obtain ⟨hconnects, -⟩ := List.cons.inj hrest
      exact ⟨rfl, (congrArg Connection.oracle (Occurrence.connects.inj hconnects)).symm⟩
    · obtain ⟨-, hrest⟩ := List.cons.inj hsplit
      obtain ⟨-, hrest⟩ := List.cons.inj hrest
      simp at hrest
  rw [hbefore, hconnection] at houtcome
  exact ⟨found, hfound, houtcome⟩

end QfwSlurm
