import QfwSlurm.Protocol.Messages

/-!
# Responses as stored documents

The journal keeps a response as a JSON document.  `responseToDict` and `responseFromDict` model
`response_to_dict` and `response_from_dict` of `protocol.py` on `Json`, the values that
`json.loads` returns for a document `json.dumps` has written: objects are association lists, and a
field is found by its name.

Reading back a stored document returns the response it was made from (`responseFromDict_toDict`),
for responses of every class.
-/

namespace QfwSlurm

/-- The documents the gateway stores: what `json.dumps` accepts and `json.loads` gives back. -/
inductive Json where
  | null
  | int (value : ℤ)
  | str (value : String)
  | arr (items : List Json)
  | obj (fields : List (String × Json))

namespace Json

/-- `value.get(key)`, with `null` for a missing key; raises when the value is not a mapping. -/
def get (key : String) : Json → Except PyError Json
  | .obj fields => .ok ((fields.lookup key).getD .null)
  | _ => .error ⟨.other, "object has no attribute 'get'"⟩

/-- `value[key]`, which raises `KeyError` for a missing key. -/
def getItem (key : String) : Json → Except PyError Json
  | .obj fields =>
    match fields.lookup key with
    | some value => .ok value
    | none => .error ⟨.other, reprText key⟩
  | _ => .error ⟨.other, "object is not subscriptable"⟩

/-- An integer field. -/
def asInt : Json → Except PyError ℤ
  | .int value => .ok value
  | _ => .error ⟨.other, "stored field is not an integer"⟩

/-- A text field. -/
def asText : Json → Except PyError String
  | .str value => .ok value
  | _ => .error ⟨.other, "stored field is not a text"⟩

/-- A list field. -/
def asList : Json → Except PyError (List Json)
  | .arr items => .ok items
  | _ => .error ⟨.other, "stored field is not a list"⟩

/-- A field that may be `None`. -/
def optional {α : Type} (read : Json → Except PyError α) : Json → Except PyError (Option α)
  | .null => .ok none
  | value => (read value).map some

/-- An optional value as a field. -/
def ofOption {α : Type} (write : α → Json) : Option α → Json
  | none => .null
  | some value => write value

end Json

/-! ### Writing -/

def ServiceResult.toDict (item : ServiceResult) : Json :=
  .obj [("service_id", .str item.serviceId),
    ("decision", .int item.decision.code),
    ("reason_code", .int item.reasonCode),
    ("reservation_id", .ofOption .int item.reservationId),
    ("retry_after_ns", .ofOption .int item.retryAfterNs),
    ("estimated_start_ns", .ofOption .int item.estimatedStartNs),
    ("estimated_finish_ns", .ofOption .int item.estimatedFinishNs),
    ("qpm_runtime_id", .ofOption .str item.qpmRuntimeId),
    ("qpm_generation", .ofOption .int item.qpmGeneration),
    ("diagnostic", .ofOption .str item.diagnostic)]

def ReleaseResult.toDict (item : ReleaseResult) : Json :=
  .obj [("service_id", .str item.serviceId),
    ("reservation_id", .int item.reservationId),
    ("state", .int item.state.code),
    ("gateway_error", .ofOption (fun e => .int e.code) item.gatewayError),
    ("diagnostic", .ofOption .str item.diagnostic)]

def Reservation.toDict (item : Reservation) : Json :=
  .obj [("service_id", .str item.serviceId), ("reservation_id", .int item.reservationId)]

/-- The fields of an admission response under a class name. -/
def ReserveResponse.toDict (responseType : String) (response : ReserveResponse) : Json :=
  .obj [("request_id", .int response.requestId),
    ("decision", .int response.decision.code),
    ("results", .arr (response.results.map ServiceResult.toDict)),
    ("response_type", .str responseType)]

/-- `response_to_dict` -/
def responseToDict : Response → Json
  | .evaluate response => response.toReserveResponse.toDict "EvaluateResponse"
  | .reserve response => response.toDict "ReserveResponse"
  | .release response =>
    .obj [("request_id", .int response.requestId),
      ("results", .arr (response.results.map ReleaseResult.toDict)),
      ("response_type", .str "ReleaseResponse")]
  | .getReservations response =>
    .obj [("request_id", .int response.requestId),
      ("canonical_job_id", .int response.canonicalJobId),
      ("reservations", .arr (response.reservations.map Reservation.toDict)),
      ("response_type", .str "GetReservationsResponse")]
  | .error response =>
    .obj [("error_code", .int response.errorCode.code),
      ("request_id", .ofOption .int response.requestId),
      ("diagnostic", .ofOption .str response.diagnostic),
      ("response_type", .str "ErrorResponse")]

/-! ### Reading -/

/-- The constructor of an enumeration on a stored code; `ValueError` for a code it does not have. -/
def readCode {α : Type} (ofCode : ℤ → Option α) (value : Json) : Except PyError α := do
  match ofCode (← value.asInt) with
  | some a => pure a
  | none => throw ⟨.other, "stored code is not a valid enumeration value"⟩

def ServiceResult.fromDict (item : Json) : Except PyError ServiceResult := do
  return {
    serviceId := ← (← item.getItem "service_id").asText
    decision := ← readCode AdmissionDecision.ofCode (← item.getItem "decision")
    reasonCode := ← (← item.getItem "reason_code").asInt
    reservationId := ← (← item.get "reservation_id").optional Json.asInt
    retryAfterNs := ← (← item.get "retry_after_ns").optional Json.asInt
    estimatedStartNs := ← (← item.get "estimated_start_ns").optional Json.asInt
    estimatedFinishNs := ← (← item.get "estimated_finish_ns").optional Json.asInt
    qpmRuntimeId := ← (← item.get "qpm_runtime_id").optional Json.asText
    qpmGeneration := ← (← item.get "qpm_generation").optional Json.asInt
    diagnostic := ← (← item.get "diagnostic").optional Json.asText }

def ReleaseResult.fromDict (item : Json) : Except PyError ReleaseResult := do
  return {
    serviceId := ← (← item.getItem "service_id").asText
    reservationId := ← (← item.getItem "reservation_id").asInt
    state := ← readCode ReservationState.ofCode (← item.getItem "state")
    gatewayError := ← (← item.get "gateway_error").optional (readCode GatewayError.ofCode)
    diagnostic := ← (← item.get "diagnostic").optional Json.asText }

def Reservation.fromDict (item : Json) : Except PyError Reservation := do
  return {
    serviceId := ← (← item.getItem "service_id").asText
    reservationId := ← (← item.getItem "reservation_id").asInt }

/-- The common part of the two admission responses in `response_from_dict`. -/
def ReserveResponse.fromDict (value : Json) : Except PyError ReserveResponse := do
  return {
    requestId := ← (← value.getItem "request_id").asInt
    decision := ← readCode AdmissionDecision.ofCode (← value.getItem "decision")
    results := ← (← (← value.getItem "results").asList).mapM ServiceResult.fromDict }

def ReleaseResponse.fromDict (value : Json) : Except PyError ReleaseResponse := do
  return {
    requestId := ← (← value.getItem "request_id").asInt
    results := ← (← (← value.getItem "results").asList).mapM ReleaseResult.fromDict }

def GetReservationsResponse.fromDict (value : Json) : Except PyError GetReservationsResponse := do
  return {
    requestId := ← (← value.getItem "request_id").asInt
    canonicalJobId := ← (← value.getItem "canonical_job_id").asInt
    reservations := ← (← (← value.getItem "reservations").asList).mapM Reservation.fromDict }

def ErrorResponse.fromDict (value : Json) : Except PyError ErrorResponse := do
  return {
    errorCode := ← readCode GatewayError.ofCode (← value.getItem "error_code")
    requestId := ← (← value.get "request_id").optional Json.asInt
    diagnostic := ← (← value.get "diagnostic").optional Json.asText }

/-- `response_from_dict` -/
def responseFromDict (value : Json) : Except PyError Response := do
  match ← value.get "response_type" with
  | .str "EvaluateResponse" => return .evaluate ⟨← ReserveResponse.fromDict value⟩
  | .str "ReserveResponse" => return .reserve (← ReserveResponse.fromDict value)
  | .str "ReleaseResponse" => return .release (← ReleaseResponse.fromDict value)
  | .str "GetReservationsResponse" =>
    return .getReservations (← GetReservationsResponse.fromDict value)
  | .str "ErrorResponse" => return .error (← ErrorResponse.fromDict value)
  | _ => throw (protocolError "stored response type is invalid")

/-! ### Reading back what was written -/

/-- Reading an optional field back. -/
lemma Json.optional_ofOption {α : Type} {read : Json → Except PyError α} {write : α → Json}
    (hwrite : ∀ a, write a ≠ .null) (hread : ∀ a, read (write a) = .ok a) (o : Option α) :
    (Json.ofOption write o).optional read = .ok o := by
  cases o with
  | none => rfl
  | some a =>
    have hstep : (write a).optional read = (read (write a)).map some := by
      cases h : write a with
      | null => exact absurd h (hwrite a)
      | int _ => rfl
      | str _ => rfl
      | arr _ => rfl
      | obj _ => rfl
    rw [ofOption, hstep, hread a]
    rfl

@[simp] lemma Json.optional_int (o : Option ℤ) :
    (Json.ofOption .int o).optional Json.asInt = .ok o := by
  apply Json.optional_ofOption
  · intro a
    simp
  · intro a
    rfl

@[simp] lemma Json.optional_str (o : Option String) :
    (Json.ofOption .str o).optional Json.asText = .ok o := by
  apply Json.optional_ofOption
  · intro a
    simp
  · intro a
    rfl

/-- Reading an enumeration value back from its code. -/
lemma readCode_code {α : Type} {ofCode : ℤ → Option α} {code : ℤ} {a : α}
    (h : ofCode code = some a) : readCode ofCode (.int code) = .ok a := by
  simp only [readCode, Json.asInt, bind, Except.bind, h]
  rfl

@[simp] lemma Json.optional_gatewayError (o : Option GatewayError) :
    (Json.ofOption (fun e => .int e.code) o).optional (readCode GatewayError.ofCode) = .ok o :=
  Json.optional_ofOption (by simp) (fun e => readCode_code e.ofCode_code) o

/-- A list read element by element comes back when each element does. -/
lemma mapM_toDict {α : Type} {write : α → Json} {read : Json → Except PyError α}
    (h : ∀ a, read (write a) = .ok a) (l : List α) : (l.map write).mapM read = .ok l := by
  induction l with
  | nil => rfl
  | cons a l ih =>
    rw [List.map_cons, List.mapM_cons, h, ih]
    rfl

@[simp] lemma ServiceResult.fromDict_toDict (item : ServiceResult) :
    ServiceResult.fromDict item.toDict = .ok item := by
  simp only [fromDict, toDict, Json.getItem, Json.get]
  simp [List.lookup_cons, Json.asText, Json.asInt, readCode_code item.decision.ofCode_code, bind,
    Except.bind, pure, Except.pure]

@[simp] lemma ReleaseResult.fromDict_toDict (item : ReleaseResult) :
    ReleaseResult.fromDict item.toDict = .ok item := by
  simp only [fromDict, toDict, Json.getItem, Json.get]
  simp [List.lookup_cons, Json.asText, Json.asInt, readCode_code item.state.ofCode_code, bind,
    Except.bind, pure, Except.pure]

@[simp] lemma Reservation.fromDict_toDict (item : Reservation) :
    Reservation.fromDict item.toDict = .ok item := rfl

/-- The common part of the two admission responses comes back under either class name. -/
lemma ReserveResponse.fromDict_toDict (responseType : String) (response : ReserveResponse) :
    ReserveResponse.fromDict (response.toDict responseType) = .ok response := by
  simp only [fromDict, toDict, Json.getItem]
  simp [List.lookup_cons, Json.asInt, Json.asList, readCode_code response.decision.ofCode_code,
    mapM_toDict ServiceResult.fromDict_toDict, bind, Except.bind, pure, Except.pure]

/-- Reading a stored response back returns the response that was stored. -/
@[simp] theorem responseFromDict_toDict (response : Response) :
    responseFromDict (responseToDict response) = .ok response := by
  cases response with
  | evaluate response =>
    change (do
      return Response.evaluate
        ⟨← ReserveResponse.fromDict (response.toReserveResponse.toDict "EvaluateResponse")⟩ :
      Except PyError Response) = _
    rw [ReserveResponse.fromDict_toDict]
    rfl
  | reserve response =>
    change (do
      return Response.reserve
        (← ReserveResponse.fromDict (response.toDict "ReserveResponse")) :
      Except PyError Response) = _
    rw [ReserveResponse.fromDict_toDict]
    rfl
  | release response =>
    simp [responseFromDict, responseToDict, ReleaseResponse.fromDict, Json.getItem, Json.get,
      List.lookup_cons, Json.asInt, Json.asList, mapM_toDict ReleaseResult.fromDict_toDict, bind,
      Except.bind, pure, Except.pure]
  | getReservations response =>
    simp [responseFromDict, responseToDict, GetReservationsResponse.fromDict, Json.getItem,
      Json.get, List.lookup_cons, Json.asInt, Json.asList, mapM_toDict Reservation.fromDict_toDict,
      bind, Except.bind, pure, Except.pure]
  | error response =>
    simp [responseFromDict, responseToDict, ErrorResponse.fromDict, Json.getItem, Json.get,
      List.lookup_cons, readCode_code response.errorCode.ofCode_code, bind, Except.bind, pure,
      Except.pure]

/-- Two responses with the same stored document are equal. -/
lemma responseToDict_injective : Function.Injective responseToDict := by
  intro a b h
  have hback := congrArg responseFromDict h
  simpa using hback

end QfwSlurm
