import QfwSlurm.Python.Dumps
import QfwSlurm.Protocol.StoredResponse

/-!
# Stored responses with any texts

`response_to_dict` and `response_from_dict` with the text between them: the journal stores what
`json.dumps` writes and replays what `json.loads` reads.  The texts of a response are strings of
Python here, and may contain surrogates.

A replayed response is the stored one with the surrogate pairs of its texts merged
(`replayed_eq`), so that it is unchanged exactly when there are none.  `replayed_ofResponse` is the
case of texts that are Unicode, which is what the documents of `StoredResponse` stand for.
-/

namespace QfwSlurm.Stored

open Python

/-! ### Responses -/

structure ServiceResult where
  serviceId : Str
  decision : AdmissionDecision
  reasonCode : ℤ
  reservationId : Option ℤ := none
  retryAfterNs : Option ℤ := none
  estimatedStartNs : Option ℤ := none
  estimatedFinishNs : Option ℤ := none
  qpmRuntimeId : Option Str := none
  qpmGeneration : Option ℤ := none
  diagnostic : Option Str := none

structure ReserveResponse where
  requestId : ℤ
  decision : AdmissionDecision
  results : List ServiceResult

/-- A reserve response under another class. -/
structure EvaluateResponse extends ReserveResponse

structure ReleaseResult where
  serviceId : Str
  reservationId : ℤ
  state : ReservationState
  gatewayError : Option GatewayError := none
  diagnostic : Option Str := none

structure ReleaseResponse where
  requestId : ℤ
  results : List ReleaseResult

structure Reservation where
  serviceId : Str
  reservationId : ℤ

structure GetReservationsResponse where
  requestId : ℤ
  canonicalJobId : ℤ
  reservations : List Reservation

structure ErrorResponse where
  errorCode : GatewayError
  requestId : Option ℤ := none
  diagnostic : Option Str := none

inductive Response where
  | evaluate (response : EvaluateResponse)
  | reserve (response : ReserveResponse)
  | release (response : ReleaseResponse)
  | getReservations (response : GetReservationsResponse)
  | error (response : ErrorResponse)

/-! ### Writing -/

/-- An object whose names contain no surrogates. -/
def named (fields : List (String × Value)) : Value :=
  .obj (fields.map fun field => (Str.ofString field.1, field.2))

/-- An optional value as a field. -/
def ofOption {α : Type} (write : α → Value) : Option α → Value
  | none => .null
  | some value => write value

def ServiceResult.fields (item : ServiceResult) : List (String × Value) :=
  [("service_id", .str item.serviceId),
    ("decision", .int item.decision.code),
    ("reason_code", .int item.reasonCode),
    ("reservation_id", ofOption .int item.reservationId),
    ("retry_after_ns", ofOption .int item.retryAfterNs),
    ("estimated_start_ns", ofOption .int item.estimatedStartNs),
    ("estimated_finish_ns", ofOption .int item.estimatedFinishNs),
    ("qpm_runtime_id", ofOption .str item.qpmRuntimeId),
    ("qpm_generation", ofOption .int item.qpmGeneration),
    ("diagnostic", ofOption .str item.diagnostic)]

def ReleaseResult.fields (item : ReleaseResult) : List (String × Value) :=
  [("service_id", .str item.serviceId),
    ("reservation_id", .int item.reservationId),
    ("state", .int item.state.code),
    ("gateway_error", ofOption (fun e => .int e.code) item.gatewayError),
    ("diagnostic", ofOption .str item.diagnostic)]

def Reservation.fields (item : Reservation) : List (String × Value) :=
  [("service_id", .str item.serviceId), ("reservation_id", .int item.reservationId)]

/-- The fields of an admission response under a class name. -/
def ReserveResponse.fields (responseType : String) (response : ReserveResponse) :
    List (String × Value) :=
  [("request_id", .int response.requestId),
    ("decision", .int response.decision.code),
    ("results", .arr (response.results.map fun item => named item.fields)),
    ("response_type", .str (Str.ofString responseType))]

def Response.fields : Response → List (String × Value)
  | .evaluate response => response.toReserveResponse.fields "EvaluateResponse"
  | .reserve response => response.fields "ReserveResponse"
  | .release response =>
    [("request_id", .int response.requestId),
      ("results", .arr (response.results.map fun item => named item.fields)),
      ("response_type", .str (Str.ofString "ReleaseResponse"))]
  | .getReservations response =>
    [("request_id", .int response.requestId),
      ("canonical_job_id", .int response.canonicalJobId),
      ("reservations", .arr (response.reservations.map fun item => named item.fields)),
      ("response_type", .str (Str.ofString "GetReservationsResponse"))]
  | .error response =>
    [("error_code", .int response.errorCode.code),
      ("request_id", ofOption .int response.requestId),
      ("diagnostic", ofOption .str response.diagnostic),
      ("response_type", .str (Str.ofString "ErrorResponse"))]

/-- `response_to_dict` -/
def responseToDict (response : Response) : Value := named response.fields

/-! ### Reading -/

/-- `value.get(name)`, with `null` for a missing name; raises when the value is not a mapping. -/
def getField (name : String) : Value → Except PyError Value
  | .obj members => .ok (((Document.obj members).get (Str.ofString name)).getD .null)
  | _ => .error ⟨.other, "object has no attribute 'get'"⟩

/-- `value[name]`, which raises `KeyError` for a missing name. -/
def getItem (name : String) : Value → Except PyError Value
  | .obj members =>
    match (Document.obj members).get (Str.ofString name) with
    | some value => .ok value
    | none => .error ⟨.other, reprText name⟩
  | _ => .error ⟨.other, "object is not subscriptable"⟩

/-- An integer field. -/
def asInt : Value → Except PyError ℤ
  | .int value => .ok value
  | _ => .error ⟨.other, "stored field is not an integer"⟩

/-- A text field. -/
def asText : Value → Except PyError Str
  | .str value => .ok value
  | _ => .error ⟨.other, "stored field is not a text"⟩

/-- A list field. -/
def asList : Value → Except PyError (List Value)
  | .arr items => .ok items
  | _ => .error ⟨.other, "stored field is not a list"⟩

/-- A field that may be `None`. -/
def optional {α : Type} (read : Value → Except PyError α) : Value → Except PyError (Option α)
  | .null => .ok none
  | value => (read value).map some

/-- The constructor of an enumeration on a stored code; `ValueError` for a code it does not have. -/
def readCode {α : Type} (ofCode : ℤ → Option α) (value : Value) : Except PyError α := do
  match ofCode (← asInt value) with
  | some a => pure a
  | none => throw ⟨.other, "stored code is not a valid enumeration value"⟩

def ServiceResult.fromDict (item : Value) : Except PyError ServiceResult := do
  return {
    serviceId := ← asText (← getItem "service_id" item)
    decision := ← readCode AdmissionDecision.ofCode (← getItem "decision" item)
    reasonCode := ← asInt (← getItem "reason_code" item)
    reservationId := ← optional asInt (← getField "reservation_id" item)
    retryAfterNs := ← optional asInt (← getField "retry_after_ns" item)
    estimatedStartNs := ← optional asInt (← getField "estimated_start_ns" item)
    estimatedFinishNs := ← optional asInt (← getField "estimated_finish_ns" item)
    qpmRuntimeId := ← optional asText (← getField "qpm_runtime_id" item)
    qpmGeneration := ← optional asInt (← getField "qpm_generation" item)
    diagnostic := ← optional asText (← getField "diagnostic" item) }

def ReleaseResult.fromDict (item : Value) : Except PyError ReleaseResult := do
  return {
    serviceId := ← asText (← getItem "service_id" item)
    reservationId := ← asInt (← getItem "reservation_id" item)
    state := ← readCode ReservationState.ofCode (← getItem "state" item)
    gatewayError := ← optional (readCode GatewayError.ofCode) (← getField "gateway_error" item)
    diagnostic := ← optional asText (← getField "diagnostic" item) }

def Reservation.fromDict (item : Value) : Except PyError Reservation := do
  return {
    serviceId := ← asText (← getItem "service_id" item)
    reservationId := ← asInt (← getItem "reservation_id" item) }

/-- The common part of the two admission responses in `response_from_dict`. -/
def ReserveResponse.fromDict (value : Value) : Except PyError ReserveResponse := do
  return {
    requestId := ← asInt (← getItem "request_id" value)
    decision := ← readCode AdmissionDecision.ofCode (← getItem "decision" value)
    results := ← (← asList (← getItem "results" value)).mapM ServiceResult.fromDict }

def ReleaseResponse.fromDict (value : Value) : Except PyError ReleaseResponse := do
  return {
    requestId := ← asInt (← getItem "request_id" value)
    results := ← (← asList (← getItem "results" value)).mapM ReleaseResult.fromDict }

def GetReservationsResponse.fromDict (value : Value) : Except PyError GetReservationsResponse := do
  return {
    requestId := ← asInt (← getItem "request_id" value)
    canonicalJobId := ← asInt (← getItem "canonical_job_id" value)
    reservations := ← (← asList (← getItem "reservations" value)).mapM Reservation.fromDict }

def ErrorResponse.fromDict (value : Value) : Except PyError ErrorResponse := do
  return {
    errorCode := ← readCode GatewayError.ofCode (← getItem "error_code" value)
    requestId := ← optional asInt (← getField "request_id" value)
    diagnostic := ← optional asText (← getField "diagnostic" value) }

/-- The value is this text. -/
def isText (text : String) : Value → Bool
  | .str value => value = Str.ofString text
  | _ => false

/-- `response_from_dict` -/
def responseFromDict (value : Value) : Except PyError Response := do
  let responseType ← getField "response_type" value
  if isText "EvaluateResponse" responseType then
    return .evaluate ⟨← ReserveResponse.fromDict value⟩
  else if isText "ReserveResponse" responseType then
    return .reserve (← ReserveResponse.fromDict value)
  else if isText "ReleaseResponse" responseType then
    return .release (← ReleaseResponse.fromDict value)
  else if isText "GetReservationsResponse" responseType then
    return .getReservations (← GetReservationsResponse.fromDict value)
  else if isText "ErrorResponse" responseType then
    return .error (← ErrorResponse.fromDict value)
  else throw (protocolError "stored response type is invalid")

/-- What a stored response is replayed as. -/
def replayed (response : Response) : Except PyError Response :=
  match Value.loads (Value.dumps (responseToDict response)) with
  | some value => responseFromDict value
  | none => .error ⟨.other, "Expecting value"⟩

/-! ### Texts and integers of a response -/

def ServiceResult.mapTexts (f : Str → Str) (item : ServiceResult) : ServiceResult :=
  { item with
    serviceId := f item.serviceId
    qpmRuntimeId := item.qpmRuntimeId.map f
    diagnostic := item.diagnostic.map f }

def ReserveResponse.mapTexts (f : Str → Str) (response : ReserveResponse) : ReserveResponse :=
  { response with results := response.results.map (·.mapTexts f) }

def ReleaseResult.mapTexts (f : Str → Str) (item : ReleaseResult) : ReleaseResult :=
  { item with serviceId := f item.serviceId, diagnostic := item.diagnostic.map f }

def Reservation.mapTexts (f : Str → Str) (item : Reservation) : Reservation :=
  { item with serviceId := f item.serviceId }

/-- The response with another text for each of its texts. -/
def Response.mapTexts (f : Str → Str) : Response → Response
  | .evaluate response => .evaluate ⟨response.toReserveResponse.mapTexts f⟩
  | .reserve response => .reserve (response.mapTexts f)
  | .release response =>
    .release { response with results := response.results.map (·.mapTexts f) }
  | .getReservations response =>
    .getReservations { response with reservations := response.reservations.map (·.mapTexts f) }
  | .error response => .error { response with diagnostic := response.diagnostic.map f }

def ServiceResult.texts (item : ServiceResult) : List Str :=
  item.serviceId :: (item.qpmRuntimeId.toList ++ item.diagnostic.toList)

def ReleaseResult.texts (item : ReleaseResult) : List Str :=
  item.serviceId :: item.diagnostic.toList

/-- The texts of a response. -/
def Response.texts : Response → List Str
  | .evaluate response => response.results.flatMap (·.texts)
  | .reserve response => response.results.flatMap (·.texts)
  | .release response => response.results.flatMap (·.texts)
  | .getReservations response => response.reservations.flatMap fun item => [item.serviceId]
  | .error response => response.diagnostic.toList

def ServiceResult.integers (item : ServiceResult) : List ℤ :=
  item.reasonCode :: [item.reservationId, item.retryAfterNs, item.estimatedStartNs,
    item.estimatedFinishNs, item.qpmGeneration].flatMap Option.toList

/-- The integers of a response, apart from the codes of its enumerations. -/
def Response.integers : Response → List ℤ
  | .evaluate response => response.requestId :: response.results.flatMap (·.integers)
  | .reserve response => response.requestId :: response.results.flatMap (·.integers)
  | .release response => response.requestId :: response.results.map (·.reservationId)
  | .getReservations response =>
    response.requestId :: response.canonicalJobId :: response.reservations.map (·.reservationId)
  | .error response => response.requestId.toList

/-! ### When a change of texts changes a response -/

section Fixed

variable {f : Str → Str}

lemma map_eq_self_iff {α : Type} {g : α → α} {xs : List α} :
    xs.map g = xs ↔ ∀ x ∈ xs, g x = x := by
  induction xs with
  | nil => simp
  | cons x xs ih => rw [List.map_cons, List.cons.injEq, ih, List.forall_mem_cons]

lemma option_map_eq_self_iff {o : Option Str} : o.map f = o ↔ ∀ text ∈ o.toList, f text = text := by
  cases o with
  | none => simp
  | some text => simp

lemma ServiceResult.mapTexts_eq_iff (item : ServiceResult) :
    item.mapTexts f = item ↔ ∀ text ∈ item.texts, f text = text := by
  rw [texts, List.forall_mem_cons, List.forall_mem_append, ← option_map_eq_self_iff,
    ← option_map_eq_self_iff]
  cases item
  simp [mapTexts]

lemma ReleaseResult.mapTexts_eq_iff (item : ReleaseResult) :
    item.mapTexts f = item ↔ ∀ text ∈ item.texts, f text = text := by
  rw [texts, List.forall_mem_cons, ← option_map_eq_self_iff]
  cases item
  simp [mapTexts]

/-- The results are unchanged when the texts of each are. -/
lemma map_results_eq_iff {α : Type} {change : α → α} {texts : α → List Str}
    (h : ∀ item, change item = item ↔ ∀ text ∈ texts item, f text = text) (items : List α) :
    items.map change = items ↔ ∀ text ∈ items.flatMap texts, f text = text := by
  rw [map_eq_self_iff]
  simp only [h, List.mem_flatMap, forall_exists_index, and_imp]
  exact ⟨fun hall text item hitem htext => hall item hitem text htext,
    fun hall item hitem text htext => hall text item hitem htext⟩

/-- A response is unchanged exactly when its texts are. -/
lemma Response.mapTexts_eq_iff (response : Response) :
    response.mapTexts f = response ↔ ∀ text ∈ response.texts, f text = text := by
  cases response with
  | evaluate response =>
    rw [texts, ← map_results_eq_iff ServiceResult.mapTexts_eq_iff]
    obtain ⟨⟨_, _, _⟩⟩ := response
    simp [mapTexts, ReserveResponse.mapTexts]
  | reserve response =>
    rw [texts, ← map_results_eq_iff ServiceResult.mapTexts_eq_iff]
    obtain ⟨_, _, _⟩ := response
    simp [mapTexts, ReserveResponse.mapTexts]
  | release response =>
    rw [texts, ← map_results_eq_iff ReleaseResult.mapTexts_eq_iff]
    obtain ⟨_, _⟩ := response
    simp [mapTexts]
  | getReservations response =>
    have hitem (item : Reservation) :
        item.mapTexts f = item ↔ ∀ text ∈ [item.serviceId], f text = text := by
      cases item
      simp [Reservation.mapTexts]
    rw [texts, ← map_results_eq_iff hitem]
    obtain ⟨_, _, _⟩ := response
    simp [mapTexts]
  | error response =>
    rw [texts, ← option_map_eq_self_iff]
    cases response
    simp [mapTexts]

end Fixed

/-! ### Reading back -/

/-- Texts of characters differ as strings of Python do. -/
lemma ofString_injective : Function.Injective Str.ofString := by
  intro a b h
  refine String.toList_inj.mp (List.map_injective_iff.mpr (fun c d hcd => ?_) h)
  have hlt (c : Char) : c.toNat < 0x110000 := by
    have hvalid : c.toNat < 0xD800 ∨ 0xDFFF < c.toNat ∧ c.toNat < 0x110000 := c.valid
    omega
  have hval := congrArg Fin.val hcd
  rw [Fin.val_ofNat, Fin.val_ofNat, Nat.mod_eq_of_lt (hlt c), Nat.mod_eq_of_lt (hlt d)] at hval
  exact Char.toNat_inj.mp hval

section Fields

variable {fields : List (String × Value)} (hnames : (fields.map Prod.fst).Nodup)
include hnames

/-- The fields of a stored object are those it was written with. -/
lemma get_named (name : String) : Document.get (Value.stored (named fields)) (Str.ofString name) =
    (fields.lookup name).map Value.stored := by
  have hgood : Value.Named (fields.map fun field => (Str.ofString field.1, field.2)) := by
    refine ⟨?_, fun member hmember => ?_⟩
    · have hmap := hnames.map ofString_injective
      rwa [List.map_map] at hmap ⊢
    · obtain ⟨field, -, rfl⟩ := List.mem_map.mp hmember
      exact unpaired_ofString field.1
  have hlookup : (fields.map fun field => (Str.ofString field.1, field.2)).lookup
      (Str.ofString name) = fields.lookup name := by
    clear hnames hgood
    induction fields with
    | nil => rfl
    | cons field fields ih =>
      rw [List.map_cons, List.lookup_cons, List.lookup_cons, ih]
      by_cases hname : name = field.1
      · rw [hname, beq_self_eq_true, beq_self_eq_true]
      · rw [beq_eq_false_iff_ne.mpr hname,
          beq_eq_false_iff_ne.mpr fun h => hname (ofString_injective h)]
  rw [named, Value.get_stored hgood, hlookup]

lemma getField_named {name : String} {value : Value} (h : fields.lookup name = some value) :
    getField name (Value.stored (named fields)) = .ok (Value.stored value) := by
  have hget := get_named hnames name
  rw [h, named, Value.stored_obj] at hget
  rw [named, Value.stored_obj, getField, hget]
  rfl

lemma getItem_named {name : String} {value : Value} (h : fields.lookup name = some value) :
    getItem name (Value.stored (named fields)) = .ok (Value.stored value) := by
  have hget := get_named hnames name
  rw [h, named, Value.stored_obj] at hget
  rw [named, Value.stored_obj, getItem, hget]
  rfl

end Fields

section Optional

lemma optional_ofOption {α β : Type} {read : Value → Except PyError β} {write : α → Value}
    {f : α → β} (hwrite : ∀ a, Value.stored (write a) ≠ .null)
    (hread : ∀ a, read (Value.stored (write a)) = .ok (f a)) (o : Option α) :
    optional read (Value.stored (ofOption write o)) = .ok (o.map f) := by
  cases o with
  | none => rfl
  | some a =>
    have hstep : optional read (Value.stored (write a)) =
        (read (Value.stored (write a))).map some := by
      cases h : Value.stored (write a) with
      | null => exact absurd h (hwrite a)
      | _ => rfl
    rw [ofOption, hstep, hread a]
    rfl

lemma optional_int (o : Option ℤ) :
    optional asInt (Value.stored (ofOption .int o)) = .ok o :=
  (@optional_ofOption _ _ asInt .int id (by simp [Value.stored]) (fun _ => rfl) o).trans
    (congrArg Except.ok (Option.map_id_apply))

lemma optional_str (o : Option Str) :
    optional asText (Value.stored (ofOption .str o)) = .ok (o.map merged) :=
  @optional_ofOption _ _ asText .str merged (by simp [Value.stored]) (fun _ => rfl) o

/-- An enumeration value is read from its code. -/
lemma readCode_code {α : Type} {ofCode : ℤ → Option α} {code : ℤ} {a : α}
    (h : ofCode code = some a) : readCode ofCode (Value.stored (.int code)) = .ok a := by
  simp only [readCode, Value.stored, asInt, bind, Except.bind, h]
  rfl

lemma optional_gatewayError (o : Option GatewayError) :
    optional (readCode GatewayError.ofCode)
      (Value.stored (ofOption (fun e => .int e.code) o)) = .ok o :=
  (@optional_ofOption _ _ _ (fun e => .int e.code) id (by simp [Value.stored])
    (fun e => readCode_code e.ofCode_code) o).trans (congrArg Except.ok Option.map_id_apply)

end Optional

lemma ServiceResult.fromDict_stored (item : ServiceResult) :
    fromDict (Value.stored (named item.fields)) = .ok (item.mapTexts merged) := by
  have hnames : (item.fields.map Prod.fst).Nodup := by simp [fields]
  have hitem {name : String} {value : Value} (h : item.fields.lookup name = some value) :=
    getItem_named hnames h
  have hfield {name : String} {value : Value} (h : item.fields.lookup name = some value) :=
    getField_named hnames h
  rw [fromDict, hitem (rfl : item.fields.lookup "service_id" = _),
    hitem (rfl : item.fields.lookup "decision" = _),
    hitem (rfl : item.fields.lookup "reason_code" = _),
    hfield (rfl : item.fields.lookup "reservation_id" = _),
    hfield (rfl : item.fields.lookup "retry_after_ns" = _),
    hfield (rfl : item.fields.lookup "estimated_start_ns" = _),
    hfield (rfl : item.fields.lookup "estimated_finish_ns" = _),
    hfield (rfl : item.fields.lookup "qpm_runtime_id" = _),
    hfield (rfl : item.fields.lookup "qpm_generation" = _),
    hfield (rfl : item.fields.lookup "diagnostic" = _)]
  simp only [bind, Except.bind, readCode_code item.decision.ofCode_code, optional_int,
    optional_str]
  rfl

lemma ReleaseResult.fromDict_stored (item : ReleaseResult) :
    fromDict (Value.stored (named item.fields)) = .ok (item.mapTexts merged) := by
  have hnames : (item.fields.map Prod.fst).Nodup := by simp [fields]
  rw [fromDict, getItem_named hnames (rfl : item.fields.lookup "service_id" = _),
    getItem_named hnames (rfl : item.fields.lookup "reservation_id" = _),
    getItem_named hnames (rfl : item.fields.lookup "state" = _),
    getField_named hnames (rfl : item.fields.lookup "gateway_error" = _),
    getField_named hnames (rfl : item.fields.lookup "diagnostic" = _)]
  simp only [bind, Except.bind, readCode_code item.state.ofCode_code, optional_gatewayError,
    optional_str]
  rfl

lemma Reservation.fromDict_stored (item : Reservation) :
    fromDict (Value.stored (named item.fields)) = .ok (item.mapTexts merged) := by
  have hnames : (item.fields.map Prod.fst).Nodup := by simp [fields]
  rw [fromDict, getItem_named hnames (rfl : item.fields.lookup "service_id" = _),
    getItem_named hnames (rfl : item.fields.lookup "reservation_id" = _)]
  rfl

/-- A list of results is read back when each of them is. -/
lemma mapM_stored {α : Type} {fields : α → List (String × Value)} {read : Value → Except PyError α}
    {change : α → α} (h : ∀ a, read (Value.stored (named (fields a))) = .ok (change a))
    (items : List α) : ∃ values,
      asList (Value.stored (.arr (items.map fun item => named (fields item)))) = .ok values ∧
      values.mapM read = .ok (items.map change) := by
  rw [Value.stored, Value.storedItems_eq, List.map_map]
  refine ⟨_, rfl, ?_⟩
  induction items with
  | nil => rfl
  | cons item items ih =>
    rw [List.map_cons, List.mapM_cons, Function.comp_apply, h, ih]
    rfl

lemma ReserveResponse.fromDict_stored (responseType : String) (response : ReserveResponse) :
    fromDict (Value.stored (named (response.fields responseType))) =
      .ok (response.mapTexts merged) := by
  have hnames : ((response.fields responseType).map Prod.fst).Nodup := by simp [fields]
  obtain ⟨values, hvalues, hread⟩ := mapM_stored ServiceResult.fromDict_stored response.results
  rw [fromDict, getItem_named hnames (rfl : (response.fields responseType).lookup "request_id" = _),
    getItem_named hnames (rfl : (response.fields responseType).lookup "decision" = _),
    getItem_named hnames (rfl : (response.fields responseType).lookup "results" = _)]
  simp only [bind, Except.bind, readCode_code response.decision.ofCode_code, hvalues, hread]
  rfl

/-- The class of a stored response. -/
lemma responseType_named {fields : List (String × Value)} (hnames : (fields.map Prod.fst).Nodup)
    {responseType : String}
    (h : fields.lookup "response_type" = some (.str (Str.ofString responseType))) :
    getField "response_type" (Value.stored (named fields)) =
      .ok (.str (Str.ofString responseType)) := by
  rw [getField_named hnames h, Value.stored, (merged_eq_iff _).mpr (unpaired_ofString responseType)]

lemma isText_ofString (text other : String) :
    isText text (.str (Str.ofString other)) = (other = text : Bool) := by
  rw [isText, decide_eq_decide]
  exact ofString_injective.eq_iff

/-- A response is read back with its texts merged. -/
lemma responseFromDict_stored (response : Response) :
    responseFromDict (Value.stored (responseToDict response)) = .ok (response.mapTexts merged) := by
  have hnames : (response.fields.map Prod.fst).Nodup := by
    cases response <;> simp [Response.fields, ReserveResponse.fields]
  rw [responseFromDict, responseToDict]
  cases response with
  | evaluate response =>
    rw [responseType_named hnames rfl]
    simp only [bind, Except.bind, isText_ofString]
    rw [Response.fields, ReserveResponse.fromDict_stored]
    rfl
  | reserve response =>
    rw [responseType_named hnames rfl]
    simp only [bind, Except.bind, isText_ofString]
    rw [Response.fields, ReserveResponse.fromDict_stored]
    rfl
  | release response =>
    obtain ⟨values, hvalues, hread⟩ := mapM_stored ReleaseResult.fromDict_stored response.results
    rw [responseType_named hnames rfl, ReleaseResponse.fromDict,
      getItem_named hnames (rfl : (Response.release response).fields.lookup "request_id" = _),
      getItem_named hnames (rfl : (Response.release response).fields.lookup "results" = _)]
    simp only [bind, Except.bind, isText_ofString, hvalues, hread]
    rfl
  | getReservations response =>
    obtain ⟨values, hvalues, hread⟩ :=
      mapM_stored Reservation.fromDict_stored response.reservations
    rw [responseType_named hnames rfl, GetReservationsResponse.fromDict,
      getItem_named hnames
        (rfl : (Response.getReservations response).fields.lookup "request_id" = _),
      getItem_named hnames
        (rfl : (Response.getReservations response).fields.lookup "canonical_job_id" = _),
      getItem_named hnames
        (rfl : (Response.getReservations response).fields.lookup "reservations" = _)]
    simp only [bind, Except.bind, isText_ofString, hvalues, hread]
    rfl
  | error response =>
    rw [responseType_named hnames rfl, ErrorResponse.fromDict,
      getItem_named hnames (rfl : (Response.error response).fields.lookup "error_code" = _),
      getField_named hnames (rfl : (Response.error response).fields.lookup "request_id" = _),
      getField_named hnames (rfl : (Response.error response).fields.lookup "diagnostic" = _)]
    simp only [bind, Except.bind, isText_ofString, readCode_code response.errorCode.ofCode_code,
      optional_int, optional_str]
    rfl

/-! ### What is written can be read -/

section Writable

/-- A number within 64 bits is not too long for Python. -/
lemma writable_int {z : ℤ} (h : z.natAbs < 2 ^ 64) : Value.Writable (.int z) :=
  lt_of_lt_of_le h (le_trans (by decide : 2 ^ 64 ≤ 10 ^ 20)
    (Nat.pow_le_pow_right (by decide) (by decide)))

lemma writable_optional_int {o : Option ℤ} (h : ∀ z ∈ o.toList, z.natAbs < 2 ^ 64) :
    (ofOption .int o).Writable := by
  cases o with
  | none => trivial
  | some z => exact writable_int (h z (by simp))

lemma writable_optional_str (o : Option Str) : (ofOption .str o).Writable := by
  cases o <;> trivial

lemma writable_named {fields : List (String × Value)} (h : ∀ field ∈ fields, field.2.Writable) :
    (named fields).Writable := by
  refine Value.writableMembers_iff.mpr fun member hmember => ?_
  obtain ⟨field, hfield, rfl⟩ := List.mem_map.mp hmember
  exact h field hfield

/-- A list of results can be written when each of them can. -/
lemma writable_results {α : Type} {fields : α → List (String × Value)} {items : List α}
    (h : ∀ item ∈ items, ∀ field ∈ fields item, field.2.Writable) :
    Value.Writable (.arr (items.map fun item => named (fields item))) := by
  refine Value.writableItems_iff.mpr fun value hvalue => ?_
  obtain ⟨item, hitem, rfl⟩ := List.mem_map.mp hvalue
  exact writable_named (h item hitem)

lemma decision_small (d : AdmissionDecision) : d.code.natAbs < 2 ^ 64 := by cases d <;> decide

lemma state_small (s : ReservationState) : s.code.natAbs < 2 ^ 64 := by cases s <;> decide

lemma gatewayError_small (e : GatewayError) : e.code.natAbs < 2 ^ 64 := by cases e <;> decide

lemma ServiceResult.writable {item : ServiceResult} (h : ∀ z ∈ item.integers, z.natAbs < 2 ^ 64) :
    ∀ field ∈ item.fields, field.2.Writable := by
  obtain ⟨hreason, hrest⟩ := List.forall_mem_cons.mp h
  have hoptional {o : Option ℤ} (ho : o ∈ [item.reservationId, item.retryAfterNs,
      item.estimatedStartNs, item.estimatedFinishNs, item.qpmGeneration]) :
      (ofOption .int o).Writable :=
    writable_optional_int fun z hz => hrest z (List.mem_flatMap.mpr ⟨o, ho, hz⟩)
  simp only [fields, List.forall_mem_cons]
  exact ⟨trivial, writable_int (decision_small _), writable_int hreason, hoptional (by simp),
    hoptional (by simp), hoptional (by simp), hoptional (by simp), writable_optional_str _,
    hoptional (by simp), writable_optional_str _, by simp⟩

lemma ReleaseResult.writable {item : ReleaseResult} (h : item.reservationId.natAbs < 2 ^ 64) :
    ∀ field ∈ item.fields, field.2.Writable := by
  have herror : (ofOption (fun e : GatewayError => .int e.code) item.gatewayError).Writable := by
    cases item.gatewayError with
    | none => trivial
    | some e => exact writable_int (gatewayError_small e)
  simp only [fields, List.forall_mem_cons]
  exact ⟨trivial, writable_int h, writable_int (state_small _), herror, writable_optional_str _,
    by simp⟩

lemma ReserveResponse.writable (responseType : String) {response : ReserveResponse}
    (h : ∀ z ∈ response.requestId :: response.results.flatMap (·.integers), z.natAbs < 2 ^ 64) :
    ∀ field ∈ response.fields responseType, field.2.Writable := by
  obtain ⟨hrequest, hresults⟩ := List.forall_mem_cons.mp h
  simp only [fields, List.forall_mem_cons]
  refine ⟨writable_int hrequest, writable_int (decision_small _),
    writable_results fun item hitem => ?_, trivial, by simp⟩
  exact item.writable fun z hz => hresults z (List.mem_flatMap.mpr ⟨item, hitem, hz⟩)

/-- A response with integers of 64 bits can be written. -/
lemma writable_responseToDict {response : Response}
    (h : ∀ z ∈ response.integers, z.natAbs < 2 ^ 64) : (responseToDict response).Writable := by
  refine writable_named ?_
  cases response with
  | evaluate response => exact response.toReserveResponse.writable _ h
  | reserve response => exact response.writable _ h
  | release response =>
    obtain ⟨hrequest, hresults⟩ := List.forall_mem_cons.mp h
    simp only [Response.fields, List.forall_mem_cons]
    refine ⟨writable_int hrequest, writable_results fun item hitem => ?_, trivial, by simp⟩
    exact item.writable (hresults _ (List.mem_map_of_mem hitem))
  | getReservations response =>
    obtain ⟨hrequest, hjob, hreservations⟩ := List.forall_mem_cons.mp h |>.imp_right
      List.forall_mem_cons.mp
    simp only [Response.fields, List.forall_mem_cons]
    refine ⟨writable_int hrequest, writable_int hjob, writable_results fun item hitem => ?_,
      trivial, by simp⟩
    have hreservation := hreservations _ (List.mem_map_of_mem hitem)
    simp only [Reservation.fields, List.forall_mem_cons]
    exact ⟨trivial, writable_int hreservation, by simp⟩
  | error response =>
    simp only [Response.fields, List.forall_mem_cons]
    exact ⟨writable_int (gatewayError_small _), writable_optional_int h, writable_optional_str _,
      trivial, by simp⟩

end Writable

/-! ### Replays -/

/-- A stored response is replayed as a response of its class, with the surrogate pairs of its texts
merged. -/
lemma replayed_eq {response : Response} (h : ∀ z ∈ response.integers, z.natAbs < 2 ^ 64) :
    replayed response = .ok (response.mapTexts merged) := by
  rw [replayed, Value.loads_dumps (writable_responseToDict h)]
  exact responseFromDict_stored response

/-- It is replayed unchanged exactly when none of its texts has a surrogate pair. -/
theorem replayed_unless_paired (response : Response)
    (h : ∀ z ∈ response.integers, z.natAbs < 2 ^ 64) :
    replayed response = .ok (response.mapTexts merged) ∧
      (replayed response = .ok response ↔ ∀ text ∈ response.texts, Unpaired text) := by
  refine ⟨replayed_eq h, ?_⟩
  rw [replayed_eq h, Except.ok.injEq, Response.mapTexts_eq_iff]
  exact forall₂_congr fun text _ => merged_eq_iff text

/-- A rejection, with a diagnostic that has a lone surrogate and a code point beyond the basic
plane. -/
def sampleRejection : Response :=
  .reserve ⟨2 ^ 64 - 1, .rejected, [{
    serviceId := Str.ofString "qpm-a"
    decision := .rejected
    reasonCode := 7
    diagnostic := some [0xDC00, 0x1F600, 0x22] }]⟩

theorem replayed_unless_paired_sample : replayed sampleRejection = .ok sampleRejection :=
  (replayed_unless_paired sampleRejection (by decide)).2.mpr (by decide)

/-- Two code points in a diagnostic come back as one. -/
theorem paired_text_changed : ∃ response : Response,
    (∀ z ∈ response.integers, 0 ≤ z ∧ z < 2 ^ 64) ∧ replayed response ≠ .ok response := by
  refine ⟨.error ⟨.internal, some 1, some [0xD83D, 0xDE00]⟩, by decide, fun hsame => ?_⟩
  rw [replayed_eq (by decide), Except.ok.injEq, Response.mapTexts_eq_iff] at hsame
  have hpair := hsame [0xD83D, 0xDE00] (by decide)
  exact absurd ((merged_eq_iff _).mp hpair) (by decide)

/-! ### Texts of characters -/

mutual

/-- A document of the journal as a value. -/
def ofJson : Json → Value
  | .null => .null
  | .int value => .int value
  | .str value => .str (Str.ofString value)
  | .arr items => .arr (ofItems items)
  | .obj fields => named (ofFields fields)

def ofItems : List Json → List Value
  | [] => []
  | item :: items => ofJson item :: ofItems items

def ofFields : List (String × Json) → List (String × Value)
  | [] => []
  | (name, value) :: fields => (name, ofJson value) :: ofFields fields

end

def ofServiceResult (item : QfwSlurm.ServiceResult) : ServiceResult where
  serviceId := Str.ofString item.serviceId
  decision := item.decision
  reasonCode := item.reasonCode
  reservationId := item.reservationId
  retryAfterNs := item.retryAfterNs
  estimatedStartNs := item.estimatedStartNs
  estimatedFinishNs := item.estimatedFinishNs
  qpmRuntimeId := item.qpmRuntimeId.map Str.ofString
  qpmGeneration := item.qpmGeneration
  diagnostic := item.diagnostic.map Str.ofString

def ofReserveResponse (response : QfwSlurm.ReserveResponse) : ReserveResponse :=
  ⟨response.requestId, response.decision, response.results.map ofServiceResult⟩

def ofReleaseResult (item : QfwSlurm.ReleaseResult) : ReleaseResult :=
  ⟨Str.ofString item.serviceId, item.reservationId, item.state, item.gatewayError,
    item.diagnostic.map Str.ofString⟩

def ofReservation (item : QfwSlurm.Reservation) : Reservation :=
  ⟨Str.ofString item.serviceId, item.reservationId⟩

/-- A response whose texts are texts of characters. -/
def ofResponse : QfwSlurm.Response → Response
  | .evaluate response => .evaluate ⟨ofReserveResponse response.toReserveResponse⟩
  | .reserve response => .reserve (ofReserveResponse response)
  | .release response => .release ⟨response.requestId, response.results.map ofReleaseResult⟩
  | .getReservations response => .getReservations
    ⟨response.requestId, response.canonicalJobId, response.reservations.map ofReservation⟩
  | .error response =>
    .error ⟨response.errorCode, response.requestId, response.diagnostic.map Str.ofString⟩

section Characters

lemma ofJson_ofOption {α : Type} (write : α → Json) (o : Option α) :
    ofJson (Json.ofOption write o) = ofOption (fun a => ofJson (write a)) o := by
  cases o <;> rfl

lemma ofOption_ofString (o : Option String) :
    ofOption (fun a => .str (Str.ofString a)) o = ofOption .str (o.map Str.ofString) := by
  cases o <;> rfl

lemma ofItems_map {α β : Type} {write : α → Json} {f : α → β} {fields : β → List (String × Value)}
    (h : ∀ a, ofJson (write a) = named (fields (f a))) (items : List α) :
    ofItems (items.map write) = (items.map f).map fun item => named (fields item) := by
  induction items with
  | nil => rfl
  | cons item items ih => rw [List.map_cons, ofItems, h, ih, List.map_cons, List.map_cons]

lemma ofJson_serviceResult (item : QfwSlurm.ServiceResult) :
    ofJson item.toDict = named (ofServiceResult item).fields := by
  simp only [QfwSlurm.ServiceResult.toDict, ofJson, ofFields, ofJson_ofOption,
    ofOption_ofString]
  rfl

lemma ofJson_releaseResult (item : QfwSlurm.ReleaseResult) :
    ofJson item.toDict = named (ofReleaseResult item).fields := by
  simp only [QfwSlurm.ReleaseResult.toDict, ofJson, ofFields, ofJson_ofOption,
    ofOption_ofString]
  rfl

lemma ofJson_reserveResponse (responseType : String) (response : QfwSlurm.ReserveResponse) :
    ofJson (response.toDict responseType) =
      named ((ofReserveResponse response).fields responseType) := by
  rw [QfwSlurm.ReserveResponse.toDict, ofJson]
  simp only [ofFields, ofJson, ofItems_map ofJson_serviceResult]
  rfl

/-- The documents of `responseToDict` in `StoredResponse` are those that are written here. -/
theorem ofJson_responseToDict (response : QfwSlurm.Response) :
    ofJson (QfwSlurm.responseToDict response) = responseToDict (ofResponse response) := by
  cases response with
  | evaluate response => exact ofJson_reserveResponse _ response.toReserveResponse
  | reserve response => exact ofJson_reserveResponse _ response
  | release response =>
    rw [QfwSlurm.responseToDict, ofJson]
    simp only [ofFields, ofJson, ofItems_map ofJson_releaseResult]
    rfl
  | getReservations response =>
    have hitem (item : QfwSlurm.Reservation) :
        ofJson item.toDict = named (ofReservation item).fields := rfl
    rw [QfwSlurm.responseToDict, ofJson]
    simp only [ofFields, ofJson, ofItems_map hitem]
    rfl
  | error response =>
    simp only [QfwSlurm.responseToDict, ofJson, ofFields, ofJson_ofOption, ofOption_ofString]
    rfl

/-- Texts of characters have no surrogate pairs. -/
lemma unpaired_texts (response : QfwSlurm.Response) :
    ∀ text ∈ (ofResponse response).texts, Unpaired text := by
  have hoption (o : Option String) : ∀ text ∈ (o.map Str.ofString).toList, Unpaired text := by
    cases o with
    | none => simp
    | some text => simp [unpaired_ofString text]
  have hservice (items : List QfwSlurm.ServiceResult) :
      ∀ text ∈ (items.map ofServiceResult).flatMap (·.texts), Unpaired text := by
    intro text htext
    obtain ⟨item, hitem, htext⟩ := List.mem_flatMap.mp htext
    obtain ⟨item, -, rfl⟩ := List.mem_map.mp hitem
    rcases List.mem_cons.mp htext with rfl | htext
    · exact unpaired_ofString _
    · exact (List.mem_append.mp htext).elim (hoption _ text) (hoption _ text)
  cases response with
  | evaluate response => exact hservice response.results
  | reserve response => exact hservice response.results
  | release response =>
    intro text htext
    obtain ⟨item, hitem, htext⟩ := List.mem_flatMap.mp htext
    obtain ⟨item, -, rfl⟩ := List.mem_map.mp hitem
    rcases List.mem_cons.mp htext with rfl | htext
    · exact unpaired_ofString _
    · exact hoption _ text htext
  | getReservations response =>
    intro text htext
    obtain ⟨item, hitem, htext⟩ := List.mem_flatMap.mp htext
    obtain ⟨item, -, rfl⟩ := List.mem_map.mp hitem
    rw [List.mem_singleton.mp htext]
    exact unpaired_ofString _
  | error response => exact hoption response.diagnostic

/-- A response of the gateway, whose texts are Unicode, is replayed unchanged. -/
theorem replayed_ofResponse {response : QfwSlurm.Response}
    (h : ∀ z ∈ (ofResponse response).integers, z.natAbs < 2 ^ 64) :
    replayed (ofResponse response) = .ok (ofResponse response) := by
  rw [replayed_eq h, Except.ok.injEq, Response.mapTexts_eq_iff]
  exact fun text htext => (merged_eq_iff text).mpr (unpaired_texts response text htext)

end Characters

end QfwSlurm.Stored
