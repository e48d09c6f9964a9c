import QfwSlurm.Gateway.Effects
import QfwSlurm.Python.Text
import Mathlib.Data.Rat.Defs

/-!
# The QFw adapter

`QFwAdapter` of `gateway/qfw_slurm_gateway/defw_client.py` asks a QPM to reserve or to evaluate and
turns the reply, a mapping of Python values, into a `ServiceResult`.  A reply that it cannot
normalize may still name a reservation that the QPM made; the adapter releases it before it raises.

It does so when `_normalize_admission` raises `QFwAdapterError`.  A time value that is an infinity,
and a text that contains an integer too long to print, make it raise other exceptions, and there the
reservation is lost (`keepsReservation_iff`).
-/

namespace QfwSlurm

open Interaction

/-! ### Python values -/

/-- A `float`; a finite one has an exact value and the text that `str` makes of it. -/
inductive PyFloat where
  | finite (value : ℚ) (text : String)
  | infinity (negative : Bool)
  | nan

/-- The values in the reply of a QPM. -/
inductive PyValue where
  | none
  | bool (value : Bool)
  | int (value : ℤ)
  | float (value : PyFloat)
  | str (value : String)
  | list (items : List PyValue)

/-- What a QPM returns: a mapping, or anything else. -/
inductive PyReply where
  | mapping (fields : List (String × PyValue))
  | other

/-- The exceptions of `int`. -/
inductive ConversionError where
  | typeError
  | valueError
  | overflowError
  deriving DecidableEq

/-- A raised `QFwAdapterError`. -/
def adapterError (message : String) : PyError := ⟨.qfwAdapterError, message⟩

/-- `OverflowError` of `int`. -/
def overflowError : PyError := ⟨.other, "cannot convert float infinity to integer"⟩

/-- `ValueError` of `str` on an integer that is too long. -/
def digitsError : PyError :=
  ⟨.other, "Exceeds the limit (4300 digits) for integer string conversion"⟩

def PyFloat.text : PyFloat → String
  | finite _ text => text
  | infinity negative => if negative then "-inf" else "inf"
  | nan => "nan"

namespace PyValue

section Integers

variable (decimal : Char → Option ℕ)

/-- `int(value)` -/
def toInt : PyValue → Except ConversionError ℤ
  | none | list _ => .error .typeError
  | bool value => .ok (if value then 1 else 0)
  | int value => .ok value
  | float (.finite value _) => .ok (value.num.tdiv value.den)
  | float (.infinity _) => .error .overflowError
  | float .nan => .error .valueError
  | str value =>
    match Python.intOfText decimal value.toList with
    | some n => .ok n
    | .none => .error .valueError

end Integers

/-- `value in (0, "0")` -/
def isZero : PyValue → Bool
  | bool value => !value
  | int value => value = 0
  | float (.finite value _) => value = 0
  | str value => value = "0"
  | _ => false

/-- `bool(value)` -/
def truthy : PyValue → Bool
  | none => false
  | bool value => value
  | int value => value ≠ 0
  | float (.finite value _) => value ≠ 0
  | float _ => true
  | str value => value ≠ ""
  | list items => !items.isEmpty

/-- `str` of an integer. -/
def intText (value : ℤ) : Except PyError String :=
  if 10 ^ Python.intMaxStrDigits ≤ value.natAbs then .error digitsError else .ok (toString value)

mutual

/-- `repr(value)` -/
def repr : PyValue → Except PyError String
  | none => .ok "None"
  | bool value => .ok (if value then "True" else "False")
  | int value => intText value
  | float value => .ok value.text
  | str value => .ok (reprText value)
  | list items => do return "[" ++ String.intercalate ", " (← reprItems items) ++ "]"

/-- `repr` of the items of a list, in order. -/
def reprItems : List PyValue → Except PyError (List String)
  | [] => .ok []
  | item :: items => do
    let first ← item.repr
    let rest ← reprItems items
    return first :: rest

end

/-- `str(value)` -/
def text : PyValue → Except PyError String
  | str value => .ok value
  | value => value.repr

end PyValue

/-- `raw.get(key, default)` -/
def getField (fields : List (String × PyValue)) (key : String) (default : PyValue := .none) :
    PyValue :=
  (fields.lookup key).getD default

/-! ### Normalizing a reply -/

section Normalizing

variable (decimal : Char → Option ℕ)

/-- The dictionary `decisions`. -/
def decisionOfStatus (status : String) : Option AdmissionDecision :=
  if status = "accepted" then some .accepted
  else if status = "delayed" then some .delayed
  else if status = "rejected" then some .rejected
  else none

/-- `int(value)` with `TypeError` and `ValueError` turned into `QFwAdapterError`. -/
def checkedInt (value : PyValue) (message : String) : Except PyError ℤ :=
  match value.toInt decimal with
  | .ok n => .ok n
  | .error .overflowError => .error overflowError
  | .error _ => .error (adapterError message)

/-- `_optional_int` -/
def optionalInt (value : PyValue) : Except PyError (Option ℤ) :=
  match value with
  | .none => .ok none
  | .bool _ => .error (adapterError "QPM reserve returned an invalid time value")
  | value => do
    let selected ← checkedInt decimal value "QPM reserve returned an invalid time value"
    if 0 ≤ selected ∧ selected < 2 ^ 64 then return some selected
    else throw (adapterError "QPM reserve returned an invalid time value")

/-- The reservation id of a reply, `none` for a missing one and for zero. -/
def normalizedId (value : PyValue) : Except PyError (Option ℤ) :=
  if value.isZero then .ok none
  else
    match value with
    | .none => .ok none
    | value => some <$> checkedInt decimal value "QPM admission returned an invalid reservation ID"

/-- The reason code of a reply. -/
def reasonCode : PyValue → Except PyError ℤ
  | .int value =>
    if 0 ≤ value ∧ value < 2 ^ 32 then .ok value
    else .error (adapterError "QPM admission returned an invalid reason code")
  | _ => .error (adapterError "QPM admission returned an invalid reason code")

/-- `raw.get("message") or raw.get("reason")` -/
def diagnosticValue (fields : List (String × PyValue)) : PyValue :=
  if (getField fields "message").truthy then getField fields "message"
  else getField fields "reason"

/-- `bounded_diagnostic(diagnostic) if diagnostic else None` -/
def diagnosticText (value : PyValue) : Except PyError (Option String) :=
  if value.truthy then do return some (boundedDiagnostic (← value.text)) else .ok none

/-- The end of `_normalize_admission`: the result with its time values and diagnostic. -/
def admissionResult (binding : QPMBinding) (fields : List (String × PyValue))
    (decision : AdmissionDecision) (reason : ℤ) (reservationId : Option ℤ) :
    Except PyError ServiceResult := do
  let retryAfterNs ← optionalInt decimal (getField fields "retry_after_ns")
  let estimatedStartNs ← optionalInt decimal (getField fields "estimated_start_ns")
  let estimatedFinishNs ← optionalInt decimal (getField fields "estimated_finish_ns")
  let diagnostic ← diagnosticText (diagnosticValue fields)
  return {
    serviceId := binding.serviceId
    decision := decision
    reasonCode := reason
    reservationId := reservationId
    retryAfterNs := retryAfterNs
    estimatedStartNs := estimatedStartNs
    estimatedFinishNs := estimatedFinishNs
    qpmRuntimeId := some binding.runtimeId
    qpmGeneration := some binding.generation
    diagnostic := diagnostic }

/-- `QFwAdapter._normalize_admission` on a mapping. -/
def normalizeFields (binding : QPMBinding) (fields : List (String × PyValue)) (reserve : Bool) :
    Except PyError ServiceResult := do
  let status := lower (← (getField fields "status" (.str "")).text)
  match decisionOfStatus status with
  | none => throw (adapterError s!"QPM admission returned invalid status {reprText status}")
  | some decision =>
    let reservationId ← normalizedId decimal (getField fields "reservation_id")
    let reason ← reasonCode (getField fields "reason_code" (.int 0))
    if reserve ∧ decision = .accepted ∧ ¬ ∃ id ∈ reservationId, 0 < id ∧ id < 2 ^ 64 then
      throw (adapterError "accepted QPM reservation lacks a valid reservation ID")
    if ¬ reserve ∧ reservationId ≠ none then
      throw (adapterError "QPM evaluation returned a reservation ID")
    admissionResult decimal binding fields decision reason
      (if reserve ∧ decision = .accepted then reservationId else none)

/-- `QFwAdapter._normalize_admission` -/
def normalizeAdmission (binding : QPMBinding) (raw : PyReply) (reserve : Bool) :
    Except PyError ServiceResult :=
  match raw with
  | .other => .error (adapterError "QPM admission returned a non-mapping")
  | .mapping fields => normalizeFields decimal binding fields reserve

/-- `_returned_reservation_id` -/
def returnedReservationId (raw : PyReply) : Except PyError (Option ℤ) :=
  match raw with
  | .other => .ok none
  | .mapping fields =>
    match (getField fields "reservation_id").toInt decimal with
    | .error .overflowError => .error overflowError
    | .error _ => .ok none
    | .ok id => .ok (if 0 < id ∧ id < 2 ^ 64 then some id else none)

/-- `_accepted_reservation_id` -/
def acceptedReservationId (raw : PyReply) : Except PyError (Option ℤ) :=
  match raw with
  | .other => .ok none
  | .mapping fields => do
    if lower (← (getField fields "status" (.str "")).text) = "accepted" then
      returnedReservationId decimal raw
    else return none

end Normalizing

/-! ### The calls of the adapter -/

/-- The mapping that a QPM is asked with. -/
structure AdmissionPayload where
  requestId : ℤ
  user : String
  uid : ℤ
  gid : ℤ
  clusterName : String
  jobId : String
  allocationId : String
  scopeId : String
  account : Option String
  qos : Option String
  priority : ℤ
  workloadKind : WorkloadKind
  walltimeNs : ℤ
  ttlNs : ℤ
  circuitCount : ℤ
  qubitCount : ℤ
  depth : ℤ
  shots : ℤ
  oneQGateCount : ℤ
  twoQGateCount : ℤ
  measurementCount : ℤ
  deriving DecidableEq

/-- `QFwAdapter._admission_payload`; the constants of the mapping are left out. -/
def admissionPayload (request : ReserveRequest) (job : VerifiedJob) :
    Except PyError AdmissionPayload :=
  match request.workload with
  | none => .error (adapterError "admission request lacks a workload")
  | some workload =>
    let scope := String.intercalate ":"
      ([job.account, job.qos].filterMap fun value => value.filter (· ≠ ""))
    .ok {
      requestId := request.requestId
      user := job.username
      uid := job.uid
      gid := job.gid
      clusterName := request.clusterName
      jobId := toString request.canonicalJobId
      allocationId := s!"{request.clusterName}:{request.canonicalJobId}"
      scopeId := if scope = "" then request.clusterName else scope
      account := job.account
      qos := job.qos
      priority := job.priority.getD 0
      workloadKind := workload.kind
      walltimeNs := workload.walltimeNs
      ttlNs := workload.walltimeNs
      circuitCount := workload.circuitCount
      qubitCount := workload.maxQubits
      depth := workload.maxDepth
      shots := workload.maxShots
      oneQGateCount := workload.maxOneQGates.getD 0
      twoQGateCount := workload.maxTwoQGates.getD 0
      measurementCount := workload.maxMeasurements.getD 0 }

/-- The two requests for an admission. -/
inductive AdmissionOperation where
  | reserve
  | evaluate
  deriving DecidableEq

/-- The name of the method, as the messages of the adapter show it. -/
def AdmissionOperation.text : AdmissionOperation → String
  | reserve => "reserve"
  | evaluate => "evaluate"

/-- A call of a method of `binding.admission`. -/
inductive AdmissionCall where
  | requestAdmission (operation : AdmissionOperation) (binding : QPMBinding)
    (payload : AdmissionPayload)
  | release (binding : QPMBinding) (reservationId reason : ℤ)

/-- The QPM returns, or the call raises an exception with this text. -/
@[reducible] def AdmissionCall.Answer (_ : AdmissionCall) : Type := Except String PyReply

/-- The answers of the QPM: any, chosen anew for every call. -/
abbrev QpmOracle := ℕ → AdmissionCall → Except String PyReply

/-- A procedure of the adapter. -/
abbrev Adapting (α : Type) := Procedure AdmissionCall AdmissionCall.Answer PyError α

/-- The world of an adapter call: the adapter keeps no state, so the trace is all there is. -/
abbrev AdapterWorld := World Unit AdmissionCall AdmissionCall.Answer

/-- The QPM as the environment of the adapter. -/
def qpmEnvironment (oracle : QpmOracle) : Environment Unit AdmissionCall AdmissionCall.Answer :=
  fun call w => (oracle w.trace.length call, ())

/-- A computation of the adapter without calls. -/
def settle {α : Type} (result : Except PyError α) : Adapting α := ExceptT.mk (pure result)

/-- Call the QPM; an exception is raised again with a message. -/
def callQpm (call : AdmissionCall) (message : String) : Adapting PyReply := do
  match ← ExceptT.lift (Program.question (A := AdmissionCall.Answer) call) with
  | .ok reply => return reply
  | .error error => throw (adapterError s!"{message}: {error}")

/-- `QFwAdapter.release` -/
def adapterReleaseCall (binding : QPMBinding) (reservationId reason : ℤ) :
    Adapting (List (String × PyValue)) := do
  match ← callQpm (.release binding reservationId reason)
      s!"QPM {reprText binding.serviceId} release failed" with
  | .mapping fields => return fields
  | .other => throw (adapterError "QPM release returned a non-mapping")

section Admitting

variable (decimal : Char → Option ℕ)

/-- What is raised when the cleanup fails: a `QFwAdapterError` is put after the first error, and any
other exception replaces it. -/
def cleanupFailure (error : PyError) (label : String) (cleanupError : PyError) : PyError :=
  if cleanupError.errorClass = .qfwAdapterError then
    adapterError s!"{error.message}; {label} cleanup failed: {cleanupError.message}"
  else cleanupError

/-- The cleanup after a reply that could not be normalized. -/
def cleanUp (binding : QPMBinding) (error : PyError) (label : String) :
    Option ℤ → Adapting ServiceResult
  | none => throw error
  | some reservationId => do
    tryCatch (adapterReleaseCall binding reservationId 1 >>= fun _ => pure ()) fun cleanupError =>
      throw (cleanupFailure error label cleanupError)
    throw error

/-- The reservation id that is released after a failed normalization. -/
def AdmissionOperation.leftoverId (raw : PyReply) :
    AdmissionOperation → Except PyError (Option ℤ)
  | reserve => acceptedReservationId decimal raw
  | evaluate => returnedReservationId decimal raw

/-- How a failed cleanup is described. -/
def AdmissionOperation.cleanupLabel : AdmissionOperation → String
  | reserve => "malformed acceptance"
  | evaluate => "evaluation"

/-- What `reserve` and `evaluate` do with a reply. -/
def admitted (operation : AdmissionOperation) (binding : QPMBinding) (raw : PyReply) :
    Adapting ServiceResult :=
  match normalizeAdmission decimal binding raw (operation = .reserve) with
  | .ok result => return result
  | .error error =>
    if error.errorClass = .qfwAdapterError then do
      cleanUp binding error operation.cleanupLabel (← settle (operation.leftoverId decimal raw))
    else throw error

/-- `QFwAdapter.reserve` and `QFwAdapter.evaluate`. -/
def callAdmission (operation : AdmissionOperation) (binding : QPMBinding) (request : ReserveRequest)
    (job : VerifiedJob) : Adapting ServiceResult := do
  let payload ← settle (admissionPayload request job)
  let raw ← callQpm (.requestAdmission operation binding payload)
    s!"QPM {reprText binding.serviceId} {operation.text} failed"
  admitted decimal operation binding raw

end Admitting

/-! ### Which replies can be read -/

mutual

/-- The integers that `repr` prints. -/
def PyValue.integers : PyValue → List ℤ
  | .int value => [value]
  | .list items => integersOf items
  | _ => []

/-- The integers in a list of values. -/
def integersOf : List PyValue → List ℤ
  | [] => []
  | item :: items => item.integers ++ integersOf items

end

/-- Every integer in the value is short enough to be printed. -/
def PyValue.Printable (value : PyValue) : Prop :=
  ∀ n ∈ value.integers, n.natAbs < 10 ^ Python.intMaxStrDigits

instance (value : PyValue) : Decidable value.Printable := by
  unfold PyValue.Printable
  infer_instance

/-- The value is a float that is an infinity. -/
def PyValue.isInfinite : PyValue → Bool
  | .float (.infinity _) => true
  | _ => false

mutual

/-- `repr` raises exactly on the values with an integer that is too long. -/
lemma PyValue.repr_cases : ∀ value : PyValue,
    ((∀ n ∈ value.integers, n.natAbs < 10 ^ Python.intMaxStrDigits) ∧
      ∃ text, value.repr = .ok text) ∨
    ((∃ n ∈ value.integers, 10 ^ Python.intMaxStrDigits ≤ n.natAbs) ∧
      value.repr = .error digitsError)
  | .none | .bool _ | .float _ | .str _ => .inl ⟨fun _ h => (nomatch h), _, rfl⟩
  | .int value => by
    rw [PyValue.repr, PyValue.integers, PyValue.intText]
    by_cases hlong : 10 ^ Python.intMaxStrDigits ≤ value.natAbs
    · exact .inr ⟨⟨value, List.mem_singleton_self _, hlong⟩, if_pos hlong⟩
    · exact .inl ⟨by simpa using hlong, _, if_neg hlong⟩
  | .list items => by
    rw [PyValue.repr, PyValue.integers]
    rcases reprItems_cases items with ⟨hshort, texts, htexts⟩ | ⟨hlong, herror⟩
    · exact .inl ⟨hshort, _, by rw [htexts]; rfl⟩
    · exact .inr ⟨hlong, by rw [herror]; rfl⟩

/-- The same, of the items of a list. -/
lemma reprItems_cases : ∀ items : List PyValue,
    ((∀ n ∈ integersOf items, n.natAbs < 10 ^ Python.intMaxStrDigits) ∧
      ∃ texts, PyValue.reprItems items = .ok texts) ∨
    ((∃ n ∈ integersOf items, 10 ^ Python.intMaxStrDigits ≤ n.natAbs) ∧
      PyValue.reprItems items = .error digitsError)
  | [] => .inl ⟨fun _ h => (nomatch h), [], rfl⟩
  | item :: items => by
    rw [integersOf, PyValue.reprItems]
    rcases item.repr_cases with ⟨hshort, text, htext⟩ | ⟨⟨n, hn, hlong⟩, herror⟩
    · rcases reprItems_cases items with ⟨hrest, texts, htexts⟩ | ⟨⟨n, hn, hlong⟩, herror⟩
      · refine .inl ⟨fun n hn => ?_, text :: texts, by rw [htext, htexts]; rfl⟩
        exact (List.mem_append.mp hn).elim (hshort n) (hrest n)
      · exact .inr ⟨⟨n, List.mem_append_right _ hn, hlong⟩, by rw [htext, herror]; rfl⟩
    · exact .inr ⟨⟨n, List.mem_append_left _ hn, hlong⟩, by rw [herror]; rfl⟩

end

/-- `str` raises exactly on the values with an integer that is too long. -/
lemma PyValue.text_cases (value : PyValue) :
    (value.Printable ∧ ∃ text, value.text = .ok text) ∨
      (¬ value.Printable ∧ value.text = .error digitsError) := by
  have hrepr := value.repr_cases
  cases value with
  | str value => exact .inl ⟨fun _ h => (nomatch h), value, rfl⟩
  | _ =>
    refine hrepr.imp id ?_
    rintro ⟨⟨n, hn, hlong⟩, herror⟩
    exact ⟨fun h => absurd (h n hn) (Nat.not_lt.mpr hlong), herror⟩

section Readable

variable (decimal : Char → Option ℕ)

/-- `_optional_int` accepts the value. -/
def readableTime (value : PyValue) : Bool := (optionalInt decimal value).isOk

/-- The time values of a reply, in the order in which they are read. -/
def timeValues (fields : List (String × PyValue)) : List PyValue :=
  [getField fields "retry_after_ns", getField fields "estimated_start_ns",
    getField fields "estimated_finish_ns"]

/-- Normalizing the reply raises `QFwAdapterError` or nothing.  A reply to `evaluate` must have a
status that can be printed.  A reply to `reserve` is refused in time when its reason code is; else
the first time value that cannot be read must not be an infinity, and where all can be read the
diagnostic must be printable. -/
def Foreseen (fields : List (String × PyValue)) : AdmissionOperation → Prop
  | .evaluate => (getField fields "status" (.str "")).Printable
  | .reserve => (reasonCode (getField fields "reason_code" (.int 0))).isOk →
    match (timeValues fields).find? fun value => !readableTime decimal value with
    | some value => value.isInfinite = false
    | none => (diagnosticValue fields).Printable

/-- How `_optional_int` ends. -/
lemma optionalInt_cases (value : PyValue) :
    (∃ n, optionalInt decimal value = .ok n) ∨
    (∃ message, optionalInt decimal value = .error (adapterError message) ∧
      value.isInfinite = false) ∨
    (optionalInt decimal value = .error overflowError ∧ value.isInfinite = true) := by
  have hrange (n : ℤ) : (∃ m, (if 0 ≤ n ∧ n < 2 ^ 64 then (pure (some n) : Except PyError (Option ℤ))
        else throw (adapterError "QPM reserve returned an invalid time value")) = .ok m) ∨
      ∃ message, (if 0 ≤ n ∧ n < 2 ^ 64 then (pure (some n) : Except PyError (Option ℤ))
        else throw (adapterError "QPM reserve returned an invalid time value")) =
          .error (adapterError message) := by
    by_cases h : 0 ≤ n ∧ n < 2 ^ 64
    · exact .inl ⟨some n, if_pos h⟩
    · exact .inr ⟨_, if_neg h⟩
  cases value with
  | none => exact .inl ⟨none, rfl⟩
  | bool value => exact .inr (.inl ⟨_, rfl, rfl⟩)
  | list items => exact .inr (.inl ⟨_, rfl, rfl⟩)
  | int value =>
    rcases hrange value with h | ⟨message, h⟩
    · exact .inl h
    · exact .inr (.inl ⟨message, h, rfl⟩)
  | float value =>
    cases value with
    | infinity negative => exact .inr (.inr ⟨rfl, rfl⟩)
    | nan => exact .inr (.inl ⟨_, rfl, rfl⟩)
    | finite value text =>
      rcases hrange (value.num.tdiv value.den) with h | ⟨message, h⟩
      · exact .inl h
      · exact .inr (.inl ⟨message, h, rfl⟩)
  | str value =>
    have hread : optionalInt decimal (.str value) = (do
        let n ← checkedInt decimal (.str value) "QPM reserve returned an invalid time value"
        if 0 ≤ n ∧ n < 2 ^ 64 then return some n
        else throw (adapterError "QPM reserve returned an invalid time value")) := rfl
    cases hvalue : Python.intOfText decimal value.toList with
    | none =>
      have hchecked : checkedInt decimal (.str value) "QPM reserve returned an invalid time value" =
          .error (adapterError "QPM reserve returned an invalid time value") := by
        simp [checkedInt, PyValue.toInt, hvalue]
      exact .inr (.inl ⟨_, by rw [hread, hchecked]; rfl, rfl⟩)
    | some n =>
      have hchecked : checkedInt decimal (.str value) "QPM reserve returned an invalid time value" =
          .ok n := by
        simp [checkedInt, PyValue.toInt, hvalue]
      rw [hread, hchecked]
      exact (hrange n).imp id fun ⟨message, h⟩ => .inl ⟨message, h, rfl⟩

/-- A value that is zero converts to zero. -/
lemma PyValue.toInt_of_isZero {value : PyValue} (hzero : value.isZero = true) {n : ℤ}
    (hn : value.toInt decimal = .ok n) : n = 0 := by
  cases value with
  | none => cases hzero
  | list items => cases hzero
  | bool value =>
    have hvalue : value = false := by simpa [PyValue.isZero] using hzero
    subst hvalue
    exact (Except.ok.inj hn).symm
  | int value =>
    have hvalue : value = 0 := by simpa [PyValue.isZero] using hzero
    subst hvalue
    exact (Except.ok.inj hn).symm
  | float value =>
    cases value with
    | finite value text =>
      have hvalue : value = 0 := by simpa [PyValue.isZero] using hzero
      subst hvalue
      exact (Except.ok.inj hn).symm
    | _ => cases hzero
  | str value =>
    have hvalue : value = "0" := by simpa [PyValue.isZero] using hzero
    subst hvalue
    have htext : Python.intOfText decimal "0".toList = some 0 := Python.intOfText_zero decimal
    simp only [PyValue.toInt, htext] at hn
    exact (Except.ok.inj hn).symm

/-- A value that converts to a number other than zero is the reservation id. -/
lemma normalizedId_of_toInt {value : PyValue} {n : ℤ} (hn : value.toInt decimal = .ok n)
    (hne : n ≠ 0) : normalizedId decimal value = .ok (some n) := by
  have hzero : value.isZero = false :=
    Bool.eq_false_iff.mpr fun hzero => hne (PyValue.toInt_of_isZero decimal hzero hn)
  have hchecked : checkedInt decimal value "QPM admission returned an invalid reservation ID" =
      .ok n := by simp only [checkedInt, hn]
  cases value with
  | none => cases hn
  | _ => exact (if_neg (by simp [hzero])).trans (congrArg (some <$> ·) hchecked)

/-- The reason code is accepted or refused. -/
lemma reasonCode_cases (value : PyValue) : (∃ n, reasonCode value = .ok n) ∨
    reasonCode value = .error (adapterError "QPM admission returned an invalid reason code") := by
  cases value with
  | int value =>
    by_cases h : 0 ≤ value ∧ value < 2 ^ 32
    · exact .inl ⟨value, if_pos h⟩
    · exact .inr (if_neg h)
  | _ => exact .inr rfl

/-- The diagnostic is read exactly when it can be printed. -/
lemma diagnosticText_cases (value : PyValue) :
    (value.Printable ∧ ∃ text, diagnosticText value = .ok text) ∨
      (¬ value.Printable ∧ diagnosticText value = .error digitsError) := by
  have hpos : 0 < 10 ^ Python.intMaxStrDigits := Nat.pow_pos (by decide)
  by_cases htruthy : value.truthy = true
  · rcases value.text_cases with ⟨hprintable, text, htext⟩ | ⟨hprintable, htext⟩
    · exact .inl ⟨hprintable, _, by rw [diagnosticText, if_pos htruthy, htext]; rfl⟩
    · exact .inr ⟨hprintable, by rw [diagnosticText, if_pos htruthy, htext]; rfl⟩
  · refine .inl ⟨fun n hn => ?_, none, if_neg htruthy⟩
    cases value with
    | int value =>
      have hvalue : value = 0 := by simpa [PyValue.truthy] using htruthy
      rw [List.mem_singleton.mp hn, hvalue]
      exact hpos
    | list items =>
      have hitems : items = [] := by simpa [PyValue.truthy] using htruthy
      subst hitems
      cases hn
    | _ => cases hn

variable {decimal} {binding : QPMBinding} {fields : List (String × PyValue)} {id : ℤ}

/-- How the end of the normalization goes: the first value that cannot be read decides. -/
lemma admissionResult_cases (decision : AdmissionDecision) (reason : ℤ)
    (reservationId : Option ℤ) :
    (match (timeValues fields).find? fun value => !readableTime decimal value with
      | some value => value.isInfinite = false
      | none => (diagnosticValue fields).Printable) ∧
      ((∃ result, admissionResult decimal binding fields decision reason reservationId = .ok result ∧
        result.decision = decision ∧ result.reservationId = reservationId) ∨
      ∃ message, admissionResult decimal binding fields decision reason reservationId =
        .error (adapterError message)) ∨
    (¬ match (timeValues fields).find? fun value => !readableTime decimal value with
      | some value => value.isInfinite = false
      | none => (diagnosticValue fields).Printable) ∧
      ∃ error, error.errorClass = .other ∧
        admissionResult decimal binding fields decision reason reservationId = .error error := by
  have hreads {value : PyValue} {n : Option ℤ} (h : optionalInt decimal value = .ok n) :
      readableTime decimal value = true := by
    rw [readableTime, h]
    rfl
  have hfails {value : PyValue} {error : PyError} (h : optionalInt decimal value = .error error) :
      readableTime decimal value = false := by
    rw [readableTime, h]
    rfl
  unfold admissionResult timeValues
  rcases optionalInt_cases decimal (getField fields "retry_after_ns") with
    ⟨retry, h₁⟩ | ⟨message, h₁, hfinite⟩ | ⟨h₁, hinfinite⟩
  · rcases optionalInt_cases decimal (getField fields "estimated_start_ns") with
      ⟨start, h₂⟩ | ⟨message, h₂, hfinite⟩ | ⟨h₂, hinfinite⟩
    · rcases optionalInt_cases decimal (getField fields "estimated_finish_ns") with
        ⟨finish, h₃⟩ | ⟨message, h₃, hfinite⟩ | ⟨h₃, hinfinite⟩
      · rcases diagnosticText_cases (diagnosticValue fields) with
          ⟨hprintable, text, h₄⟩ | ⟨hprintable, h₄⟩
        · refine .inl ⟨by simpa [hreads h₁, hreads h₂, hreads h₃], .inl ?_⟩
          rw [h₁, h₂, h₃, h₄]
          exact ⟨_, rfl, rfl, rfl⟩
        · refine .inr ⟨by simpa [hreads h₁, hreads h₂, hreads h₃], digitsError, rfl, ?_⟩
          rw [h₁, h₂, h₃, h₄]
          rfl
      · refine .inl ⟨by simpa [hreads h₁, hreads h₂, hfails h₃], .inr ⟨message, ?_⟩⟩
        rw [h₁, h₂, h₃]
        rfl
      · refine .inr ⟨by simpa [hreads h₁, hreads h₂, hfails h₃], overflowError, rfl, ?_⟩
        rw [h₁, h₂, h₃]
        rfl
    · refine .inl ⟨by simpa [hreads h₁, hfails h₂], .inr ⟨message, ?_⟩⟩
      rw [h₁, h₂]
      rfl
    · refine .inr ⟨by simpa [hreads h₁, hfails h₂], overflowError, rfl, ?_⟩
      rw [h₁, h₂]
      rfl
  · refine .inl ⟨by simpa [hfails h₁], .inr ⟨message, ?_⟩⟩
    rw [h₁]
    rfl
  · refine .inr ⟨by simpa [hfails h₁], overflowError, rfl, ?_⟩
    rw [h₁]
    rfl

/-- How the normalization of an accepted reply to `reserve` ends. -/
lemma normalizeFields_reserve (binding : QPMBinding) {status : String}
    (hstatus : (getField fields "status" (.str "")).text = .ok status)
    (haccepted : lower status = "accepted")
    (hid : (getField fields "reservation_id").toInt decimal = .ok id)
    (hrange : 0 < id ∧ id < 2 ^ 64) :
    (Foreseen decimal fields .reserve ∧ ((∃ result, normalizeFields decimal binding fields true =
        .ok result ∧ result.decision = .accepted ∧ result.reservationId = some id) ∨
      ∃ message, normalizeFields decimal binding fields true = .error (adapterError message))) ∨
    (¬ Foreseen decimal fields .reserve ∧ ∃ error, error.errorClass = .other ∧
      normalizeFields decimal binding fields true = .error error) := by
  have hnormalized := normalizedId_of_toInt decimal hid hrange.1.ne'
  have hdecision : decisionOfStatus "accepted" = some .accepted := rfl
  rcases reasonCode_cases (getField fields "reason_code" (.int 0)) with ⟨reason, hreason⟩ | hreason
  swap
  · refine .inl ⟨fun h => ?_, .inr ⟨"QPM admission returned an invalid reason code", ?_⟩⟩
    · rw [hreason] at h
      cases h
    · unfold normalizeFields
      rw [hstatus]
      simp only [bind, Except.bind, haccepted, hdecision, hnormalized, hreason]
  have hforeseen : Foreseen decimal fields .reserve ↔
      match (timeValues fields).find? fun value => !readableTime decimal value with
      | some value => value.isInfinite = false
      | none => (diagnosticValue fields).Printable :=
    ⟨fun hall => hall (by rw [hreason]; rfl), fun hall _ => hall⟩
  have hends : normalizeFields decimal binding fields true =
      admissionResult decimal binding fields .accepted reason (some id) := by
    have hvalid : ∃ id' ∈ some id, 0 < id' ∧ id' < 2 ^ 64 := ⟨id, rfl, hrange⟩
    unfold normalizeFields
    rw [hstatus]
    simp only [bind, Except.bind, haccepted, hdecision, hnormalized, hreason, hvalid,
      not_true_eq_false, and_false, if_false]
    rfl
  rw [hforeseen, hends]
  exact admissionResult_cases _ _ _

/-- The normalization of a reply to `evaluate` that names a reservation always fails. -/
lemma normalizeFields_evaluate (binding : QPMBinding)
    (hid : (getField fields "reservation_id").toInt decimal = .ok id)
    (hrange : 0 < id ∧ id < 2 ^ 64) :
    (Foreseen decimal fields .evaluate ∧
      ∃ message, normalizeFields decimal binding fields false = .error (adapterError message)) ∨
    (¬ Foreseen decimal fields .evaluate ∧
      normalizeFields decimal binding fields false = .error digitsError) := by
  have hnormalized := normalizedId_of_toInt decimal hid hrange.1.ne'
  unfold normalizeFields
  rcases (getField fields "status" (.str "")).text_cases with
    ⟨hprintable, status, hstatus⟩ | ⟨hprintable, hstatus⟩
  swap
  · exact .inr ⟨hprintable, by rw [hstatus]; rfl⟩
  refine .inl ⟨hprintable, ?_⟩
  rw [hstatus]
  cases hdecision : decisionOfStatus (lower status) with
  | none => exact ⟨_, by simp only [bind, Except.bind, hdecision]; rfl⟩
  | some decision =>
    rcases reasonCode_cases (getField fields "reason_code" (.int 0)) with ⟨reason, hreason⟩ | hreason
    · refine ⟨"QPM evaluation returned a reservation ID", ?_⟩
      simp only [bind, Except.bind, hdecision, hnormalized, hreason]
      rfl
    · refine ⟨"QPM admission returned an invalid reason code", ?_⟩
      simp only [bind, Except.bind, hdecision, hnormalized, hreason]

end Readable

/-! ### The answers of the adapter -/

section Answers

variable {decimal : Char → Option ℕ} {binding : QPMBinding} {raw : PyReply}
  {result : ServiceResult}

/-- What `reserve` returns is a normalized reply, with a reservation id exactly when it is
accepted. -/
theorem reply_of_normalizeAdmission
    (h : normalizeAdmission decimal binding raw true = .ok result) :
    ∃ reply : ReserveReply, result = reply.val.result binding := by
  cases raw with
  | other => cases h
  | mapping fields =>
    obtain ⟨status, -, h⟩ := bind_eq_ok_iff.mp h
    dsimp only at h
    cases hdecision : decisionOfStatus (lower status) with
    | none =>
      rw [hdecision] at h
      cases h
    | some decision =>
      rw [hdecision] at h
      obtain ⟨reservationId, -, h⟩ := bind_eq_ok_iff.mp h
      obtain ⟨reason, -, h⟩ := bind_eq_ok_iff.mp h
      by_cases hlacks : true = true ∧ decision = .accepted ∧
          ¬ ∃ id ∈ reservationId, 0 < id ∧ id < 2 ^ 64
      · rw [if_pos hlacks] at h
        cases h
      rw [if_neg hlacks, if_neg fun h => h.1 rfl] at h
      obtain ⟨retry, -, h⟩ := bind_eq_ok_iff.mp h
      obtain ⟨start, -, h⟩ := bind_eq_ok_iff.mp h
      obtain ⟨finish, -, h⟩ := bind_eq_ok_iff.mp h
      obtain ⟨diagnostic, -, h⟩ := bind_eq_ok_iff.mp h
      obtain rfl := Except.ok.inj h
      refine ⟨⟨⟨decision, reason, _, retry, start, finish, diagnostic⟩, ?_⟩, rfl⟩
      cases decision with
      | accepted =>
        rw [not_and, not_and, not_not] at hlacks
        obtain ⟨id, hid, hrange⟩ := hlacks rfl rfl
        rw [Option.mem_def] at hid
        subst hid
        exact hrange
      | _ => rfl

/-- What `evaluate` returns names no reservation. -/
theorem reservationId_of_normalizeAdmission
    (h : normalizeAdmission decimal binding raw false = .ok result) :
    result.reservationId = none := by
  cases raw with
  | other => cases h
  | mapping fields =>
    obtain ⟨status, -, h⟩ := bind_eq_ok_iff.mp h
    dsimp only at h
    cases hdecision : decisionOfStatus (lower status) with
    | none =>
      rw [hdecision] at h
      cases h
    | some decision =>
      rw [hdecision] at h
      obtain ⟨reservationId, -, h⟩ := bind_eq_ok_iff.mp h
      obtain ⟨reason, -, h⟩ := bind_eq_ok_iff.mp h
      rw [if_neg fun h => (nomatch h.1)] at h
      by_cases hreturned : ¬ false = true ∧ reservationId ≠ none
      · rw [if_pos hreturned] at h
        cases h
      rw [if_neg hreturned] at h
      obtain ⟨retry, -, h⟩ := bind_eq_ok_iff.mp h
      obtain ⟨start, -, h⟩ := bind_eq_ok_iff.mp h
      obtain ⟨finish, -, h⟩ := bind_eq_ok_iff.mp h
      obtain ⟨diagnostic, -, h⟩ := bind_eq_ok_iff.mp h
      obtain rfl := Except.ok.inj h
      rfl

end Answers

/-! ### Runs of an adapter call -/

/-- The reservations a QPM was asked to release, and by which binding. -/
def qpmReleases (events : List (Σ call : AdmissionCall, call.Answer)) : List (QPMBinding × ℤ) :=
  events.filterMap fun event =>
    match event with
    | ⟨.release binding reservationId _, _⟩ => some (binding, reservationId)
    | _ => none

/-- The reservation named in a reply is not lost: `reserve` returns it, or it is released once before
the call ends with an exception.  An evaluation returns no reservation. -/
structure KeepsReservation (decimal : Char → Option ℕ) (operation : AdmissionOperation)
    (binding : QPMBinding) (fields : List (String × PyValue))
    (ended : Except PyError ServiceResult × AdapterWorld) : Prop where
  evaluated : operation = .evaluate → ∀ result, ended.1 = .ok result → result.reservationId = none
  kept : ∀ id, (getField fields "reservation_id").toInt decimal = .ok id → 0 < id ∧ id < 2 ^ 64 →
    (operation = .reserve ∧ (∃ result, ended.1 = .ok result ∧ result.decision = .accepted ∧
      result.reservationId = some id) ∧ qpmReleases ended.2.trace = []) ∨
    (∃ error, ended.1 = .error error) ∧ qpmReleases ended.2.trace = [(binding, id)]

section Running

variable {oracle : QpmOracle} {decimal : Char → Option ℕ}

/-- One call of the QPM. -/
lemma exec_callQpm (oracle : QpmOracle) (call : AdmissionCall) (message : String)
    (w : AdapterWorld) : Procedure.exec (qpmEnvironment oracle) (callQpm call message) w =
      (match oracle w.trace.length call with
        | .ok reply => .ok reply
        | .error error => .error (adapterError s!"{message}: {error}"),
        ⟨(), w.trace ++ [⟨call, oracle w.trace.length call⟩]⟩) := by
  unfold callQpm
  have hask : Procedure.exec (qpmEnvironment oracle)
      (ExceptT.lift (Program.question (A := AdmissionCall.Answer) call) :
        Adapting (Except String PyReply)) w =
      (.ok (oracle w.trace.length call), ⟨(), w.trace ++ [⟨call, oracle w.trace.length call⟩]⟩) := rfl
  rw [Procedure.exec_bind_ok hask]
  cases oracle w.trace.length call <;> rfl

/-- A release asks the QPM once. -/
lemma exec_adapterReleaseCall (oracle : QpmOracle) (binding : QPMBinding) (id reason : ℤ)
    (w : AdapterWorld) :
    ∃ result, Procedure.exec (qpmEnvironment oracle) (adapterReleaseCall binding id reason) w =
      (result, ⟨(), w.trace ++ [⟨.release binding id reason,
        oracle w.trace.length (.release binding id reason)⟩]⟩) := by
  have hcall := exec_callQpm oracle (.release binding id reason)
    s!"QPM {reprText binding.serviceId} release failed" w
  unfold adapterReleaseCall
  cases hanswer : oracle w.trace.length (.release binding id reason) with
  | error message =>
    rw [hanswer] at hcall
    exact ⟨_, Procedure.exec_bind_error hcall _⟩
  | ok reply =>
    rw [hanswer] at hcall
    rw [Procedure.exec_bind_ok hcall]
    cases reply <;> exact ⟨_, rfl⟩

/-- The cleanup releases the reservation once and ends with an exception. -/
lemma exec_cleanUp (oracle : QpmOracle) (binding : QPMBinding) (error : PyError)
    (label : String) (id : ℤ) (w : AdapterWorld) : ∃ raised, Procedure.exec (qpmEnvironment oracle)
      (cleanUp binding error label (some id)) w =
        (.error raised, ⟨(), w.trace ++ [⟨.release binding id 1,
          oracle w.trace.length (.release binding id 1)⟩]⟩) := by
  obtain ⟨result, hrelease⟩ := exec_adapterReleaseCall oracle binding id 1 w
  unfold cleanUp
  cases result with
  | ok fields =>
    have htry := Procedure.exec_tryCatch_ok (Procedure.exec_bind_ok hrelease fun _ => pure ())
    exact ⟨error, Procedure.exec_bind_ok (htry _) _⟩
  | error cleanupError =>
    have htry := Procedure.exec_tryCatch_error
      (Procedure.exec_bind_error hrelease fun _ => (pure () : Adapting Unit))
    exact ⟨cleanupFailure error label cleanupError, Procedure.exec_bind_error (htry _) _⟩

variable {operation : AdmissionOperation} {binding : QPMBinding} {request : ReserveRequest}
  {job : VerifiedJob} {payload : AdmissionPayload} {raw : PyReply}

/-- An adapter call whose QPM replies goes on with the reply. -/
lemma exec_callAdmission (hpayload : admissionPayload request job = .ok payload)
    (hreply : oracle 0 (.requestAdmission operation binding payload) = .ok raw) :
    Procedure.exec (qpmEnvironment oracle) (callAdmission decimal operation binding request job)
        ⟨(), []⟩ =
      Procedure.exec (qpmEnvironment oracle) (admitted decimal operation binding raw)
        ⟨(), [⟨.requestAdmission operation binding payload, .ok raw⟩]⟩ := by
  have hsettle : Procedure.exec (qpmEnvironment oracle) (settle (admissionPayload request job))
      ⟨(), []⟩ = (.ok payload, ⟨(), []⟩) := by
    rw [hpayload]
    rfl
  have hcall := exec_callQpm oracle (.requestAdmission operation binding payload)
    s!"QPM {reprText binding.serviceId} {operation.text} failed" ⟨(), []⟩
  simp only [List.length_nil, hreply, List.nil_append] at hcall
  unfold callAdmission
  rw [Procedure.exec_bind_ok hsettle, Procedure.exec_bind_ok hcall]

/-- A reply that is normalized. -/
lemma exec_admitted_returned {result : ServiceResult}
    (hnormalized : normalizeAdmission decimal binding raw (operation = .reserve) = .ok result)
    (w : AdapterWorld) :
    Procedure.exec (qpmEnvironment oracle) (admitted decimal operation binding raw) w =
      (.ok result, w) := by
  unfold admitted
  rw [hnormalized]
  rfl

/-- A reply on which another exception than `QFwAdapterError` is raised. -/
lemma exec_admitted_lost {error : PyError}
    (hnormalized : normalizeAdmission decimal binding raw (operation = .reserve) = .error error)
    (hclass : error.errorClass = .other) (w : AdapterWorld) :
    Procedure.exec (qpmEnvironment oracle) (admitted decimal operation binding raw) w =
      (.error error, w) := by
  unfold admitted
  rw [hnormalized]
  simp only [hclass, reduceCtorEq, if_false]
  rfl

/-- A reply on which `QFwAdapterError` is raised, with a reservation to release. -/
lemma exec_admitted_cleaned (oracle : QpmOracle) {message : String} {id : ℤ}
    (hnormalized : normalizeAdmission decimal binding raw (operation = .reserve) =
      .error (adapterError message))
    (hleftover : operation.leftoverId decimal raw = .ok (some id)) (w : AdapterWorld) :
    ∃ raised, Procedure.exec (qpmEnvironment oracle) (admitted decimal operation binding raw) w =
      (.error raised, ⟨(), w.trace ++ [⟨.release binding id 1,
        oracle w.trace.length (.release binding id 1)⟩]⟩) := by
  have hsettle : Procedure.exec (qpmEnvironment oracle)
      (settle (operation.leftoverId decimal raw)) w = (.ok (some id), w) := by
    rw [hleftover]
    rfl
  obtain ⟨raised, hraised⟩ := exec_cleanUp oracle binding (adapterError message)
    operation.cleanupLabel id w
  refine ⟨raised, ?_⟩
  unfold admitted
  rw [hnormalized]
  exact (Procedure.exec_bind_ok hsettle _).trans hraised

/-- A reply that is returned was normalized. -/
lemma normalizeAdmission_of_exec {result : ServiceResult} {w : AdapterWorld}
    (h : (Procedure.exec (qpmEnvironment oracle) (admitted decimal operation binding raw) w).1 =
      .ok result) :
    normalizeAdmission decimal binding raw (operation = .reserve) = .ok result := by
  unfold admitted at h
  cases hnormalized : normalizeAdmission decimal binding raw (operation = .reserve) with
  | ok other =>
    rw [hnormalized] at h
    exact h
  | error error =>
    exfalso
    rw [hnormalized] at h
    dsimp only at h
    split_ifs at h with hclass
    · cases hleftover : operation.leftoverId decimal raw with
      | error failure =>
        rw [hleftover] at h
        cases h
      | ok leftover =>
        rw [hleftover] at h
        cases leftover with
        | none => cases h
        | some id =>
          obtain ⟨raised, hraised⟩ := exec_cleanUp oracle binding error
            operation.cleanupLabel id w
          have hsettle : Procedure.exec (qpmEnvironment oracle) (settle (.ok (some id))) w =
              (.ok (some id), w) := rfl
          rw [Procedure.exec_bind_ok hsettle, hraised] at h
          cases h
    · cases h

variable {fields : List (String × PyValue)} {id : ℤ}

/-- The reservation id that a reply names is the one that is released. -/
lemma leftoverId_eq
    (hstatus : operation = .reserve → ∃ status,
      (getField fields "status" (.str "")).text = .ok status ∧ lower status = "accepted")
    (hid : (getField fields "reservation_id").toInt decimal = .ok id)
    (hrange : 0 < id ∧ id < 2 ^ 64) :
    operation.leftoverId decimal (.mapping fields) = .ok (some id) := by
  have hreturned : returnedReservationId decimal (.mapping fields) = .ok (some id) := by
    simp only [returnedReservationId, hid, if_pos hrange]
  cases operation with
  | evaluate => exact hreturned
  | reserve =>
    obtain ⟨status, htext, haccepted⟩ := hstatus rfl
    simp only [AdmissionOperation.leftoverId, acceptedReservationId, htext, bind, Except.bind,
      if_pos haccepted, hreturned]

end Running

/-- An accepted reply to `reserve`, and any reply to `evaluate`: a reservation that it names is kept
exactly when normalizing the reply raises no exception but `QFwAdapterError`. -/
theorem keepsReservation_iff (decimal : Char → Option ℕ) (operation : AdmissionOperation)
    (binding : QPMBinding) (request : ReserveRequest) (job : VerifiedJob) (oracle : QpmOracle)
    (payload : AdmissionPayload) (fields : List (String × PyValue))
    (hpayload : admissionPayload request job = .ok payload)
    (hreply : oracle 0 (.requestAdmission operation binding payload) = .ok (.mapping fields))
    (hstatus : operation = .reserve → ∃ status,
      (getField fields "status" (.str "")).text = .ok status ∧ lower status = "accepted") :
    KeepsReservation decimal operation binding fields (Procedure.exec (qpmEnvironment oracle)
      (callAdmission decimal operation binding request job) ⟨(), []⟩) ↔
        ((∃ id, (getField fields "reservation_id").toInt decimal = .ok id ∧ 0 < id ∧ id < 2 ^ 64) →
          Foreseen decimal fields operation) := by
  rw [exec_callAdmission hpayload hreply]
  have hevaluated : operation = .evaluate → ∀ result, (Procedure.exec (qpmEnvironment oracle)
      (admitted decimal operation binding (.mapping fields))
      ⟨(), [⟨.requestAdmission operation binding payload, .ok (.mapping fields)⟩]⟩).1 = .ok result →
        result.reservationId = none := by
    rintro rfl result hresult
    exact reservationId_of_normalizeAdmission (normalizeAdmission_of_exec hresult)
  constructor
  · rintro ⟨-, hkept⟩ ⟨id, hid, hrange⟩
    have hkept := hkept id hid hrange
    by_contra hsurprise
    obtain ⟨error, hclass, hnormalized⟩ : ∃ error : PyError, error.errorClass = .other ∧
        normalizeAdmission decimal binding (.mapping fields) (operation = .reserve) =
          .error error := by
      cases operation with
      | reserve =>
        obtain ⟨status, htext, haccepted⟩ := hstatus rfl
        rcases normalizeFields_reserve binding htext haccepted hid hrange with
          ⟨hforeseen, -⟩ | ⟨-, hother⟩
        · exact absurd hforeseen hsurprise
        · exact hother
      | evaluate =>
        rcases normalizeFields_evaluate binding hid hrange with
          ⟨hforeseen, -⟩ | ⟨-, hother⟩
        · exact absurd hforeseen hsurprise
        · exact ⟨digitsError, rfl, hother⟩
    rw [exec_admitted_lost hnormalized hclass] at hkept
    rcases hkept with ⟨-, ⟨result, hresult, -⟩, -⟩ | ⟨-, hreleases⟩
    · cases hresult
    · cases hreleases
  · refine fun hforeseen => ⟨hevaluated, fun id hid hrange => ?_⟩
    have hforeseen := hforeseen ⟨id, hid, hrange⟩
    -- the reply is returned, or refused with `QFwAdapterError` and cleaned up
    obtain hreturned | ⟨message, hnormalized⟩ : (operation = .reserve ∧ ∃ result,
        normalizeAdmission decimal binding (.mapping fields) (operation = .reserve) = .ok result ∧
          result.decision = .accepted ∧ result.reservationId = some id) ∨
        ∃ message, normalizeAdmission decimal binding (.mapping fields) (operation = .reserve) =
          .error (adapterError message) := by
      cases operation with
      | reserve =>
        obtain ⟨status, htext, haccepted⟩ := hstatus rfl
        rcases normalizeFields_reserve binding htext haccepted hid hrange with
          ⟨-, hended⟩ | ⟨hsurprise, -⟩
        · exact hended.imp_left fun h => ⟨rfl, h⟩
        · exact absurd hforeseen hsurprise
      | evaluate =>
        rcases normalizeFields_evaluate binding hid hrange with
          ⟨-, hended⟩ | ⟨hsurprise, -⟩
        · exact .inr hended
        · exact absurd hforeseen hsurprise
    · obtain ⟨hoperation, result, hresult, hdecision, hresultId⟩ := hreturned
      rw [exec_admitted_returned hresult]
      exact .inl ⟨hoperation, ⟨result, rfl, hdecision, hresultId⟩, rfl⟩
    · obtain ⟨raised, hraised⟩ := exec_admitted_cleaned oracle hnormalized
        (leftoverId_eq hstatus hid hrange)
        ⟨(), [⟨.requestAdmission operation binding payload, .ok (.mapping fields)⟩]⟩
      rw [hraised]
      exact .inr ⟨⟨raised, rfl⟩, rfl⟩

/-! ### Small replies -/

/-- The payload of the sample below. -/
def samplePayload : AdmissionPayload :=
  { requestId := 1
    user := "user"
    uid := 1000
    gid := 1000
    clusterName := "cluster"
    jobId := "7"
    allocationId := "cluster:7"
    scopeId := "cluster"
    account := none
    qos := none
    priority := 0
    workloadKind := .quantum
    walltimeNs := 60
    ttlNs := 60
    circuitCount := 1
    qubitCount := 2
    depth := 3
    shots := 4
    oneQGateCount := 0
    twoQGateCount := 0
    measurementCount := 0 }

/-- A QPM that gives one reply to every request. -/
def replying (fields : List (String × PyValue)) : QpmOracle := fun _ _ => .ok (.mapping fields)

/-- A request with a workload. -/
def workloadRequest : ReserveRequest :=
  { requestId := 1
    clusterName := "cluster"
    canonicalJobId := 7
    jobUid := 1000
    jobGid := 1000
    workload := some ⟨.quantum, 60, 1, 2, 3, 4, none, none, none⟩
    serviceIds := ["qpm-a"] }

/-- The job of the request. -/
def workloadJob : VerifiedJob := ⟨"cluster", 7, 1000, 1000, "user", none, none, none, "RUNNING"⟩

lemma admissionPayload_sample : admissionPayload workloadRequest workloadJob = .ok samplePayload := by
  decide

/-- An acceptance with a malformed reason code. -/
def malformedAcceptance : List (String × PyValue) :=
  [("status", .str "accepted"), ("reservation_id", .int 41), ("reason_code", .str "bad")]

/-- Its reservation is released. -/
theorem keepsReservation_iff_malformed :
    KeepsReservation (fun _ => none) .reserve ⟨"qpm-a", "runtime", 1⟩ malformedAcceptance
      (Procedure.exec (qpmEnvironment (replying malformedAcceptance))
      (callAdmission (fun _ => none) .reserve ⟨"qpm-a", "runtime", 1⟩ workloadRequest workloadJob)
      ⟨(), []⟩) := by
  refine (keepsReservation_iff (fun _ => none) .reserve ⟨"qpm-a", "runtime", 1⟩ workloadRequest
    workloadJob (replying malformedAcceptance) samplePayload malformedAcceptance
    admissionPayload_sample rfl fun _ => ⟨"accepted", rfl, by decide⟩).mpr ?_
  exact fun _ hreason => (nomatch hreason)

/-- An acceptance whose retry time is an infinity. -/
def infiniteAcceptance : List (String × PyValue) :=
  [("status", .str "accepted"), ("reservation_id", .int 41),
    ("retry_after_ns", .float (.infinity false))]

/-- Its reservation is lost: the call ends with `OverflowError` and releases nothing. -/
theorem infinite_acceptance_lost :
    ¬ KeepsReservation (fun _ => none) .reserve ⟨"qpm-a", "runtime", 1⟩ infiniteAcceptance
      (Procedure.exec (qpmEnvironment (replying infiniteAcceptance))
      (callAdmission (fun _ => none) .reserve ⟨"qpm-a", "runtime", 1⟩ workloadRequest workloadJob)
      ⟨(), []⟩) := by
  have hended : (Procedure.exec (qpmEnvironment (replying infiniteAcceptance))
      (callAdmission (fun _ => none) .reserve ⟨"qpm-a", "runtime", 1⟩ workloadRequest workloadJob)
      ⟨(), []⟩).1 = .error overflowError ∧
    qpmReleases (Procedure.exec (qpmEnvironment (replying infiniteAcceptance))
      (callAdmission (fun _ => none) .reserve ⟨"qpm-a", "runtime", 1⟩ workloadRequest workloadJob)
      ⟨(), []⟩).2.trace = [] := by
    rw [exec_callAdmission admissionPayload_sample rfl]
    exact ⟨rfl, rfl⟩
  rintro ⟨-, hkept⟩
  rcases hkept 41 rfl (by decide) with ⟨-, ⟨result, hresult, -⟩, -⟩ | ⟨-, hreleases⟩
  · cases hended.1.symm.trans hresult
  · cases hended.2.symm.trans hreleases

end QfwSlurm
