import Mathlib.Data.String.Basic
import Mathlib.Tactic
import QfwSlurm.Python.Repr

/-!
# Messages of the QSGP protocol

The data model of `gateway/qfw_slurm_gateway/protocol.py`: the enumerations with their wire codes,
the requests a Slurm provider sends, the responses the gateway returns, and the checks a decoded
request has passed (`validateReserveRequest`).  Python integers are `ℤ`; the bounds that the wire
imposes on them are checked where the source checks them.

Python exceptions are values of `PyError`: the class that the handlers of `service.py` branch on,
and the text that ends up in a diagnostic.
-/

namespace QfwSlurm

/-! ### Bounds -/

/-- `MAX_FRAME_SIZE` -/
def maxFrameSize : ℕ := 256 * 1024

/-- `HEADER_SIZE` -/
def headerSize : ℕ := 32

/-- `MAX_CLUSTER_NAME` -/
def maxClusterName : ℕ := 128

/-- `MAX_SERVICE_ID` -/
def maxServiceId : ℕ := 256

/-- `MAX_DIAGNOSTIC` -/
def maxDiagnostic : ℕ := 4096

/-- `MAX_SERVICES` -/
def maxServices : ℕ := 32

/-! ### Exceptions -/

/-- The exception classes the gateway distinguishes.  `RequestConflict`, the three allocation
errors and `RollbackIncomplete` are subclasses of `JournalError`. -/
inductive ErrorClass where
  | requestConflict
  | allocationNotFound
  | allocationNotAccepted
  | allocationReleased
  | journalError
  | rollbackIncomplete
  | slurmVerificationError
  | qfwAdapterError
  | protocolError
  | other
  deriving DecidableEq

/-- `isinstance(error, JournalError)` -/
def ErrorClass.isJournalError : ErrorClass → Bool
  | .requestConflict | .allocationNotFound | .allocationNotAccepted | .allocationReleased
  | .journalError | .rollbackIncomplete => true
  | _ => false

/-- A raised exception: its class and `str(error)`. -/
structure PyError where
  errorClass : ErrorClass
  message : String
  deriving DecidableEq

/-- `repr` of a text, as an f-string with `!r` shows it. -/
def reprText (s : String) : String := String.ofList (Python.repr s.toList)

/-- The longest prefix of a text whose UTF-8 encoding has at most `n` bytes. -/
def takeBytes : ℕ → List Char → List Char
  | _, [] => []
  | n, c :: cs => if c.utf8Size ≤ n then c :: takeBytes (n - c.utf8Size) cs else []

/-- `bounded_diagnostic`: a text that fits the QSGP diagnostic field. -/
def boundedDiagnostic (value : String) : String :=
  if value.utf8ByteSize ≤ maxDiagnostic then value
  else String.ofList (takeBytes maxDiagnostic value.toList)

/-! ### Enumerations -/

inductive WorkloadKind where
  | quantum
  | hybrid
  deriving DecidableEq

def WorkloadKind.code : WorkloadKind → ℤ
  | .quantum => 1
  | .hybrid => 2

inductive AdmissionDecision where
  | accepted
  | delayed
  | rejected
  deriving DecidableEq

def AdmissionDecision.code : AdmissionDecision → ℤ
  | .accepted => 1
  | .delayed => 2
  | .rejected => 3

/-- `AdmissionDecision(value)`, `none` where Python raises `ValueError`. -/
def AdmissionDecision.ofCode (value : ℤ) : Option AdmissionDecision :=
  if value = 1 then some .accepted
  else if value = 2 then some .delayed
  else if value = 3 then some .rejected
  else none

@[simp] lemma AdmissionDecision.ofCode_code (d : AdmissionDecision) : ofCode d.code = some d := by
  cases d <;> rfl

inductive ReservationState where
  | released
  | alreadyTerminal
  | notFound
  | staleRuntime
  | authorizationFailure
  | qpmFailure
  | gatewayFailure
  deriving DecidableEq

def ReservationState.code : ReservationState → ℤ
  | .released => 1
  | .alreadyTerminal => 2
  | .notFound => 3
  | .staleRuntime => 4
  | .authorizationFailure => 5
  | .qpmFailure => 6
  | .gatewayFailure => 7

/-- `ReservationState(value)`, `none` where Python raises `ValueError`. -/
def ReservationState.ofCode (value : ℤ) : Option ReservationState :=
  if value = 1 then some .released
  else if value = 2 then some .alreadyTerminal
  else if value = 3 then some .notFound
  else if value = 4 then some .staleRuntime
  else if value = 5 then some .authorizationFailure
  else if value = 6 then some .qpmFailure
  else if value = 7 then some .gatewayFailure
  else none

@[simp] lemma ReservationState.ofCode_code (s : ReservationState) : ofCode s.code = some s := by
  cases s <;> rfl

inductive GatewayError where
  | invalidRequest
  | unauthorized
  | directory
  | qpm
  | timeout
  | internal
  | requestConflict
  | unsupportedVersion
  | allocationNotFound
  | allocationNotAccepted
  | allocationReleased
  deriving DecidableEq

def GatewayError.code : GatewayError → ℤ
  | .invalidRequest => 1
  | .unauthorized => 2
  | .directory => 3
  | .qpm => 4
  | .timeout => 5
  | .internal => 6
  | .requestConflict => 7
  | .unsupportedVersion => 8
  | .allocationNotFound => 9
  | .allocationNotAccepted => 10
  | .allocationReleased => 11

/-- `GatewayError(value)`, `none` where Python raises `ValueError`. -/
def GatewayError.ofCode (value : ℤ) : Option GatewayError :=
  if value = 1 then some .invalidRequest
  else if value = 2 then some .unauthorized
  else if value = 3 then some .directory
  else if value = 4 then some .qpm
  else if value = 5 then some .timeout
  else if value = 6 then some .internal
  else if value = 7 then some .requestConflict
  else if value = 8 then some .unsupportedVersion
  else if value = 9 then some .allocationNotFound
  else if value = 10 then some .allocationNotAccepted
  else if value = 11 then some .allocationReleased
  else none

@[simp] lemma GatewayError.ofCode_code (e : GatewayError) : ofCode e.code = some e := by
  cases e <;> rfl

/-! ### Requests -/

structure Workload where
  kind : WorkloadKind
  walltimeNs : ℤ
  circuitCount : ℤ
  maxQubits : ℤ
  maxDepth : ℤ
  maxShots : ℤ
  maxOneQGates : Option ℤ := none
  maxTwoQGates : Option ℤ := none
  maxMeasurements : Option ℤ := none
  deriving DecidableEq

structure ReserveRequest where
  requestId : ℤ
  clusterName : String
  canonicalJobId : ℤ
  jobUid : ℤ
  jobGid : ℤ
  workload : Option Workload
  serviceIds : List String
  heteroJobId : Option ℤ := none
  heteroComponent : Option ℤ := none
  deriving DecidableEq

/-- A non-binding admission request; the reserve workload envelope under another class. -/
structure EvaluateRequest extends ReserveRequest
  deriving DecidableEq

structure ReleaseRequest where
  requestId : ℤ
  clusterName : String
  canonicalJobId : ℤ
  reason : ℤ
  deriving DecidableEq

structure GetReservationsRequest where
  requestId : ℤ
  clusterName : String
  observedJobId : ℤ
  jobUid : ℤ
  jobGid : ℤ
  deriving DecidableEq

/-- What `GatewayService.handle` accepts. -/
inductive Request where
  | evaluate (request : EvaluateRequest)
  | reserve (request : ReserveRequest)
  | release (request : ReleaseRequest)
  | getReservations (request : GetReservationsRequest)
  deriving DecidableEq

/-! ### Responses -/

structure ServiceResult where
  serviceId : String
  decision : AdmissionDecision
  reasonCode : ℤ
  reservationId : Option ℤ := none
  retryAfterNs : Option ℤ := none
  estimatedStartNs : Option ℤ := none
  estimatedFinishNs : Option ℤ := none
  qpmRuntimeId : Option String := none
  qpmGeneration : Option ℤ := none
  diagnostic : Option String := none
  deriving DecidableEq

structure ReserveResponse where
  requestId : ℤ
  decision : AdmissionDecision
  results : List ServiceResult
  deriving DecidableEq

/-- An admission estimate; a reserve response under another class. -/
structure EvaluateResponse extends ReserveResponse
  deriving DecidableEq

structure ReleaseResult where
  serviceId : String
  reservationId : ℤ
  state : ReservationState
  gatewayError : Option GatewayError := none
  diagnostic : Option String := none
  deriving DecidableEq

structure ReleaseResponse where
  requestId : ℤ
  results : List ReleaseResult
  deriving DecidableEq

structure Reservation where
  serviceId : String
  reservationId : ℤ
  deriving DecidableEq

structure GetReservationsResponse where
  requestId : ℤ
  canonicalJobId : ℤ
  reservations : List Reservation
  deriving DecidableEq

structure ErrorResponse where
  errorCode : GatewayError
  requestId : Option ℤ := none
  diagnostic : Option String := none
  deriving DecidableEq

/-- What `GatewayService.handle` returns. -/
inductive Response where
  | evaluate (response : EvaluateResponse)
  | reserve (response : ReserveResponse)
  | release (response : ReleaseResponse)
  | getReservations (response : GetReservationsResponse)
  | error (response : ErrorResponse)
  deriving DecidableEq

/-- The value as a `ReserveResponse` when `isinstance(response, ReserveResponse)` holds, which an
`EvaluateResponse` passes too. -/
def Response.asReserve : Response → Option ReserveResponse
  | .evaluate response => some response.toReserveResponse
  | .reserve response => some response
  | _ => none

/-! ### Computations that may fail -/

/-- A sequence of two computations returns when both do. -/
lemma bind_eq_ok_iff {ε α β : Type} {first : Except ε α} {next : α → Except ε β} {result : β} :
    first >>= next = .ok result ↔ ∃ value, first = .ok value ∧ next value = .ok result := by
  cases first <;> simp [bind, Except.bind]

/-- A computation that is known to return has a value. -/
lemma exists_eq_ok_of_toBool {ε α : Type} {result : Except ε α} (h : result.toBool = true) :
    ∃ value, result = .ok value := by
  cases result with
  | ok value => exact ⟨value, rfl⟩
  | error error => cases h

/-- A check whose value is dropped passes when it returns. -/
lemma discard_eq_ok_iff {ε α : Type} {check : Except ε α} :
    (discard check : Except ε Unit) = .ok () ↔ ∃ value, check = .ok value := by
  cases check <;> simp [discard, Functor.discard, Functor.mapConst, Except.map]

/-- A loop of checks passes when every check does. -/
lemma forM_eq_ok_iff {ε α : Type} {check : α → Except ε Unit} {items : List α} :
    items.forM check = .ok () ↔ ∀ item ∈ items, check item = .ok () := by
  induction items with
  | nil => simp [pure, Except.pure]
  | cons item items ih =>
    have hstep : (item :: items).forM check = check item >>= fun _ => items.forM check := rfl
    rw [hstep, bind_eq_ok_iff, List.forall_mem_cons, ← ih]
    constructor
    · rintro ⟨_, hitem, hrest⟩
      exact ⟨hitem, hrest⟩
    · rintro ⟨hitem, hrest⟩
      exact ⟨(), hitem, hrest⟩

/-! ### Validation of requests -/

/-- The class of every refusal of the codec. -/
def protocolError (message : String) : PyError := ⟨.protocolError, message⟩

/-- `_uint`: the value, if it fits the given number of bits. -/
def uint (value : ℤ) (bits : ℕ) (label : String) (nonzero : Bool := false) : Except PyError ℤ :=
  if value < 0 ∨ 2 ^ bits ≤ value ∨ (nonzero ∧ value = 0) then
    .error (protocolError s!"{label} is outside uint{bits}")
  else .ok value

/-- The UTF-8 bytes of a text. -/
def utf8 (value : String) : List UInt8 := value.toUTF8.data.toList

/-- A text is nonempty when its bytes are. -/
lemma utf8_eq_nil_iff {text : String} : utf8 text = [] ↔ text = "" := by
  rw [← List.length_eq_zero_iff]
  simp [utf8]

/-- `_string`: the UTF-8 bytes of a nonempty text without NUL within its wire bound. -/
def string (value : String) (maximum : ℕ) (label : String) : Except PyError (List UInt8) :=
  if value = "" then .error (protocolError s!"{label} must be a nonempty string")
  else if maximum < (utf8 value).length ∨ 0 ∈ utf8 value then
    .error (protocolError s!"{label} exceeds its wire bound")
  else .ok (utf8 value)

/-- The workload part of `_validate_reserve_request`. -/
def validateWorkload (workload : Workload) : Except PyError Unit := do
  discard <| uint workload.walltimeNs 64 "walltime_ns" true
  discard <| uint workload.circuitCount 64 "circuit_count" true
  discard <| uint workload.maxQubits 32 "max_qubits" true
  discard <| uint workload.maxDepth 64 "max_depth" true
  discard <| uint workload.maxShots 64 "max_shots" true
  if let some value := workload.maxOneQGates then discard <| uint value 64 "max_one_q_gates"
  if let some value := workload.maxTwoQGates then discard <| uint value 64 "max_two_q_gates"
  if let some value := workload.maxMeasurements then discard <| uint value 64 "max_measurements"

/-- The identity part of `_validate_reserve_request`, up to the service set. -/
def validateIdentity (request : ReserveRequest) : Except PyError Unit := do
  discard <| uint request.requestId 64 "request_id" true
  discard <| uint request.canonicalJobId 64 "canonical_job_id" true
  discard <| uint request.jobUid 32 "job_uid"
  discard <| uint request.jobGid 32 "job_gid"
  discard <| string request.clusterName maxClusterName "cluster_name"

/-- The heterogeneous part of `_validate_reserve_request`. -/
def validateHetero (request : ReserveRequest) : Except PyError Unit :=
  match request.heteroJobId, request.heteroComponent with
  | none, none => .ok ()
  | some job, some component => do
    discard <| uint job 64 "hetero_job_id" true
    discard <| uint component 32 "hetero_component"
  | _, _ => .error (protocolError "heterogeneous allocation fields are incomplete")

/-- The service set part of `_validate_reserve_request`. -/
def validateServices (serviceIds : List String) : Except PyError Unit :=
  if ¬ (0 < serviceIds.length ∧ serviceIds.length ≤ maxServices) then
    .error (protocolError "reserve request service count is invalid")
  else if ¬ serviceIds.Nodup then
    .error (protocolError "reserve request service set is invalid")
  else serviceIds.forM fun serviceId => discard <| string serviceId maxServiceId "service_id"

/-- `_validate_reserve_request` -/
def validateReserveRequest (request : ReserveRequest) : Except PyError Unit := do
  validateIdentity request
  validateServices request.serviceIds
  validateHetero request
  match request.workload with
  | none => pure ()
  | some workload => validateWorkload workload

/-- A service set that passes its check is nonempty, without duplicates and bounded. -/
lemma validateServices_ok {serviceIds : List String} (h : validateServices serviceIds = .ok ()) :
    serviceIds ≠ [] ∧ serviceIds.Nodup ∧ serviceIds.length ≤ maxServices := by
  unfold validateServices at h
  split_ifs at h with hcount hnodup
  obtain ⟨hpos, hmax⟩ := hcount
  exact ⟨List.length_pos_iff.mp hpos, hnodup, hmax⟩

/-- The requests the gateway's decoder lets through: the two admission requests pass
`_validate_reserve_request` and have a workload envelope. -/
def Request.Valid : Request → Prop
  | .evaluate request =>
    request.workload.isSome ∧ validateReserveRequest request.toReserveRequest = .ok ()
  | .reserve request => request.workload.isSome ∧ validateReserveRequest request = .ok ()
  | _ => True

instance (request : Request) : Decidable request.Valid := by
  cases request <;> unfold Request.Valid <;> infer_instance

end QfwSlurm
