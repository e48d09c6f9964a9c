import QfwSlurm.Interaction.Program
import QfwSlurm.Gateway.Journal

/-!
# What the gateway asks of its surroundings

`GatewayService` computes with three collaborators: the journal, the Slurm verifier and the QFw
adapter.  Every use of one of them is a question of the interactive programs of
`QfwSlurm.Interaction.Program`: a `Transaction` on the journal, or a `Call` to the verifier or the
adapter.

The journal answers by its own methods.  The verifier and the adapter are an `Oracle`: any answer
the source of `slurm_verifier.py` and `defw_client.py` allows, chosen anew for every call.  What
those files guarantee of an answer is in its type: a binding and a result carry the service they
were asked for, and a reserve result has a reservation id exactly when it is accepted.
-/

namespace QfwSlurm

open Interaction

/-! ### Transactions -/

/-- The journal methods that the service calls. -/
inductive Transaction where
  | beginOperation (key : OperationKey) (fingerprint : String)
  | completeOperation (key : OperationKey) (response : Json) (state : OperationState)
  | beginAllocation (key : AllocationKey) (jobUid jobGid : ℤ) (serviceIds : List String)
      (fingerprint reservationFingerprint : String)
  | acceptedAllocation (key : AllocationKey) (jobUid jobGid : ℤ) (serviceIds : List String)
  | recordReservation (key : AllocationKey) (record : ReservationRecord)
      (diagnostic : Option String)
  | restoreAcceptedAllocation (key : AllocationKey) (serviceIds : List String) (response : Json)
  | completeAllocation (key : AllocationKey) (state : AllocationState) (response : Json)
  | setAllocationState (key : AllocationKey) (state : AllocationState)
  | reservations (key : AllocationKey)
  | reservationContext (key : AllocationKey) (jobUid jobGid : ℤ)
  | allocationStatus (key : AllocationKey)

/-- What a journal method returns. -/
@[reducible] def Transaction.Result : Transaction → Type
  | .beginOperation .. => Option OperationRecord
  | .beginAllocation .. => AllocationPlan
  | .acceptedAllocation .. => Option Json
  | .reservations .. => List ReservationRecord
  | .reservationContext .. => List ReservationRecord
  | .allocationStatus .. => Option AllocationRow
  | _ => Unit

/-- A read leaves the journal as it is. -/
def Journal.read {α : Type} (result : Except PyError α) (j : Journal) :
    Except PyError (α × Journal) :=
  result.map fun a => (a, j)

/-- The transaction a journal method performs. -/
def Transaction.apply (j : Journal) : (t : Transaction) → Except PyError (t.Result × Journal)
  | .beginOperation key fingerprint => j.beginOperation key fingerprint
  | .completeOperation key response state => j.completeOperation key response state
  | .beginAllocation key jobUid jobGid serviceIds fingerprint reservationFingerprint =>
    j.beginAllocation key jobUid jobGid serviceIds fingerprint reservationFingerprint
  | .acceptedAllocation key jobUid jobGid serviceIds =>
    Journal.read (j.acceptedAllocation key jobUid jobGid serviceIds) j
  | .recordReservation key record diagnostic => .ok ((), j.recordReservation key record diagnostic)
  | .restoreAcceptedAllocation key serviceIds response =>
    j.restoreAcceptedAllocation key serviceIds response
  | .completeAllocation key state response => j.completeAllocation key state response
  | .setAllocationState key state => .ok ((), j.setAllocationState key state)
  | .reservations key => Journal.read (.ok (j.reservations key)) j
  | .reservationContext key jobUid jobGid =>
    Journal.read (j.reservationContext key jobUid jobGid) j
  | .allocationStatus key => Journal.read (.ok (j.allocation key)) j

/-! ### The verifier and the adapter -/

structure VerifiedJob where
  clusterName : String
  canonicalJobId : ℤ
  uid : ℤ
  gid : ℤ
  username : String
  account : Option String
  qos : Option String
  priority : Option ℤ
  state : String
  deriving DecidableEq

/-- How a verification ends without a job: `SlurmVerificationError`, or another exception. -/
inductive VerifierFailure where
  | refused (message : String)
  | unexpected (message : String)
  deriving DecidableEq

def VerifierFailure.error : VerifierFailure → PyError
  | .refused message => ⟨.slurmVerificationError, message⟩
  | .unexpected message => ⟨.other, message⟩

/-- How an adapter call fails: `QFwAdapterError`, or another exception. -/
inductive AdapterFailure where
  | adapter (message : String)
  | unexpected (message : String)
  deriving DecidableEq

def AdapterFailure.error : AdapterFailure → PyError
  | .adapter message => ⟨.qfwAdapterError, message⟩
  | .unexpected message => ⟨.other, message⟩

/-- A resolved QPM; the admission handle of the source is used by the adapter alone. -/
structure QPMBinding where
  serviceId : String
  runtimeId : String
  generation : ℤ
  deriving DecidableEq

/-- What `resolve` learns about a QPM: its incarnation and directory generation. -/
structure Incarnation where
  runtimeId : String
  generation : ℤ
  deriving DecidableEq

/-- The binding `resolve` returns for the service it was asked for. -/
def Incarnation.binding (incarnation : Incarnation) (serviceId : String) : QPMBinding :=
  ⟨serviceId, incarnation.runtimeId, incarnation.generation⟩

@[simp] lemma Incarnation.binding_serviceId (incarnation : Incarnation) (serviceId : String) :
    (incarnation.binding serviceId).serviceId = serviceId := rfl

@[simp] lemma Incarnation.binding_runtimeId (incarnation : Incarnation) (serviceId : String) :
    (incarnation.binding serviceId).runtimeId = incarnation.runtimeId := rfl

/-- The part of an admission result that the QPM decides. -/
structure Admission where
  decision : AdmissionDecision
  reasonCode : ℤ
  reservationId : Option ℤ
  retryAfterNs : Option ℤ
  estimatedStartNs : Option ℤ
  estimatedFinishNs : Option ℤ
  diagnostic : Option String
  deriving DecidableEq

/-- What `_normalize_admission` has checked of a reply to `reserve`: an accepted result has a
reservation id in the range of `uint64`, any other result has none. -/
def Admission.Reserved (admission : Admission) : Prop :=
  match admission.decision, admission.reservationId with
  | .accepted, some id => 0 < id ∧ id < 2 ^ 64
  | .accepted, none => False
  | _, id => id = none

/-- A normalized reply to `reserve`. -/
abbrev ReserveReply := { admission : Admission // admission.Reserved }

/-- The result `_normalize_admission` builds from a binding and the QPM's decision. -/
def Admission.result (binding : QPMBinding) (admission : Admission) : ServiceResult :=
  { serviceId := binding.serviceId
    decision := admission.decision
    reasonCode := admission.reasonCode
    reservationId := admission.reservationId
    retryAfterNs := admission.retryAfterNs
    estimatedStartNs := admission.estimatedStartNs
    estimatedFinishNs := admission.estimatedFinishNs
    qpmRuntimeId := some binding.runtimeId
    qpmGeneration := some binding.generation
    diagnostic := admission.diagnostic }

@[simp] lemma Admission.result_serviceId (binding : QPMBinding) (admission : Admission) :
    (admission.result binding).serviceId = binding.serviceId := rfl

@[simp] lemma Admission.result_decision (binding : QPMBinding) (admission : Admission) :
    (admission.result binding).decision = admission.decision := rfl

@[simp] lemma Admission.result_reservationId (binding : QPMBinding) (admission : Admission) :
    (admission.result binding).reservationId = admission.reservationId := rfl

/-- The mapping a QPM returns for a release, as far as the gateway reads it: the text of its
`status`. -/
structure ReleaseReply where
  status : String
  deriving DecidableEq

/-- `str.lower`, on the ASCII letters that the compared statuses consist of. -/
def lower (s : String) : String := String.ofList (s.toList.map Char.toLower)

/-- The statuses that confirm a release. -/
def ReleaseReply.confirms (reply : ReleaseReply) : Prop :=
  lower reply.status ∈ ["accepted", "released", "not-found"]

instance (reply : ReleaseReply) : Decidable reply.confirms := by
  unfold ReleaseReply.confirms
  infer_instance

/-- The calls to the verifier and the adapter. -/
inductive Call where
  | verifyReserve (request : ReserveRequest) (senderUid : ℤ)
  | verifyRelease (request : ReleaseRequest) (senderUid : ℤ) (expectedUid : Option ℤ)
  | verifyLookup (request : GetReservationsRequest) (senderUid : ℤ)
  | resolve (serviceId : String)
  | evaluate (binding : QPMBinding) (request : ReserveRequest) (job : VerifiedJob)
  | reserve (binding : QPMBinding) (request : ReserveRequest) (job : VerifiedJob)
  | release (binding : QPMBinding) (reservationId : Option ℤ) (reason : ℤ)

/-- Whether the call goes to the verifier. -/
def Call.isVerification : Call → Bool
  | .verifyReserve .. | .verifyRelease .. | .verifyLookup .. => true
  | _ => false

/-- What a call can return or raise. -/
@[reducible] def Call.Answer : Call → Type
  | .verifyReserve .. | .verifyRelease .. | .verifyLookup .. => Except VerifierFailure VerifiedJob
  | .resolve .. => Except AdapterFailure Incarnation
  | .evaluate .. => Except AdapterFailure Admission
  | .reserve .. => Except AdapterFailure ReserveReply
  | .release .. => Except AdapterFailure ReleaseReply

/-! ### Questions and answers -/

/-- A question of the gateway. -/
inductive Query where
  | transaction (t : Transaction)
  | call (c : Call)

/-- The answer to a question. -/
@[reducible] def Answer : Query → Type
  | .transaction t => Except PyError t.Result
  | .call c => c.Answer

/-- A question with its answer. -/
abbrev Event := Σ q : Query, Answer q

/-- The journal and the trace of what was asked so far. -/
abbrev GatewayWorld := World Journal Query Answer

/-- A gateway computation that may raise. -/
abbrev Gateway := Procedure Query Answer PyError

/-- One choice of answers of the verifier and the adapter: the answer to a call that is put after
`n` questions. -/
abbrev Oracle := ℕ → (c : Call) → c.Answer

/-- An exception of SQLite or of the journal.  `RollbackIncomplete` is not one: it is raised by the
service alone. -/
abbrev Fault := { error : PyError // error.errorClass ≠ .rollbackIncomplete }

/-- One choice of failing journal calls: the exception a transaction raises when it is begun after
`n` questions, if it fails. -/
abbrev Faults := ℕ → Transaction → Option Fault

/-- All journal calls succeed. -/
def noFaults : Faults := fun _ _ => none

/-- The surroundings of the gateway.  A transaction that fails leaves the journal as it was. -/
def surroundings (oracle : Oracle) (faults : Faults) : Environment Journal Query Answer
  | .transaction t, w =>
    match faults w.trace.length t with
    | some fault => (.error fault.val, w.state)
    | none =>
      match t.apply w.state with
      | .ok (result, j) => (.ok result, j)
      | .error error => (.error error, w.state)
  | .call c, w => (oracle w.trace.length c, w.state)

/-! ### The basic procedures -/

/-- Call a journal method. -/
def transact (t : Transaction) : Gateway t.Result :=
  ExceptT.mk (Program.question (Query.transaction t))

/-- Put a call and read its answer as a value or an exception. -/
def invoke {α : Type} (c : Call) (read : c.Answer → Except PyError α) : Gateway α :=
  ExceptT.mk (read <$> Program.question (Query.call c))

def verifyReserve (request : ReserveRequest) (senderUid : ℤ) : Gateway VerifiedJob :=
  invoke (.verifyReserve request senderUid) (Except.mapError VerifierFailure.error)

def verifyRelease (request : ReleaseRequest) (senderUid : ℤ) (expectedUid : Option ℤ) :
    Gateway VerifiedJob :=
  invoke (.verifyRelease request senderUid expectedUid) (Except.mapError VerifierFailure.error)

def verifyLookup (request : GetReservationsRequest) (senderUid : ℤ) : Gateway VerifiedJob :=
  invoke (.verifyLookup request senderUid) (Except.mapError VerifierFailure.error)

def resolve (serviceId : String) : Gateway QPMBinding := do
  let incarnation ← invoke (.resolve serviceId) (Except.mapError AdapterFailure.error)
  return incarnation.binding serviceId

def adapterEvaluate (binding : QPMBinding) (request : ReserveRequest) (job : VerifiedJob) :
    Gateway ServiceResult := do
  let admission ← invoke (.evaluate binding request job) (Except.mapError AdapterFailure.error)
  return admission.result binding

def adapterReserve (binding : QPMBinding) (request : ReserveRequest) (job : VerifiedJob) :
    Gateway ServiceResult := do
  let reply ← invoke (.reserve binding request job) (Except.mapError AdapterFailure.error)
  return reply.val.result binding

def adapterRelease (binding : QPMBinding) (reservationId : Option ℤ) (reason : ℤ) :
    Gateway ReleaseReply :=
  invoke (.release binding reservationId reason) (Except.mapError AdapterFailure.error)

/-! ### Executing the basic procedures -/

section Executing

variable (oracle : Oracle) (faults : Faults) (w : GatewayWorld)

/-- A transaction either fails and leaves the journal alone, or is applied to it; both are
recorded. -/
lemma exec_transact (t : Transaction) :
    Procedure.exec (surroundings oracle faults) (transact t) w =
      match faults w.trace.length t with
      | some fault => (.error fault.val, ⟨w.state, w.trace ++ [⟨.transaction t, .error fault.val⟩]⟩)
      | none =>
        match t.apply w.state with
        | .ok (result, j) => (.ok result, ⟨j, w.trace ++ [⟨.transaction t, .ok result⟩]⟩)
        | .error error => (.error error, ⟨w.state, w.trace ++ [⟨.transaction t, .error error⟩]⟩) := by
  rw [transact, Procedure.exec_mk, Program.run_question]
  simp only [Environment.respond, surroundings]
  cases faults w.trace.length t with
  | some fault => rfl
  | none =>
    cases t.apply w.state with
    | ok applied => rfl
    | error error => rfl

/-- A transaction when journal calls succeed. -/
lemma exec_transact_noFaults (t : Transaction) :
    Procedure.exec (surroundings oracle noFaults) (transact t) w =
      match t.apply w.state with
      | .ok (result, j) => (.ok result, ⟨j, w.trace ++ [⟨.transaction t, .ok result⟩]⟩)
      | .error error => (.error error, ⟨w.state, w.trace ++ [⟨.transaction t, .error error⟩]⟩) :=
  exec_transact oracle noFaults w t

/-- A call is answered by the oracle and leaves the journal alone. -/
lemma exec_invoke {α : Type} (c : Call) (read : c.Answer → Except PyError α) :
    Procedure.exec (surroundings oracle faults) (invoke c read) w =
      (read (oracle w.trace.length c),
        ⟨w.state, w.trace ++ [⟨.call c, oracle w.trace.length c⟩]⟩) :=
  rfl

lemma exec_resolve (serviceId : String) :
    Procedure.exec (surroundings oracle faults) (resolve serviceId) w =
      match oracle w.trace.length (.resolve serviceId) with
      | .ok qpm =>
        (.ok (qpm.binding serviceId), ⟨w.state, w.trace ++ [⟨.call (.resolve serviceId), .ok qpm⟩]⟩)
      | .error failure =>
        (.error failure.error,
          ⟨w.state, w.trace ++ [⟨.call (.resolve serviceId), .error failure⟩]⟩) := by
  rw [resolve, Procedure.exec_bind, exec_invoke]
  cases h : oracle w.trace.length (.resolve serviceId) <;> rfl

lemma exec_adapterEvaluate (binding : QPMBinding) (request : ReserveRequest) (job : VerifiedJob) :
    Procedure.exec (surroundings oracle faults) (adapterEvaluate binding request job) w =
      match oracle w.trace.length (.evaluate binding request job) with
      | .ok admission =>
        (.ok (admission.result binding),
          ⟨w.state, w.trace ++ [⟨.call (.evaluate binding request job), .ok admission⟩]⟩)
      | .error failure =>
        (.error failure.error,
          ⟨w.state, w.trace ++ [⟨.call (.evaluate binding request job), .error failure⟩]⟩) := by
  rw [adapterEvaluate, Procedure.exec_bind, exec_invoke]
  cases h : oracle w.trace.length (.evaluate binding request job) <;> rfl

lemma exec_adapterReserve (binding : QPMBinding) (request : ReserveRequest) (job : VerifiedJob) :
    Procedure.exec (surroundings oracle faults) (adapterReserve binding request job) w =
      match oracle w.trace.length (.reserve binding request job) with
      | .ok reply =>
        (.ok (reply.val.result binding),
          ⟨w.state, w.trace ++ [⟨.call (.reserve binding request job), .ok reply⟩]⟩)
      | .error failure =>
        (.error failure.error,
          ⟨w.state, w.trace ++ [⟨.call (.reserve binding request job), .error failure⟩]⟩) := by
  rw [adapterReserve, Procedure.exec_bind, exec_invoke]
  cases h : oracle w.trace.length (.reserve binding request job) <;> rfl

lemma exec_adapterRelease (binding : QPMBinding) (reservationId : Option ℤ) (reason : ℤ) :
    Procedure.exec (surroundings oracle faults) (adapterRelease binding reservationId reason) w =
      match oracle w.trace.length (.release binding reservationId reason) with
      | .ok reply =>
        (.ok reply,
          ⟨w.state, w.trace ++ [⟨.call (.release binding reservationId reason), .ok reply⟩]⟩)
      | .error failure =>
        (.error failure.error,
          ⟨w.state, w.trace ++ [⟨.call (.release binding reservationId reason), .error failure⟩]⟩) := by
  rw [adapterRelease, exec_invoke]
  cases h : oracle w.trace.length (.release binding reservationId reason) <;> rfl

end Executing

end QfwSlurm
