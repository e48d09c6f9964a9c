import QfwSlurm.Gateway.Service
import QfwSlurm.Gateway.Trace

/-!
# One attempt at the QPMs

`_reserve_services` contacts the requested services one after the other and gives everything back
as soon as one of them does not accept.  This module says what such an attempt is, apart from the
code: a list of `Grant`s and, unless every service accepted, a `Stop`, which consists of the
service that ended the attempt, the way its `Contact` ended, and a `Rollback` of the grants.

An `Attempt` determines the events it leaves in the trace, the rows it writes and the value it
returns.  `exec_reserveServices` is the connection with the code: every run of `reserveServices`,
with any answers of the adapter and any failing journal calls, is such an attempt.  Everything said
about reservations later is derived from it.
-/

namespace QfwSlurm

open Interaction

/-! ### Grants -/

/-- A reservation granted during an attempt: the service, its QPM, and the accepted reply. -/
structure Grant where
  /-- The service that was asked. -/
  serviceId : String
  /-- The QPM that was resolved for it. -/
  qpm : Incarnation
  /-- What the QPM replied. -/
  reply : ReserveReply
  /-- The QPM accepted. -/
  accepted : reply.val.decision = .accepted

namespace Grant

variable (g : Grant)

/-- The binding the reservation was made at. -/
def binding : QPMBinding := g.qpm.binding g.serviceId

/-- The result the adapter made of the reply. -/
def result : ServiceResult := g.reply.val.result g.binding

/-- The entry of the list `accepted` of the source. -/
def entry : QPMBinding × ServiceResult := (g.binding, g.result)

/-- The granted reservation id. -/
def id : ℤ := g.reply.val.reservationId.getD 0

/-- An accepted reply carries an id. -/
lemma reservationId_eq : g.reply.val.reservationId = some g.id := by
  cases hid : g.reply.val.reservationId with
  | some id => simp [Grant.id, hid]
  | none =>
    have hreserved := g.reply.property
    simp [Admission.Reserved, g.accepted, hid] at hreserved

@[simp] lemma binding_serviceId : g.binding.serviceId = g.serviceId := rfl

@[simp] lemma result_serviceId : g.result.serviceId = g.serviceId := rfl

@[simp] lemma result_decision : g.result.decision = .accepted := g.accepted

@[simp] lemma result_reservationId : g.result.reservationId = some g.id := g.reservationId_eq

/-- The service and the id. -/
def pair : String × ℤ := (g.serviceId, g.id)

end Grant

/-! ### Contacts -/

/-- How the guarded statements for one service end. -/
inductive Contact where
  /-- `resolve` raised. -/
  | unresolved (failure : AdapterFailure)
  /-- The `pending` row could not be written. -/
  | unmarked (qpm : Incarnation) (fault : PyError)
  /-- `reserve` raised. -/
  | unanswered (qpm : Incarnation) (failure : AdapterFailure)
  /-- The QPM answered, and its answer could not be written. -/
  | unrecorded (qpm : Incarnation) (reply : ReserveReply) (fault : PyError)
  /-- The QPM answered, and its answer was written. -/
  | answered (qpm : Incarnation) (reply : ReserveReply)

/-- The `pending` row of a service that is about to be asked. -/
def pendingRecord (serviceId : String) (qpm : Incarnation) (fingerprint : String) :
    ReservationRecord :=
  { serviceId := serviceId
    reservationId := none
    qpmRuntimeId := some qpm.runtimeId
    qpmGeneration := some qpm.generation
    state := .pending
    requestFingerprint := some fingerprint }

/-- The row of a service whose QPM has answered. -/
def answeredRecord (serviceId : String) (qpm : Incarnation) (reply : ReserveReply)
    (fingerprint : String) : ReservationRecord :=
  { serviceId := serviceId
    reservationId := reply.val.reservationId
    qpmRuntimeId := some qpm.runtimeId
    qpmGeneration := some qpm.generation
    state := reply.val.decision.recordState
    requestFingerprint := some fingerprint }

/-- A write of a reservation row with its outcome. -/
def recordEvent (key : AllocationKey) (record : ReservationRecord) (diagnostic : Option String)
    (outcome : Except PyError Unit) : Event :=
  ⟨.transaction (.recordReservation key record diagnostic), outcome⟩

namespace Contact

/-- How the guarded statements end: with a binding and a result, or with an exception. -/
def outcome (serviceId : String) : Contact → Except Interrupted (QPMBinding × ServiceResult)
  | unresolved failure => .error ⟨failure.error, none, none⟩
  | unmarked qpm fault => .error ⟨fault, some (qpm.binding serviceId), none⟩
  | unanswered qpm failure => .error ⟨failure.error, some (qpm.binding serviceId), none⟩
  | unrecorded qpm reply fault =>
    .error ⟨fault, some (qpm.binding serviceId), some (reply.val.result (qpm.binding serviceId))⟩
  | answered qpm reply => .ok (qpm.binding serviceId, reply.val.result (qpm.binding serviceId))

/-- The events of the contact. -/
def events (request : ReserveRequest) (job : VerifiedJob) (fingerprint serviceId : String) :
    Contact → List Event
  | unresolved failure => [⟨.call (.resolve serviceId), .error failure⟩]
  | unmarked qpm fault =>
    [⟨.call (.resolve serviceId), .ok qpm⟩,
      recordEvent request.key (pendingRecord serviceId qpm fingerprint) none (.error fault)]
  | unanswered qpm failure =>
    [⟨.call (.resolve serviceId), .ok qpm⟩,
      recordEvent request.key (pendingRecord serviceId qpm fingerprint) none (.ok ()),
      ⟨.call (.reserve (qpm.binding serviceId) request job), .error failure⟩]
  | unrecorded qpm reply fault =>
    [⟨.call (.resolve serviceId), .ok qpm⟩,
      recordEvent request.key (pendingRecord serviceId qpm fingerprint) none (.ok ()),
      ⟨.call (.reserve (qpm.binding serviceId) request job), .ok reply⟩,
      recordEvent request.key (answeredRecord serviceId qpm reply fingerprint) none (.error fault)]
  | answered qpm reply =>
    [⟨.call (.resolve serviceId), .ok qpm⟩,
      recordEvent request.key (pendingRecord serviceId qpm fingerprint) none (.ok ()),
      ⟨.call (.reserve (qpm.binding serviceId) request job), .ok reply⟩,
      recordEvent request.key (answeredRecord serviceId qpm reply fingerprint) none (.ok ())]

/-- The rows the contact writes. -/
def writes (fingerprint serviceId : String) : Contact → List (String × ReservationRow)
  | unresolved _ => []
  | unmarked _ _ => []
  | unanswered qpm _ => [(serviceId, (pendingRecord serviceId qpm fingerprint).row none)]
  | unrecorded qpm _ _ => [(serviceId, (pendingRecord serviceId qpm fingerprint).row none)]
  | answered qpm reply =>
    [(serviceId, (pendingRecord serviceId qpm fingerprint).row none),
      (serviceId, (answeredRecord serviceId qpm reply fingerprint).row none)]

/-- The contact ended with an accepted result in the journal. -/
def accepts : Contact → Bool
  | answered _ reply => reply.val.decision = .accepted
  | _ => false

/-- The reservation that was granted and not recorded, if there is one. -/
def unrecordedGrant (serviceId : String) : Contact → List Grant
  | unrecorded qpm reply _ =>
    if h : reply.val.decision = .accepted then [⟨serviceId, qpm, reply, h⟩] else []
  | _ => []

/-- No journal call of the contact failed. -/
def Faultless : Contact → Prop
  | unmarked _ _ | unrecorded _ _ _ => False
  | _ => True

/-- No exception of a contact is a `RollbackIncomplete`. -/
def Foreseen : Contact → Prop
  | unmarked _ fault | unrecorded _ _ fault => fault.errorClass ≠ .rollbackIncomplete
  | _ => True

end Contact

/-- The contact of a grant. -/
def Grant.contact (g : Grant) : Contact := .answered g.qpm g.reply

section Contacts

variable (oracle : Oracle) (faults : Faults) (request : ReserveRequest) (job : VerifiedJob)
  (fingerprint : String)

/-- A write of a reservation row, with any failing journal calls. -/
lemma exec_recordReservation (key : AllocationKey) (record : ReservationRecord)
    (diagnostic : Option String) (w : GatewayWorld) :
    ∃ outcome : Except PyError Unit,
      Procedure.exec (surroundings oracle faults)
        (transact (.recordReservation key record diagnostic)) w =
        (outcome,
          ⟨match outcome with
            | .ok () => w.state.putReservation key record.serviceId (record.row diagnostic)
            | .error _ => w.state,
            w.trace ++ [recordEvent key record diagnostic outcome]⟩) ∧
      (faults = noFaults → outcome = .ok ()) ∧
      ∀ error, outcome = .error error → error.errorClass ≠ .rollbackIncomplete := by
  rw [exec_transact]
  cases hfault : faults w.trace.length (.recordReservation key record diagnostic) with
  | some fault =>
    refine ⟨.error fault.val, rfl, ?_, ?_⟩
    · rintro rfl
      cases hfault
    · rintro error ⟨⟩
      exact fault.property
  | none => exact ⟨.ok (), rfl, fun _ => rfl, fun error h => by cases h⟩

/-- Every run of `contact` is a `Contact`. -/
theorem exec_contact (serviceId : String) (w : GatewayWorld) :
    ∃ c : Contact,
      Procedure.exec (surroundings oracle faults) (contact request job serviceId fingerprint) w =
        (c.outcome serviceId,
          ⟨w.state.writeAll request.key (c.writes fingerprint serviceId),
            w.trace ++ c.events request job fingerprint serviceId⟩) ∧
      (faults = noFaults → c.Faultless) ∧ c.Foreseen := by
  unfold contact
  rw [Procedure.exec_bind, Procedure.exec_adapt, exec_resolve]
  cases hqpm : oracle w.trace.length (.resolve serviceId) with
  | error failure => exact ⟨.unresolved failure, rfl, fun _ => trivial, trivial⟩
  | ok qpm =>
    dsimp only
    rw [Procedure.exec_bind, Procedure.exec_adapt]
    obtain ⟨marked, hmarked, hok, hclass⟩ := exec_recordReservation oracle faults request.key
      (pendingRecord serviceId qpm fingerprint) none
      ⟨w.state, w.trace ++ [⟨.call (.resolve serviceId), .ok qpm⟩]⟩
    simp only [pendingRecord] at hmarked
    rw [show (qpm.binding serviceId).runtimeId = qpm.runtimeId from rfl,
      show (qpm.binding serviceId).generation = qpm.generation from rfl, hmarked]
    cases marked with
    | error fault =>
      refine ⟨.unmarked qpm fault, ?_, fun h => (nomatch hok h), hclass fault rfl⟩
      simp [Contact.outcome, Contact.events, Contact.writes, pendingRecord]
    | ok u =>
      dsimp only
      rw [Procedure.exec_bind, Procedure.exec_adapt, exec_adapterReserve]
      generalize oracle _ (.reserve (qpm.binding serviceId) request job) = answer
      cases answer with
      | error failure =>
        refine ⟨.unanswered qpm failure, ?_, fun _ => trivial, trivial⟩
        simp [Contact.outcome, Contact.events, Contact.writes, pendingRecord]
      | ok reply =>
        dsimp only
        rw [Procedure.exec_bind, Procedure.exec_adapt]
        obtain ⟨recorded, hrecorded, hok, hclass⟩ := exec_recordReservation oracle faults request.key
          (answeredRecord serviceId qpm reply fingerprint) none _
        simp only [answeredRecord] at hrecorded
        rw [show (reply.val.result (qpm.binding serviceId)).reservationId = reply.val.reservationId
            from rfl,
          show (reply.val.result (qpm.binding serviceId)).decision = reply.val.decision from rfl,
          hrecorded]
        cases recorded with
        | error fault =>
          refine ⟨.unrecorded qpm reply fault, ?_, fun h => (nomatch hok h), hclass fault rfl⟩
          simp [Contact.outcome, Contact.events, Contact.writes, pendingRecord, answeredRecord]
        | ok u =>
          refine ⟨.answered qpm reply, ?_, fun _ => trivial, trivial⟩
          simp [Contact.outcome, Contact.events, Contact.writes, pendingRecord, answeredRecord,
            Journal.writeAll]

end Contacts

/-! ### Rollbacks -/

/-- One pass of the rollback loop: the grant, what its release returned, and whether the journal
took the row. -/
structure Undo where
  grant : Grant
  answer : Except AdapterFailure ReleaseReply
  write : Except PyError Unit

namespace Undo

variable (u : Undo)

/-- The state `_rollback` journals. -/
def state : RecordState :=
  match u.answer with
  | .ok _ => .rolledBack
  | .error _ => .rollbackFailed

/-- The diagnostic `_rollback` journals. -/
def diagnostic : Option String :=
  match u.answer with
  | .ok _ => none
  | .error failure => some (boundedDiagnostic failure.error.message)

/-- The row `_rollback` journals. -/
def record (fingerprint : String) : ReservationRecord :=
  { serviceId := u.grant.serviceId
    reservationId := some u.grant.id
    qpmRuntimeId := some u.grant.qpm.runtimeId
    qpmGeneration := some u.grant.qpm.generation
    state := u.state
    requestFingerprint := some fingerprint }

/-- The texts the pass adds to `failures`. -/
def failures : List String :=
  (match u.answer with
    | .ok _ => []
    | .error failure => [boundedDiagnostic failure.error.message]) ++
  match u.write with
  | .ok _ => []
  | .error error => [error.message]

/-- The events of the pass. -/
def events (key : AllocationKey) (fingerprint : String) : List Event :=
  [⟨.call (.release u.grant.binding (some u.grant.id) 1), u.answer⟩,
    recordEvent key (u.record fingerprint) u.diagnostic u.write]

/-- The row the pass leaves in the journal. -/
def writes (fingerprint : String) : List (String × ReservationRow) :=
  match u.write with
  | .ok _ => [(u.grant.serviceId, (u.record fingerprint).row u.diagnostic)]
  | .error _ => []

end Undo

/-- A run of `_rollback`. -/
structure Rollback where
  /-- Whether the allocation could be marked `rolling-back`. -/
  mark : Except PyError Unit
  /-- The passes of the loop, in order. -/
  undos : List Undo

namespace Rollback

variable (r : Rollback)

/-- The texts `_rollback` collects. -/
def failures : List String :=
  (match r.mark with
    | .ok _ => []
    | .error error => [error.message]) ++ r.undos.flatMap Undo.failures

/-- The transaction a rollback begins with. -/
def markEvent (key : AllocationKey) : Event :=
  ⟨.transaction (.setAllocationState key .rollingBack), r.mark⟩

/-- The events of the rollback. -/
def events (key : AllocationKey) (fingerprint : String) : List Event :=
  r.markEvent key :: r.undos.flatMap fun u => u.events key fingerprint

/-- The journal after the rollback. -/
def journal (key : AllocationKey) (fingerprint : String) (j : Journal) : Journal :=
  (match r.mark with
    | .ok _ => j.setAllocationState key .rollingBack
    | .error _ => j).writeAll key (r.undos.flatMap (Undo.writes · fingerprint))

/-- No journal call of the rollback failed. -/
def Faultless : Prop := r.mark = .ok () ∧ ∀ u ∈ r.undos, u.write = .ok ()

/-- A rollback is complete when nothing failed. -/
lemma failures_eq_nil :
    r.failures = [] ↔
      r.mark = .ok () ∧ ∀ u ∈ r.undos, (∃ reply, u.answer = .ok reply) ∧ u.write = .ok () := by
  have hmark : (match r.mark with
      | .ok _ => []
      | .error error => [error.message]) = ([] : List String) ↔ r.mark = .ok () := by
    cases r.mark <;> simp
  have hundo (u : Undo) : u.failures = [] ↔ (∃ reply, u.answer = .ok reply) ∧ u.write = .ok () := by
    unfold Undo.failures
    cases u.answer <;> cases u.write <;> simp
  simp only [failures, List.append_eq_nil_iff, hmark, List.flatMap_eq_nil_iff, hundo]

end Rollback

section Rollbacks

variable (oracle : Oracle) (faults : Faults) (sha256 : Document → String)
  (request : ReserveRequest)

/-- Every run of `rollbackOne` is a pass. -/
lemma exec_rollbackOne (g : Grant) (failures : List String) (w : GatewayWorld) :
    ∃ u : Undo, u.grant = g ∧
      Procedure.exec (surroundings oracle faults)
        (rollbackOne sha256 request g.binding g.result failures) w =
        (.ok (failures ++ u.failures),
          ⟨w.state.writeAll request.key (u.writes (sha256 (reservationDocument request))),
            w.trace ++ u.events request.key (sha256 (reservationDocument request))⟩) ∧
      (faults = noFaults → u.write = .ok ()) := by
  unfold rollbackOne
  rw [Procedure.exec_bind, Procedure.exec_tryCatch, Procedure.exec_bind, exec_adapterRelease,
    g.result_reservationId]
  generalize oracle w.trace.length (.release g.binding (some g.id) 1) = answer
  obtain ⟨recorded, hrecorded, hok, -⟩ := exec_recordReservation oracle faults request.key
    ((Undo.mk g answer (.ok ())).record (sha256 (reservationDocument request)))
    (Undo.mk g answer (.ok ())).diagnostic
    ⟨w.state, w.trace ++ [⟨.call (.release g.binding (some g.id) 1), answer⟩]⟩
  simp only [Undo.record] at hrecorded
  refine ⟨⟨g, answer, recorded⟩, rfl, ?_, hok⟩
  cases answer with
  | ok reply =>
    simp only [Procedure.exec_pure, Procedure.exec_tryCatch, Procedure.exec_bind]
    erw [hrecorded]
    cases recorded <;>
      simp [Undo.failures, Undo.writes, Undo.events, Undo.record, Undo.state, Undo.diagnostic]
  | error failure =>
    simp only [Procedure.exec_pure, Procedure.exec_tryCatch, Procedure.exec_bind]
    erw [hrecorded]
    cases recorded <;>
      simp [Undo.failures, Undo.writes, Undo.events, Undo.record, Undo.state, Undo.diagnostic]

/-- Every run of `rollbackLoop` is a list of passes, one for each grant. -/
theorem exec_rollbackLoop (grants : List Grant) (failures : List String) (w : GatewayWorld) :
    ∃ undos : List Undo, undos.map Undo.grant = grants ∧
      Procedure.exec (surroundings oracle faults)
        (rollbackLoop sha256 request (grants.map Grant.entry) failures) w =
        (.ok (failures ++ undos.flatMap Undo.failures),
          ⟨w.state.writeAll request.key
              (undos.flatMap (Undo.writes · (sha256 (reservationDocument request)))),
            w.trace ++
              undos.flatMap (Undo.events · request.key (sha256 (reservationDocument request)))⟩) ∧
      (faults = noFaults → ∀ u ∈ undos, u.write = .ok ()) := by
  induction grants generalizing failures w with
  | nil => exact ⟨[], rfl, by simp [rollbackLoop], fun _ u hu => by cases hu⟩
  | cons g grants ih =>
    obtain ⟨u, hu, hexec, hwrite⟩ := exec_rollbackOne oracle faults sha256 request g failures w
    rw [List.map_cons, Grant.entry, rollbackLoop, Procedure.exec_bind, hexec]
    dsimp only
    obtain ⟨undos, hundos, hrest, hwrites⟩ := ih (failures ++ u.failures) _
    rw [hrest]
    refine ⟨u :: undos, by rw [List.map_cons, hu, hundos], ?_, fun h v hv => ?_⟩
    · simp
    · rcases List.mem_cons.mp hv with rfl | hv
      · exact hwrite h
      · exact hwrites h v hv

/-- Every run of `rollback` is a `Rollback` of its grants, latest first. -/
theorem exec_rollback (grants : List Grant) (w : GatewayWorld) :
    ∃ r : Rollback, r.undos.map Undo.grant = grants.reverse ∧
      Procedure.exec (surroundings oracle faults)
        (rollback sha256 request (grants.map Grant.entry)) w =
        (if r.failures = [] then .ok ()
          else .error ⟨.rollbackIncomplete, "allocation rollback was incomplete"⟩,
          ⟨r.journal request.key (sha256 (reservationDocument request)) w.state,
            w.trace ++ r.events request.key (sha256 (reservationDocument request))⟩) ∧
      (faults = noFaults → r.Faultless) := by
  have hmark : ∃ mark : Except PyError Unit,
      Procedure.exec (surroundings oracle faults)
        (transact (.setAllocationState request.key .rollingBack)) w =
        (mark, ⟨match mark with
            | .ok _ => w.state.setAllocationState request.key .rollingBack
            | .error _ => w.state,
          w.trace ++ [⟨.transaction (.setAllocationState request.key .rollingBack), mark⟩]⟩) ∧
      (faults = noFaults → mark = .ok ()) := by
    rw [exec_transact]
    cases hfault : faults w.trace.length (.setAllocationState request.key .rollingBack) with
    | some fault =>
      refine ⟨.error fault.val, rfl, ?_⟩
      rintro rfl
      cases hfault
    | none => exact ⟨.ok (), rfl, fun _ => rfl⟩
  obtain ⟨mark, hmark, hmarkOk⟩ := hmark
  unfold rollback
  rw [Procedure.exec_bind, Procedure.exec_tryCatch, Procedure.exec_bind, hmark, ← List.map_reverse]
  obtain ⟨undos, hundos, hloop, hwrites⟩ := exec_rollbackLoop oracle faults sha256 request
    grants.reverse
    (match mark with
      | .ok _ => []
      | .error error => [error.message])
    ⟨match mark with
        | .ok _ => w.state.setAllocationState request.key .rollingBack
        | .error _ => w.state,
      w.trace ++ [⟨.transaction (.setAllocationState request.key .rollingBack), mark⟩]⟩
  refine ⟨⟨mark, undos⟩, hundos, ?_, fun h => ⟨hmarkOk h, hwrites h⟩⟩
  cases mark with
  | ok u =>
    simp only [Procedure.exec_pure, Procedure.exec_bind, hloop, Rollback.failures,
      Rollback.journal, Rollback.events, Rollback.markEvent]
    split_ifs <;> simp_all
  | error error =>
    simp only [Procedure.exec_pure, Procedure.exec_bind, hloop, Rollback.failures,
      Rollback.journal, Rollback.events, Rollback.markEvent]
    split_ifs <;> simp_all

end Rollbacks

/-! ### Attempts -/

/-- What ended an attempt: the service, the way its contact ended, and the rollback. -/
structure Stop where
  serviceId : String
  contact : Contact
  rollback : Rollback

/-- An attempt: the grants, in order, and what ended it, unless every service accepted. -/
structure Attempt where
  grants : List Grant
  stop : Option Stop

/-- The services of an attempt are those it was made for, in order, up to the one that ended it,
and the rollback gives back every grant, latest first. -/
def Attempt.For (a : Attempt) (serviceIds : List String) : Prop :=
  match a.stop with
  | none => a.grants.map Grant.serviceId = serviceIds
  | some stop =>
    (∃ rest, serviceIds = a.grants.map Grant.serviceId ++ stop.serviceId :: rest) ∧
    stop.contact.accepts = false ∧ stop.contact.Foreseen ∧
    stop.rollback.undos.map Undo.grant =
      (a.grants ++ stop.contact.unrecordedGrant stop.serviceId).reverse

/-- No journal call of the attempt failed. -/
def Attempt.Faultless (a : Attempt) : Prop :=
  ∀ stop, a.stop = some stop → stop.contact.Faultless ∧ stop.rollback.Faultless

/-- What `_reserve_services` returns or raises once the rollback of `grants` is complete. -/
def Contact.conclusion (requestId : ℤ) (grants : List Grant) (serviceId : String) (c : Contact) :
    Except PyError ReserveResponse :=
  match c.outcome serviceId with
  | .ok (_, result) =>
    .ok ⟨requestId, result.decision,
      grants.map (fun g => rolledBackResult result g.result) ++ [result]⟩
  | .error interrupted => .error interrupted.error

/-- What `_reserve_services` raises when the rollback is not complete. -/
def Contact.incomplete (serviceId : String) (c : Contact) : PyError :=
  match c.outcome serviceId with
  | .ok _ => ⟨.rollbackIncomplete, "allocation rollback was incomplete"⟩
  | .error _ =>
    let cause := "allocation rollback was incomplete"
    ⟨.rollbackIncomplete, s!"reserve failed and rollback was incomplete: {cause}"⟩

namespace Stop

/-- What `_reserve_services` returns or raises when it stops after `grants`. -/
def result (requestId : ℤ) (grants : List Grant) (stop : Stop) : Except PyError ReserveResponse :=
  if stop.rollback.failures = [] then stop.contact.conclusion requestId grants stop.serviceId
  else .error (stop.contact.incomplete stop.serviceId)

end Stop

namespace Attempt

variable (a : Attempt)

/-- What `_reserve_services` returns or raises. -/
def result (requestId : ℤ) : Except PyError ReserveResponse :=
  match a.stop with
  | none => .ok ⟨requestId, .accepted, a.grants.map Grant.result⟩
  | some stop => stop.result requestId a.grants

/-- An attempt that raises was stopped. -/
lemma isSome_of_error {requestId : ℤ} {error : PyError} (h : a.result requestId = .error error) :
    a.stop.isSome := by
  cases hstop : a.stop with
  | none => simp [Attempt.result, hstop] at h
  | some stop => rfl

/-- The response of an attempt carries the id of the request. -/
lemma requestId_of_ok {a : Attempt} {requestId : ℤ} {response : ReserveResponse}
    (h : a.result requestId = .ok response) : response.requestId = requestId := by
  unfold Attempt.result at h
  cases hstop : a.stop with
  | none =>
    rw [hstop] at h
    cases h
    rfl
  | some stop =>
    simp only [hstop, Stop.result] at h
    split_ifs at h
    cases hc : stop.contact with
    | answered qpm reply =>
      rw [hc] at h
      cases h
      rfl
    | _ => simp [Contact.conclusion, Contact.outcome, hc] at h

/-- An attempt returns `ACCEPTED` exactly when nothing stopped it. -/
lemma accepted_iff {a : Attempt} {serviceIds : List String} (hfor : a.For serviceIds)
    (requestId : ℤ) :
    (∃ response, a.result requestId = .ok response ∧ response.decision = .accepted) ↔
      a.stop = none := by
  cases hstop : a.stop with
  | none => exact ⟨fun _ => rfl, fun _ => ⟨_, by rw [Attempt.result, hstop], rfl⟩⟩
  | some stop =>
    simp only [Attempt.For, hstop] at hfor
    obtain ⟨-, haccepts, -, -⟩ := hfor
    refine ⟨?_, fun h => nomatch h⟩
    rintro ⟨response, hresult, hdecision⟩
    simp only [Attempt.result, hstop, Stop.result] at hresult
    split_ifs at hresult
    cases hc : stop.contact with
    | answered qpm reply =>
      simp only [Contact.conclusion, Contact.outcome, hc, Except.ok.injEq] at hresult
      rw [← hresult] at hdecision
      simp [hc, Contact.accepts, show reply.val.decision = .accepted from hdecision] at haccepts
    | _ => simp [Contact.conclusion, Contact.outcome, hc] at hresult

end Attempt

section Attempts

variable (oracle : Oracle) (faults : Faults) (sha256 : Document → String)
  (request : ReserveRequest) (job : VerifiedJob) (fingerprint : String)

/-- The events of the grants of an attempt. -/
def grantEvents (grants : List Grant) : List Event :=
  grants.flatMap fun g => g.contact.events request job fingerprint g.serviceId

/-- The rows written for the grants of an attempt. -/
def grantWrites (grants : List Grant) : List (String × ReservationRow) :=
  grants.flatMap fun g => g.contact.writes fingerprint g.serviceId

/-- The events of the end of an attempt. -/
def Stop.events (stop : Stop) : List Event :=
  stop.contact.events request job fingerprint stop.serviceId ++
    stop.rollback.events request.key (sha256 (reservationDocument request))

/-- The journal after the end of an attempt. -/
def Stop.journal (stop : Stop) (j : Journal) : Journal :=
  stop.rollback.journal request.key (sha256 (reservationDocument request))
    (j.writeAll request.key (stop.contact.writes fingerprint stop.serviceId))

/-- The events of an attempt. -/
def Attempt.events (a : Attempt) : List Event :=
  grantEvents request job fingerprint a.grants ++
    (a.stop.elim [] (Stop.events sha256 request job fingerprint))

/-- The journal after an attempt. -/
def Attempt.journal (a : Attempt) (j : Journal) : Journal :=
  a.stop.elim id (Stop.journal sha256 request fingerprint)
    (j.writeAll request.key (grantWrites fingerprint a.grants))

/-- The results to roll back after an exception are the grants so far and the one that was not
recorded. -/
lemma pending_eq {c : Contact} {serviceId : String} {interrupted : Interrupted}
    (h : c.outcome serviceId = .error interrupted) (grants : List Grant) :
    interrupted.pending (grants.map Grant.entry) =
      (grants ++ c.unrecordedGrant serviceId).map Grant.entry := by
  cases c with
  | unrecorded qpm reply fault =>
    cases h
    by_cases haccepted : reply.val.decision = .accepted
    · have hdecision : (reply.val.result (qpm.binding serviceId)).decision = .accepted := haccepted
      simp only [Interrupted.pending, hdecision, if_true, Contact.unrecordedGrant, haccepted,
        dif_pos, List.map_append]
      rfl
    · simp [Interrupted.pending, Contact.unrecordedGrant, haccepted]
  | answered qpm reply => cases h
  | _ =>
    cases h
    simp [Interrupted.pending, Contact.unrecordedGrant]

/-- The statements after a contact that did not accept. -/
lemma exec_stop {c : Contact} (serviceId : String) (rest : List String) (grants : List Grant)
    (hc : c.accepts = false) (w : GatewayWorld) :
    ∃ r : Rollback,
      r.undos.map Undo.grant = (grants ++ c.unrecordedGrant serviceId).reverse ∧
      Procedure.exec (surroundings oracle faults)
        (match c.outcome serviceId with
          | .error interrupted => abandon sha256 request (grants.map Grant.entry) interrupted
          | .ok (binding, result) =>
            if result.decision = .accepted then
              reserveLoop sha256 request job fingerprint rest
                (grants.map Grant.entry ++ [(binding, result)])
                (grants.map Grant.result ++ [result])
            else do
              rollback sha256 request (grants.map Grant.entry)
              return ⟨request.requestId, result.decision,
                (grants.map Grant.entry).map (fun item => rolledBackResult result item.2) ++
                  [result]⟩) w =
        (Stop.result request.requestId grants ⟨serviceId, c, r⟩,
          ⟨r.journal request.key (sha256 (reservationDocument request)) w.state,
            w.trace ++ r.events request.key (sha256 (reservationDocument request))⟩) ∧
      (faults = noFaults → r.Faultless) := by
  cases houtcome : c.outcome serviceId with
  | error interrupted =>
    obtain ⟨r, hundos, hexec, hfaults⟩ := exec_rollback oracle faults sha256 request
      (grants ++ c.unrecordedGrant serviceId) w
    refine ⟨r, hundos, ?_, hfaults⟩
    dsimp only
    rw [abandon, Procedure.exec_bind, Procedure.exec_tryCatch, pending_eq houtcome, hexec]
    by_cases hcomplete : r.failures = []
    · simp [hcomplete, Stop.result, Contact.conclusion, houtcome]
    · simp [hcomplete, Stop.result, Contact.incomplete, houtcome]
  | ok answer =>
    obtain ⟨binding, result⟩ := answer
    have hgrants : c.unrecordedGrant serviceId = [] := by
      cases c <;> first | rfl | cases houtcome
    have hdecision : result.decision ≠ .accepted := by
      cases c with
      | answered qpm reply =>
        cases houtcome
        simpa [Contact.accepts] using hc
      | _ => cases houtcome
    rw [hgrants, List.append_nil]
    obtain ⟨r, hundos, hexec, hfaults⟩ := exec_rollback oracle faults sha256 request grants w
    refine ⟨r, hundos, ?_, hfaults⟩
    dsimp only
    rw [if_neg hdecision, Procedure.exec_bind, hexec]
    by_cases hcomplete : r.failures = []
    · simp [hcomplete, Stop.result, Contact.conclusion, houtcome, Grant.entry, Function.comp_def]
    · simp [hcomplete, Stop.result, Contact.incomplete, houtcome]

/-- Every run of the loop is the rest of an attempt. -/
theorem exec_reserveLoop (serviceIds : List String) (grants : List Grant) (w : GatewayWorld) :
    ∃ (more : List Grant) (stop : Option Stop),
      Procedure.exec (surroundings oracle faults)
        (reserveLoop sha256 request job fingerprint serviceIds (grants.map Grant.entry)
          (grants.map Grant.result)) w =
        (Attempt.result ⟨grants ++ more, stop⟩ request.requestId,
          ⟨stop.elim id (Stop.journal sha256 request fingerprint)
              (w.state.writeAll request.key (grantWrites fingerprint more)),
            w.trace ++ (grantEvents request job fingerprint more ++
              stop.elim [] (Stop.events sha256 request job fingerprint))⟩) ∧
      Attempt.For ⟨grants ++ more, stop⟩ (grants.map Grant.serviceId ++ serviceIds) ∧
      (faults = noFaults → Attempt.Faultless ⟨grants ++ more, stop⟩) := by
  induction serviceIds generalizing grants w with
  | nil =>
    refine ⟨[], none, ?_, ?_, fun _ stop h => nomatch h⟩
    · simp [reserveLoop, Attempt.result, grantWrites, grantEvents]
    · simp [Attempt.For]
  | cons serviceId rest ih =>
    obtain ⟨c, hcontact, hfaultless, hforeseen⟩ :=
      exec_contact oracle faults request job fingerprint serviceId w
    rw [reserveLoop, Procedure.exec_bind, Procedure.exec_lift_run, hcontact]
    dsimp only
    by_cases hc : c.accepts = true
    · cases c with
      | answered qpm reply =>
        have haccepted : reply.val.decision = .accepted := by simpa [Contact.accepts] using hc
        obtain ⟨more, stop, hexec, hfor, hfaults⟩ :=
          ih (grants ++ [⟨serviceId, qpm, reply, haccepted⟩])
            ⟨w.state.writeAll request.key ((Contact.answered qpm reply).writes fingerprint serviceId),
              w.trace ++ (Contact.answered qpm reply).events request job fingerprint serviceId⟩
        refine ⟨⟨serviceId, qpm, reply, haccepted⟩ :: more, stop, ?_, ?_, ?_⟩
        · simp only [Contact.outcome, Admission.result_decision, haccepted, if_true]
          rw [List.map_append, List.map_append] at hexec
          refine hexec.trans ?_
          simp [grantWrites, grantEvents, Grant.contact]
        · simpa using hfor
        · simpa using hfaults
      | _ => cases hc
    · obtain ⟨r, hundos, hexec, hr⟩ := exec_stop oracle faults sha256 request job fingerprint
        serviceId rest grants (Bool.eq_false_iff.mpr hc)
        ⟨w.state.writeAll request.key (c.writes fingerprint serviceId),
          w.trace ++ c.events request job fingerprint serviceId⟩
      refine ⟨[], some ⟨serviceId, c, r⟩, ?_, ?_, ?_⟩
      · refine hexec.trans ?_
        simp [Attempt.result, grantWrites, grantEvents, Stop.journal, Stop.events]
      · refine ⟨⟨rest, by simp⟩, Bool.eq_false_iff.mpr hc, hforeseen, ?_⟩
        simpa using hundos
      · rintro h stop ⟨⟩
        exact ⟨hfaultless h, hr h⟩

/-- Every run of `_reserve_services` is an attempt for the services in order. -/
theorem exec_reserveServices (serviceIds : List String) (w : GatewayWorld) :
    ∃ a : Attempt, a.For (sorted serviceIds) ∧
      Procedure.exec (surroundings oracle faults)
        (reserveServices sha256 request job serviceIds fingerprint) w =
        (a.result request.requestId,
          ⟨a.journal sha256 request fingerprint w.state,
            w.trace ++ a.events sha256 request job fingerprint⟩) ∧
      (faults = noFaults → a.Faultless) := by
  obtain ⟨grants, stop, hexec, hfor, hfaults⟩ :=
    exec_reserveLoop oracle faults sha256 request job fingerprint (sorted serviceIds) [] w
  exact ⟨⟨grants, stop⟩, hfor, hexec, hfaults⟩

/-- The rows an attempt writes. -/
def Attempt.writes (a : Attempt) : List (String × ReservationRow) :=
  grantWrites fingerprint a.grants ++
    a.stop.elim [] fun stop =>
      stop.contact.writes fingerprint stop.serviceId ++
        stop.rollback.undos.flatMap (Undo.writes · (sha256 (reservationDocument request)))

/-- Marking an allocation `rolling-back` touches its row alone. -/
lemma setAllocationState_lookups (key : AllocationKey) (state : AllocationState) (j : Journal) :
    (∀ k, (j.setAllocationState key state).operation k = j.operation k) ∧
    (∀ k, (j.setAllocationState key state).allocation k =
      if k = key then (j.allocation key).map ({ · with state := state }) else j.allocation k) ∧
    ∀ k s, (j.setAllocationState key state).reservation k s = j.reservation k s := by
  unfold Journal.setAllocationState
  cases hrow : j.allocation key with
  | none =>
    refine ⟨fun _ => rfl, fun k => ?_, fun _ _ => rfl⟩
    split_ifs with hk
    · rw [hk, hrow]
      rfl
    · rfl
  | some row =>
    refine ⟨fun _ => rfl, fun k => ?_, fun _ _ => rfl⟩
    rw [Journal.allocation_putAllocation]
    rfl

/-- An attempt leaves every operation as it was. -/
@[simp] lemma Attempt.operation_journal (a : Attempt) (j : Journal) (k : OperationKey) :
    (a.journal sha256 request fingerprint j).operation k = j.operation k := by
  unfold Attempt.journal
  cases a.stop with
  | none => simp
  | some stop =>
    simp only [Option.elim_some, Stop.journal, Rollback.journal, Journal.operation_writeAll]
    split <;> simp [setAllocationState_lookups]

/-- An attempt that stops leaves its allocation `rolling-back`. -/
lemma Attempt.allocation_journal {a : Attempt} (hfaultless : a.Faultless) (j : Journal)
    (k : AllocationKey) :
    (a.journal sha256 request fingerprint j).allocation k =
      if k = request.key ∧ a.stop.isSome then
        (j.allocation request.key).map ({ · with state := .rollingBack })
      else j.allocation k := by
  unfold Attempt.journal
  cases hstop : a.stop with
  | none => simp
  | some stop =>
    have hmark := (hfaultless stop hstop).2.1
    simp [Stop.journal, Rollback.journal, hmark, setAllocationState_lookups]

/-- The row of its allocation after an attempt. -/
lemma Attempt.allocation_journal_self {a : Attempt} (hfaultless : a.Faultless) {j : Journal}
    {row : AllocationRow} (hrow : j.allocation request.key = some row) :
    (a.journal sha256 request fingerprint j).allocation request.key =
      some { row with state := if a.stop.isSome then .rollingBack else row.state } := by
  rw [Attempt.allocation_journal sha256 request fingerprint hfaultless, hrow]
  cases a.stop <;> simp

/-- The reservation rows an attempt leaves. -/
lemma Attempt.reservation_journal (a : Attempt) (j : Journal) (k : AllocationKey) (s : String) :
    (a.journal sha256 request fingerprint j).reservation k s =
      if k = request.key then
        (written (a.writes sha256 request fingerprint) s).or (j.reservation k s)
      else j.reservation k s := by
  unfold Attempt.journal Attempt.writes
  cases a.stop with
  | none => simp [Journal.reservation_writeAll]
  | some stop =>
    simp only [Option.elim_some, Stop.journal, Rollback.journal, Journal.reservation_writeAll]
    have hmark : (match stop.rollback.mark with
        | .ok _ => ((j.writeAll request.key (grantWrites fingerprint a.grants)).writeAll request.key
            (stop.contact.writes fingerprint stop.serviceId)).setAllocationState request.key
              .rollingBack
        | .error _ => (j.writeAll request.key (grantWrites fingerprint a.grants)).writeAll request.key
            (stop.contact.writes fingerprint stop.serviceId)).reservation k s =
        ((j.writeAll request.key (grantWrites fingerprint a.grants)).writeAll request.key
            (stop.contact.writes fingerprint stop.serviceId)).reservation k s := by
      split <;> simp [setAllocationState_lookups]
    rw [hmark, Journal.reservation_writeAll, Journal.reservation_writeAll, written_append,
      written_append]
    split_ifs
    · rw [Option.or_assoc, Option.or_assoc]
    · rfl

end Attempts

end QfwSlurm
