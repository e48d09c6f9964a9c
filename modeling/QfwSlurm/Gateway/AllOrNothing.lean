import QfwSlurm.Gateway.Attempt

/-!
# A reserve is all or nothing at the QPMs

What the trace of `_reserve_services` shows, for every choice of adapter outcomes and every failing
journal call.  An accepted attempt asked every service once, in order, and gave nothing back.  Any
other attempt gave back every reservation it was granted, latest first, and nothing else.  A
`RollbackIncomplete` says exactly that a step of the giving back failed.

The statements are about the trace, so a reservation whose journal write failed counts as granted.
-/

namespace QfwSlurm

open Interaction

/-! ### The projections of an attempt -/

section Projections

variable (sha256 : Document → String) (request : ReserveRequest) (job : VerifiedJob)
  (fingerprint : String)

@[simp] lemma contacted_contact (c : Contact) (serviceId : String) :
    contacted (c.events request job fingerprint serviceId) = [serviceId] := by
  cases c <;> rfl

@[simp] lemma returned_contact (c : Contact) (serviceId : String) :
    returned (c.events request job fingerprint serviceId) = [] := by
  cases c <;> rfl

lemma asked_contact (c : Contact) (serviceId : String) :
    asked (c.events request job fingerprint serviceId) = [] ∨
      asked (c.events request job fingerprint serviceId) = [serviceId] := by
  cases c with
  | unresolved failure => exact .inl rfl
  | unmarked qpm fault => exact .inl rfl
  | _ => exact .inr rfl

@[simp] lemma asked_grant (g : Grant) :
    asked (g.contact.events request job fingerprint g.serviceId) = [g.serviceId] := rfl

/-- The reservations granted during a contact whose QPM answered. -/
lemma granted_answer (qpm : Incarnation) (reply : ReserveReply) (serviceId : String)
    (e₁ e₂ e₄ : Event) (h₁ : e₁.granted = none) (h₂ : e₂.granted = none) (h₄ : e₄.granted = none) :
    granted [e₁, e₂, ⟨.call (.reserve (qpm.binding serviceId) request job), .ok reply⟩, e₄] =
      if h : reply.val.decision = .accepted then [(Grant.mk serviceId qpm reply h).pair] else [] := by
  rw [granted, List.filterMap_cons_none h₁, List.filterMap_cons_none h₂]
  by_cases h : reply.val.decision = .accepted
  · have hid : reply.val.reservationId = some _ := (Grant.mk serviceId qpm reply h).reservationId_eq
    have hevent : Event.granted
        ⟨.call (.reserve (qpm.binding serviceId) request job), .ok reply⟩ =
          some (Grant.mk serviceId qpm reply h).pair := by
      simp [Event.granted, h, hid, Grant.pair]
    rw [List.filterMap_cons_some hevent, List.filterMap_cons_none h₄, dif_pos h, List.filterMap_nil]
  · have hevent : Event.granted
        ⟨.call (.reserve (qpm.binding serviceId) request job), .ok reply⟩ = none := by
      simp [Event.granted, h]
    rw [List.filterMap_cons_none hevent, List.filterMap_cons_none h₄, dif_neg h, List.filterMap_nil]

@[simp] lemma granted_grant (g : Grant) :
    granted (g.contact.events request job fingerprint g.serviceId) = [g.pair] :=
  (granted_answer request job g.qpm g.reply g.serviceId _ _ _ rfl rfl rfl).trans
    (dif_pos g.accepted)

/-- What was granted by the contact that ended an attempt was not recorded. -/
lemma granted_of_not_accepts {c : Contact} (hc : c.accepts = false) (serviceId : String) :
    granted (c.events request job fingerprint serviceId) =
      (c.unrecordedGrant serviceId).map Grant.pair := by
  cases c with
  | unrecorded qpm reply fault =>
    refine (granted_answer request job qpm reply serviceId _ _ _ rfl rfl rfl).trans ?_
    by_cases h : reply.val.decision = .accepted <;> simp [Contact.unrecordedGrant, h]
  | answered qpm reply =>
    have h : reply.val.decision ≠ .accepted := by simpa [Contact.accepts] using hc
    exact (granted_answer request job qpm reply serviceId _ _ _ rfl rfl rfl).trans (dif_neg h)
  | _ => rfl

@[simp] lemma contacted_grantEvents (grants : List Grant) :
    contacted (grantEvents request job fingerprint grants) = grants.map Grant.serviceId := by
  induction grants with
  | nil => rfl
  | cons g grants ih =>
    rw [grantEvents, List.flatMap_cons, contacted_append, contacted_contact]
    exact congrArg (g.serviceId :: ·) ih

@[simp] lemma asked_grantEvents (grants : List Grant) :
    asked (grantEvents request job fingerprint grants) = grants.map Grant.serviceId := by
  induction grants with
  | nil => rfl
  | cons g grants ih =>
    rw [grantEvents, List.flatMap_cons, asked_append, asked_grant]
    exact congrArg (g.serviceId :: ·) ih

@[simp] lemma granted_grantEvents (grants : List Grant) :
    granted (grantEvents request job fingerprint grants) = grants.map Grant.pair := by
  induction grants with
  | nil => rfl
  | cons g grants ih =>
    rw [grantEvents, List.flatMap_cons, granted_append, granted_grant]
    exact congrArg (g.pair :: ·) ih

@[simp] lemma returned_grantEvents (grants : List Grant) :
    returned (grantEvents request job fingerprint grants) = [] := by
  induction grants with
  | nil => rfl
  | cons g grants ih =>
    rw [grantEvents, List.flatMap_cons, returned_append, returned_contact]
    exact ih

/-- A rollback passes every grant to `adapter.release`, and does nothing else at the QPMs. -/
lemma returned_rollback (r : Rollback) (key : AllocationKey) :
    returned (r.events key fingerprint) =
      (r.undos.map Undo.grant).map fun g => (g.serviceId, some g.id) := by
  have hundos (undos : List Undo) :
      returned (undos.flatMap (Undo.events · key fingerprint)) =
        (undos.map Undo.grant).map fun g => (g.serviceId, some g.id) := by
    induction undos with
    | nil => rfl
    | cons u undos ih =>
      rw [List.flatMap_cons, returned_append, ih]
      rfl
  exact hundos r.undos

/-- The calls of a rollback contact no service and grant nothing. -/
lemma granted_rollback (r : Rollback) (key : AllocationKey) :
    contacted (r.events key fingerprint) = [] ∧ asked (r.events key fingerprint) = [] ∧
      granted (r.events key fingerprint) = [] ∧ decided (r.events key fingerprint) = [] := by
  have hundos (undos : List Undo) :
      contacted (undos.flatMap (Undo.events · key fingerprint)) = [] ∧
        asked (undos.flatMap (Undo.events · key fingerprint)) = [] ∧
        granted (undos.flatMap (Undo.events · key fingerprint)) = [] ∧
        decided (undos.flatMap (Undo.events · key fingerprint)) = [] := by
    induction undos with
    | nil => exact ⟨rfl, rfl, rfl, rfl⟩
    | cons u undos ih =>
      rw [List.flatMap_cons, contacted_append, asked_append, granted_append, decided_append]
      exact ih
  exact hundos r.undos

/-- Nothing before the rollback starts one. -/
lemma rollbackPart_of_not_starts {events more : List Event}
    (h : ∀ event ∈ events, event.startsRollback = false) :
    rollbackPart (events ++ more) = rollbackPart more := by
  rw [rollbackPart, rollbackPart, List.dropWhile_append_of_pos]
  intro event hevent
  rw [h event hevent]
  rfl

lemma startsRollback_contact (c : Contact) (serviceId : String) :
    ∀ event ∈ c.events request job fingerprint serviceId, event.startsRollback = false := by
  cases c <;> simp [Contact.events, Event.startsRollback, recordEvent]

lemma startsRollback_grantEvents (grants : List Grant) :
    ∀ event ∈ grantEvents request job fingerprint grants, event.startsRollback = false := by
  intro event hevent
  obtain ⟨g, -, hg⟩ := List.mem_flatMap.mp hevent
  exact startsRollback_contact request job fingerprint g.contact g.serviceId event hg

/-- The failures `_rollback` collects are the events of the rollback that failed. -/
lemma failures_eq_nil_iff (r : Rollback) (key : AllocationKey) :
    r.failures = [] ↔ ∀ event ∈ r.events key fingerprint, event.failed = false := by
  rw [Rollback.failures_eq_nil]
  have hmark : r.mark = .ok () ↔ (r.markEvent key).failed = false := by
    unfold Rollback.markEvent
    cases r.mark <;> simp [Event.failed]
  have hundo (u : Undo) : ((∃ reply, u.answer = .ok reply) ∧ u.write = .ok ()) ↔
      ∀ event ∈ u.events key fingerprint, event.failed = false := by
    unfold Undo.events recordEvent
    cases u.answer <;> cases u.write <;> simp [Event.failed]
  simp only [Rollback.events, List.forall_mem_cons, hmark, hundo, List.mem_flatMap]
  refine and_congr_right fun _ => ⟨?_, fun h u hu event hevent => h event ⟨u, hu, hevent⟩⟩
  rintro h event ⟨u, hu, hevent⟩
  exact h u hu event hevent

end Projections

/-! ### The two kinds of attempts -/

/-- Every service was asked once, in order, and accepted; nothing was given back; and the response
lists each service with the id it was granted. -/
structure AcceptedAll (serviceIds : List String) (response : ReserveResponse)
    (events : List Event) : Prop where
  asked_eq : asked events = serviceIds
  granted_eq : (granted events).map Prod.fst = serviceIds
  returned_eq : returned events = []
  results_eq : response.results.map (fun item => (item.serviceId, item.reservationId)) =
    (granted events).map fun pair => (pair.1, some pair.2)

/-- Every granted reservation was passed to `adapter.release` once, latest first, and no other was;
no service after the one that ended the attempt was contacted; and a response that was returned
carries no reservation id and the decision of that service throughout. -/
structure GivenBack (serviceIds : List String) (result : Except PyError ReserveResponse)
    (events : List Event) : Prop where
  returned_eq : returned events = (granted events).reverse.map fun pair => (pair.1, some pair.2)
  stopped : ∃ before serviceId after, serviceIds = before ++ serviceId :: after ∧
    contacted events = before ++ [serviceId] ∧
    (asked events = before ∨ asked events = before ++ [serviceId]) ∧
    before <+: (granted events).map Prod.fst ∧
    ∀ response, result = .ok response →
      (decided events).getLast? = some (serviceId, response.decision) ∧
      ∀ item ∈ response.results, item.reservationId = none ∧ item.decision = response.decision

/-- A response that an attempt returns after it stopped has the decision of the service it stopped
at, and no reservation id. -/
lemma Stop.result_ok (request : ReserveRequest) (job : VerifiedJob) (fingerprint : String)
    {stop : Stop} {requestId : ℤ} (grants : List Grant) {response : ReserveResponse}
    (hnot : stop.contact.accepts = false)
    (h : stop.result requestId grants = .ok response) :
    decided (stop.contact.events request job fingerprint stop.serviceId) =
        [(stop.serviceId, response.decision)] ∧
      ∀ item ∈ response.results, item.reservationId = none ∧ item.decision = response.decision := by
  simp only [Stop.result] at h
  split_ifs at h
  cases hc : stop.contact with
  | answered qpm reply =>
    rw [hc] at h hnot
    cases h
    have hid : reply.val.reservationId = none := by
      have hreserved := reply.property
      have hdecision : reply.val.decision ≠ .accepted := by simpa [Contact.accepts] using hnot
      cases hd : reply.val.decision <;> simp_all [Admission.Reserved]
    refine ⟨rfl, fun item hitem => ?_⟩
    rcases List.mem_append.mp hitem with hitem | hitem
    · obtain ⟨g, -, rfl⟩ := List.mem_map.mp hitem
      exact ⟨rfl, rfl⟩
    · rw [List.mem_singleton.mp hitem]
      exact ⟨hid, rfl⟩
  | _ => simp [Contact.conclusion, Contact.outcome, hc] at h

/-- Once an attempt has stopped, it raises `RollbackIncomplete` exactly when the rollback collected
failures. -/
lemma Stop.incomplete_iff {stop : Stop} (hforeseen : stop.contact.Foreseen) (requestId : ℤ)
    (grants : List Grant) :
    (∃ error, stop.result requestId grants = .error error ∧
        error.errorClass = .rollbackIncomplete) ↔ stop.rollback.failures ≠ [] := by
  unfold Stop.result
  split_ifs with hcomplete
  · refine ⟨?_, fun h => absurd hcomplete h⟩
    rintro ⟨error, herror, hclass⟩
    cases hc : stop.contact with
    | answered qpm reply => simp [hc, Contact.conclusion, Contact.outcome] at herror
    | unresolved failure =>
      simp only [hc, Contact.conclusion, Contact.outcome, Except.error.injEq] at herror
      cases failure <;> simp [← herror, AdapterFailure.error] at hclass
    | unanswered qpm failure =>
      simp only [hc, Contact.conclusion, Contact.outcome, Except.error.injEq] at herror
      cases failure <;> simp [← herror, AdapterFailure.error] at hclass
    | unmarked qpm fault =>
      simp only [hc, Contact.conclusion, Contact.outcome, Except.error.injEq] at herror
      rw [hc] at hforeseen
      rw [← herror] at hclass
      exact absurd hclass hforeseen
    | unrecorded qpm reply fault =>
      simp only [hc, Contact.conclusion, Contact.outcome, Except.error.injEq] at herror
      rw [hc] at hforeseen
      rw [← herror] at hclass
      exact absurd hclass hforeseen
  · refine ⟨fun _ => hcomplete, fun _ => ⟨_, rfl, ?_⟩⟩
    unfold Contact.incomplete
    split <;> rfl

namespace Attempt

variable (sha256 : Document → String) (request : ReserveRequest) (job : VerifiedJob)
  (fingerprint : String) {a : Attempt} {serviceIds : List String}

lemma acceptedAll (hfor : a.For serviceIds) (hstop : a.stop = none) :
    AcceptedAll serviceIds ⟨request.requestId, .accepted, a.grants.map Grant.result⟩
      (a.events sha256 request job fingerprint) := by
  simp only [Attempt.For, hstop] at hfor
  constructor <;> simp only [Attempt.events, hstop, Option.elim_none, List.append_nil]
  · rw [asked_grantEvents, hfor]
  · rw [granted_grantEvents, List.map_map, ← hfor]
    rfl
  · exact returned_grantEvents request job fingerprint a.grants
  · rw [granted_grantEvents, List.map_map, List.map_map]
    refine List.map_congr_left fun g _ => ?_
    simp [Grant.pair]

lemma givenBack (hfor : a.For serviceIds) {stop : Stop} (hstop : a.stop = some stop) :
    GivenBack serviceIds (a.result request.requestId) (a.events sha256 request job fingerprint) := by
  simp only [Attempt.For, hstop] at hfor
  obtain ⟨⟨rest, hservices⟩, haccepts, -, hundos⟩ := hfor
  obtain ⟨hcontacted, hasked, hgranted, hdecided⟩ := granted_rollback
    (sha256 (reservationDocument request)) stop.rollback request.key
  have hevents : a.events sha256 request job fingerprint =
      grantEvents request job fingerprint a.grants ++
        (stop.contact.events request job fingerprint stop.serviceId ++
          stop.rollback.events request.key (sha256 (reservationDocument request))) := by
    rw [Attempt.events, hstop]
    rfl
  have hgrantedAll : granted (a.events sha256 request job fingerprint) =
      (a.grants ++ stop.contact.unrecordedGrant stop.serviceId).map Grant.pair := by
    rw [hevents, granted_append, granted_append, granted_grantEvents, hgranted, List.append_nil,
      granted_of_not_accepts request job fingerprint haccepts, List.map_append]
  constructor
  · rw [hgrantedAll, ← List.map_reverse, List.map_map, hevents, returned_append, returned_append,
      returned_grantEvents, returned_contact, returned_rollback, hundos]
    rfl
  · refine ⟨a.grants.map Grant.serviceId, stop.serviceId, rest, hservices, ?_, ?_, ?_, ?_⟩
    · simp [hevents, hcontacted]
    · rw [hevents, asked_append, asked_append, hasked, asked_grantEvents, List.append_nil]
      exact (asked_contact request job fingerprint stop.contact stop.serviceId).imp
        (fun h => by rw [h, List.append_nil]) (fun h => by rw [h])
    · rw [hgrantedAll, List.map_map, List.map_append]
      exact List.prefix_append _ _
    · intro response hresponse
      rw [Attempt.result, hstop] at hresponse
      obtain ⟨hlast, hitems⟩ :=
        Stop.result_ok request job fingerprint a.grants haccepts hresponse
      refine ⟨?_, hitems⟩
      rw [hevents, decided_append, decided_append, hdecided, List.append_nil, hlast]
      simp

/-- A `RollbackIncomplete` is raised exactly when an event of the rollback failed. -/
lemma incomplete_iff (hfor : a.For serviceIds) :
    (∃ error, a.result request.requestId = .error error ∧
        error.errorClass = .rollbackIncomplete) ↔
      ∃ event ∈ rollbackPart (a.events sha256 request job fingerprint), event.failed = true := by
  rw [Attempt.events, rollbackPart_of_not_starts
    (startsRollback_grantEvents request job fingerprint a.grants)]
  cases hstop : a.stop with
  | none => simp [Attempt.result, hstop, rollbackPart]
  | some stop =>
    simp only [Attempt.For, hstop] at hfor
    obtain ⟨-, -, hforeseen, -⟩ := hfor
    have hpart : rollbackPart (stop.events sha256 request job fingerprint) =
        stop.rollback.events request.key (sha256 (reservationDocument request)) := by
      rw [Stop.events, rollbackPart_of_not_starts
        (startsRollback_contact request job fingerprint stop.contact stop.serviceId)]
      rfl
    have hfailed : (∃ event ∈ rollbackPart (stop.events sha256 request job fingerprint),
        event.failed = true) ↔ stop.rollback.failures ≠ [] := by
      rw [hpart, Ne, failures_eq_nil_iff (sha256 (reservationDocument request)) stop.rollback
        request.key]
      simp
    rw [Option.elim_some, hfailed, Attempt.result, hstop]
    exact Stop.incomplete_iff hforeseen request.requestId a.grants

end Attempt

/-- Every run of `_reserve_services` is all or nothing at the QPMs, whatever the adapter answers and
whichever journal calls fail. -/
theorem reserveServices_allOrNothing (oracle : Oracle) (faults : Faults)
    (sha256 : Document → String) (request : ReserveRequest) (job : VerifiedJob)
    (serviceIds : List String) (fingerprint : String) (w : GatewayWorld) :
    ∃ events,
      (Procedure.exec (surroundings oracle faults)
        (reserveServices sha256 request job serviceIds fingerprint) w).2.trace =
          w.trace ++ events ∧
      (∀ response,
        (Procedure.exec (surroundings oracle faults)
          (reserveServices sha256 request job serviceIds fingerprint) w).1 = .ok response →
        response.decision = .accepted → AcceptedAll (sorted serviceIds) response events) ∧
      ((¬ ∃ response,
        (Procedure.exec (surroundings oracle faults)
          (reserveServices sha256 request job serviceIds fingerprint) w).1 = .ok response ∧
        response.decision = .accepted) →
        GivenBack (sorted serviceIds)
          (Procedure.exec (surroundings oracle faults)
            (reserveServices sha256 request job serviceIds fingerprint) w).1 events) ∧
      ((∃ error,
        (Procedure.exec (surroundings oracle faults)
          (reserveServices sha256 request job serviceIds fingerprint) w).1 = .error error ∧
        error.errorClass = .rollbackIncomplete) ↔
        ∃ event ∈ rollbackPart events, event.failed = true) := by
  obtain ⟨a, hfor, hexec, -⟩ :=
    exec_reserveServices oracle faults sha256 request job fingerprint serviceIds w
  rw [hexec]
  refine ⟨a.events sha256 request job fingerprint, rfl, ?_, ?_,
    Attempt.incomplete_iff sha256 request job fingerprint hfor⟩
  · intro response hresponse hdecision
    have hstop := (Attempt.accepted_iff hfor request.requestId).mp ⟨response, hresponse, hdecision⟩
    rw [Attempt.result, hstop] at hresponse
    cases hresponse
    exact Attempt.acceptedAll sha256 request job fingerprint hfor hstop
  · intro hnot
    obtain ⟨stop, hstop⟩ := Option.ne_none_iff_exists'.mp
      (mt (Attempt.accepted_iff hfor request.requestId).mpr hnot)
    exact Attempt.givenBack sha256 request job fingerprint hfor hstop

end QfwSlurm
