import QfwSlurm.Gateway.Operations

/-!
# Extensions of an accepted set

A reserve request for further services of an accepted allocation widens the set in the journal
before a QPM has answered.  When the extension is not accepted, the set is restored.  `KeepsSet` says
what "restored" means, and that lookups and later requests see no difference is derived from it.

A failed extension may be repeated under its request id after a delay or a complete rollback.  A
rejection is the outcome of its operation: the same request is answered with it again.
-/

namespace QfwSlurm

open Interaction

/-! ### Keeping a set -/

/-- The allocation's identity, state, service set and stored response are the same, and so are the
rows of the services of the set. -/
structure KeepsSet (j j' : Journal) (key : AllocationKey) (row : AllocationRow) : Prop where
  allocation : ∃ row', j'.allocation key = some row' ∧ row'.jobUid = row.jobUid ∧
    row'.jobGid = row.jobGid ∧ row'.state = row.state ∧ row'.serviceSet = row.serviceSet ∧
    row'.responseJson = row.responseJson
  reservation : ∀ s ∈ row.serviceSet, j'.reservation key s = j.reservation key s

section KeepsSet

variable {j j' : Journal} {key : AllocationKey} {row : AllocationRow}

lemma KeepsSet.of_sameRows (hrow : j.allocation key = some row) (h : SameRows j j' key) :
    KeepsSet j j' key row :=
  ⟨⟨row, h.allocation_eq.trans hrow, rfl, rfl, rfl, rfl, rfl⟩, fun s _ => h.reservation_eq s⟩

/-- A kept set is looked up as before. -/
lemma KeepsSet.reservationContext_eq (h : KeepsSet j j' key row)
    (hrow : j.allocation key = some row) (hstate : row.state = .accepted) (hsound : Sound j key)
    (hsound' : Sound j' key) (jobUid jobGid : ℤ) :
    j'.reservationContext key jobUid jobGid = j.reservationContext key jobUid jobGid := by
  obtain ⟨row', hrow', huid, hgid, hstate', hservices, -⟩ := h.allocation
  have hset := hsound.accepted row hrow hstate
  have hset' := hsound'.accepted row' hrow' (hstate'.trans hstate)
  have hrecords : (j'.reservations key).filter (·.serviceId ∈ row.serviceSet) =
      (j.reservations key).filter (·.serviceId ∈ row.serviceSet) := by
    have hmap := hset'.map_serviceId
    rw [hservices] at hmap
    rw [← filterMap_reservations (j := j') fun item hitem => List.mem_of_mem_filter hitem, hmap,
      ← filterMap_reservations (j := j) fun item hitem => List.mem_of_mem_filter hitem,
      hset.map_serviceId]
    refine List.filterMap_congr fun s hs => ?_
    rw [h.reservation s (mem_sorted.mp hs)]
  unfold Journal.reservationContext
  simp only [hrow, hrow', huid, hgid, hstate', hstate, hservices]
  have hcontext := hset'.checkContext_eq
  rw [hservices] at hcontext
  rw [hcontext, hset.checkContext_eq, hrecords]

/-- The workload check reads the rows of the services it is given. -/
lemma checkAcceptedServices_congr {fingerprint : String} {serviceIds : List String}
    (h : ∀ s ∈ serviceIds, j'.reservation key s = j.reservation key s) :
    j'.checkAcceptedServices key fingerprint serviceIds =
      j.checkAcceptedServices key fingerprint serviceIds := by
  induction serviceIds with
  | nil => rfl
  | cons s rest ih =>
    rw [Journal.checkAcceptedServices, Journal.checkAcceptedServices, h s List.mem_cons_self,
      ih fun t ht => h t (List.mem_cons_of_mem s ht)]

/-- `begin_allocation` plans every request for a kept set as before. -/
lemma KeepsSet.plan_eq {sha256 : Document → String} {request : ReserveRequest}
    (h : KeepsSet j j' request.key row) (hrow : j.allocation request.key = some row)
    (hstate : row.state = .accepted) {stored : Json} (hstored : row.responseJson = some stored) :
    (request.beginAllocation sha256 j').map Prod.fst =
      (request.beginAllocation sha256 j).map Prod.fst := by
  obtain ⟨row', hrow', huid, hgid, hstate', hservices, hresponse⟩ := h.allocation
  by_cases hidentity : row.jobUid = request.jobUid ∧ row.jobGid = request.jobGid
  swap
  · rw [beginAllocation_identity hrow hidentity,
      beginAllocation_identity hrow' (by rw [huid, hgid]; exact hidentity)]
  have hcheck : j'.checkAcceptedServices request.key (sha256 (reservationDocument request))
      ((sorted request.serviceIds).filter (· ∈ row'.serviceSet)) =
      j.checkAcceptedServices request.key (sha256 (reservationDocument request))
      ((sorted request.serviceIds).filter (· ∈ row.serviceSet)) := by
    rw [hservices]
    refine checkAcceptedServices_congr fun s hs => h.reservation s ?_
    simpa using (List.mem_filter.mp hs).2
  rw [beginAllocation_accepted hrow hidentity hstate hstored,
    beginAllocation_accepted hrow' (by rw [huid, hgid]; exact hidentity) (hstate'.trans hstate)
      (hresponse.trans hstored), planExtension_eq, planExtension_eq, hcheck]
  cases j.checkAcceptedServices request.key (sha256 (reservationDocument request))
    ((sorted request.serviceIds).filter (· ∈ row.serviceSet)) with
  | error error => rfl
  | ok u =>
    dsimp only
    rw [ReserveRequest.missing, hservices]
    split_ifs <;> rfl

end KeepsSet

/-! ### Lookups -/

section Lookups

variable {sha256 : Document → String} {j j' : Journal}

/-- The answer to a lookup depends on `reservation_context` alone. -/
lemma lookup_congr
    (h : ∀ key jobUid jobGid, j'.reservationContext key jobUid jobGid =
      j.reservationContext key jobUid jobGid)
    (request : GetReservationsRequest) (senderUid : ℤ) (oracle : Oracle) :
    (serve sha256 j' (.getReservations request) senderUid oracle).1 =
      (serve sha256 j (.getReservations request) senderUid oracle).1 := by
  have hexec (j : Journal) : (Procedure.exec (surroundings oracle noFaults)
      (getReservationsTry request senderUid) ⟨j, []⟩).1 =
      match oracle 0 (.verifyLookup request senderUid) with
      | .error failure => .error failure.error
      | .ok job =>
        (j.reservationContext ⟨request.clusterName, job.canonicalJobId⟩ job.uid job.gid).map
          fun records =>
            { requestId := request.requestId
              canonicalJobId := job.canonicalJobId
              reservations := records.filterMap fun item =>
                item.reservationId.map fun id => ⟨item.serviceId, id⟩ } := by
    have hverify := exec_invoke oracle noFaults ⟨j, []⟩ (.verifyLookup request senderUid)
      (Except.mapError VerifierFailure.error)
    unfold getReservationsTry verifyLookup
    cases hjob : oracle 0 (.verifyLookup request senderUid) with
    | error failure =>
      rw [List.length_nil, hjob] at hverify
      rw [Procedure.exec_bind_error hverify]
    | ok job =>
      rw [List.length_nil, hjob] at hverify
      rw [Procedure.exec_bind_ok hverify]
      have htransact := exec_transact_noFaults oracle
        ⟨j, [] ++ [⟨.call (.verifyLookup request senderUid), .ok job⟩]⟩
        (.reservationContext ⟨request.clusterName, job.canonicalJobId⟩ job.uid job.gid)
      cases hcontext : j.reservationContext ⟨request.clusterName, job.canonicalJobId⟩ job.uid
        job.gid with
      | error error =>
        rw [Transaction.apply, hcontext] at htransact
        rw [Procedure.exec_bind_error htransact]
        dsimp only
        rw [hcontext]
        rfl
      | ok records =>
        rw [Transaction.apply, hcontext] at htransact
        rw [Procedure.exec_bind_ok htransact]
        dsimp only
        rw [hcontext]
        rfl
  rw [serve, serve, handle, getReservations, run_answer, run_answer, hexec, hexec]
  cases oracle 0 (.verifyLookup request senderUid) with
  | error failure => rfl
  | ok job =>
    dsimp only
    rw [h]

/-- A kept set and unchanged other allocations answer every lookup as before. -/
lemma lookup_eq {key : AllocationKey} {row : AllocationRow} (h : KeepsSet j j' key row)
    (hrow : j.allocation key = some row) (hstate : row.state = .accepted) (hsound : Sound j key)
    (hsound' : Sound j' key) (hothers : ∀ other, other ≠ key → SameRows j j' other)
    (request : GetReservationsRequest) (senderUid : ℤ) (oracle : Oracle) :
    (serve sha256 j' (.getReservations request) senderUid oracle).1 =
      (serve sha256 j (.getReservations request) senderUid oracle).1 := by
  refine lookup_congr (fun other jobUid jobGid => ?_) request senderUid oracle
  by_cases hother : other = key
  · subst hother
    exact h.reservationContext_eq hrow hstate hsound hsound' jobUid jobGid
  · obtain ⟨hallocation, hreservation⟩ := hothers other hother
    rw [Journal.reservationContext, Journal.reservationContext, hallocation,
      reservations_congr hreservation]

end Lookups

/-! ### Reaching the QPMs -/

section Contacts

variable {sha256 : Document → String} {request : ReserveRequest} {senderUid : ℤ} {j j' : Journal}
  {calls : List Event}

/-- An attempt contacts a service. -/
lemma contacted_attempt_ne_nil {a : Attempt} {serviceIds : List String} (hfor : a.For serviceIds)
    (hservices : serviceIds ≠ []) (job : VerifiedJob) (fingerprint : String) :
    contacted (a.events sha256 request job fingerprint) ≠ [] := by
  intro hcontacted
  rw [Attempt.events, contacted_append, contacted_grantEvents] at hcontacted
  obtain ⟨hgrants, hstopped⟩ := List.append_eq_nil_iff.mp hcontacted
  cases hstop : a.stop with
  | none =>
    simp only [Attempt.For, hstop] at hfor
    exact hservices (hfor.symm.trans hgrants)
  | some stop =>
    rw [hstop, Option.elim_some, Stop.events, contacted_append, contacted_contact] at hstopped
    cases hstopped

/-- A verified request reaches the QPMs exactly when its operation begins and its plan lacks
services. -/
lemma Reserves.contacted_iff (hservices : request.serviceIds ≠ [])
    {result : Except PyError ReserveResponse}
    (h : Reserves sha256 request senderUid j result j' calls) :
    contacted calls ≠ [] ↔
      j.MayBegin (request.reserveKey senderUid) (request.fingerprint sha256) ∧
        ∃ planned, request.beginAllocation sha256 j = .ok planned ∧
          planned.1.missingServices ≠ [] := by
  have hcovered {row : AllocationRow} {stored : Json}
      (hplan : Extends sha256 request j row stored ∧ request.missing row = [] ∨
        Recalls sha256 request j row stored) :
      ¬ ∃ planned, request.beginAllocation sha256 j = .ok planned ∧
        planned.1.missingServices ≠ [] := by
    rintro ⟨planned, hplanned, hmissing⟩
    rcases hplan with ⟨hextends, hnil⟩ | hrecalls
    · cases (beginAllocation_of_plans (.covered row stored hextends hnil)).symm.trans hplanned
      exact hmissing rfl
    · cases (beginAllocation_of_plans (.recalled row stored hrecalls)).symm.trans hplanned
      exact hmissing rfl
  have hnone : ¬ contacted [] ≠ [] := fun h => h rfl
  cases h with
  | conflicting row hrow hne =>
    exact iff_of_false hnone fun h => hne (h.1 row hrow).1
  | replayed row result hrow hfingerprint hstate h =>
    exact iff_of_false hnone fun h => hstate (h.1 row hrow).2
  | refused error hbegin h =>
    refine iff_of_false hnone fun hplan => ?_
    obtain ⟨-, planned, hplanned, -⟩ := hplan
    cases h.symm.trans hplanned
  | reused row stored response hbegin hplan h =>
    exact iff_of_false hnone fun h => hcovered hplan h.2
  | misread row stored error hbegin hplan h herror =>
    exact iff_of_false hnone fun h => hcovered hplan h.2
  | attempted job a hbegin hrestart hfor hfaultless j' hj =>
    rw [contacted_adapterCalls]
    refine iff_of_true (contacted_attempt_ne_nil hfor (by simpa using hservices) job _)
      ⟨hbegin, _, beginAllocation_of_plans (.fresh hrestart), by simpa using hservices⟩
  | extended job a row stored previous hbegin hextends hm hp hfor hfaultless j' hj =>
    rw [contacted_adapterCalls]
    exact iff_of_true (contacted_attempt_ne_nil hfor hm job _)
      ⟨hbegin, _, beginAllocation_of_plans (.extended row stored hextends hm), hm⟩
  | stranded job a row stored error hbegin hextends hm hs hp he hfor j' hj =>
    rw [contacted_adapterCalls]
    exact iff_of_true (contacted_attempt_ne_nil hfor hm job _)
      ⟨hbegin, _, beginAllocation_of_plans (.extended row stored hextends hm), hm⟩

/-- The same, of the handling of a request. -/
lemma contacted_serve_iff (valid : (Request.reserve request).Valid) {oracle : Oracle}
    {job : VerifiedJob} (hjob : oracle 0 (.verifyReserve request senderUid) = .ok job) :
    contacted (serve sha256 j (.reserve request) senderUid oracle).2.trace ≠ [] ↔
      j.MayBegin (request.reserveKey senderUid) (request.fingerprint sha256) ∧
        ∃ planned, request.beginAllocation sha256 j = .ok planned ∧
          planned.1.missingServices ≠ [] := by
  rw [← contacted_adapterCalls]
  exact (reserves_serve sha256 j valid hjob).contacted_iff (services_of_valid valid).1

/-- A request that reaches the QPMs was verified. -/
lemma verified_of_contacted {oracle : Oracle}
    (h : contacted (serve sha256 j (.reserve request) senderUid oracle).2.trace ≠ []) :
    ∃ job, oracle 0 (.verifyReserve request senderUid) = .ok job := by
  cases hverdict : oracle 0 (.verifyReserve request senderUid) with
  | ok job => exact ⟨job, rfl⟩
  | error failure =>
    rw [(serve_unverified sha256 j hverdict).2] at h
    exact absurd rfl h

end Contacts

/-! ### Extensions that fail and extensions that do not -/

section Extensions

variable (sha256 : Document → String) (j : Journal) (request : ReserveRequest) (senderUid : ℤ)
  (oracle : Oracle) (row : AllocationRow)

/-- The request leaves the accepted set of its allocation intact.  Other requests reach the QPMs as
before.  The same request reaches them again unless its rollback was incomplete or it was rejected;
a rejection is its outcome, and is repeated. -/
structure LeavesIntact : Prop where
  kept : KeepsSet j (serve sha256 j (.reserve request) senderUid oracle).2.state request.key row
  not_returned : ∀ pair ∈ returned (serve sha256 j (.reserve request) senderUid oracle).2.trace,
    pair.1 ∉ row.serviceSet
  lookups : ∀ lookup senderUid' oracle',
    (serve sha256 (serve sha256 j (.reserve request) senderUid oracle).2.state
      (.getReservations lookup) senderUid' oracle').1 =
    (serve sha256 j (.getReservations lookup) senderUid' oracle').1
  others : ∀ other senderUid' oracle', (Request.reserve other).Valid → other.key = request.key →
    other.reserveKey senderUid' ≠ request.reserveKey senderUid →
    (contacted (serve sha256 (serve sha256 j (.reserve request) senderUid oracle).2.state
      (.reserve other) senderUid' oracle').2.trace ≠ [] ↔
    contacted (serve sha256 j (.reserve other) senderUid' oracle').2.trace ≠ [])
  same : contacted (serve sha256 j (.reserve request) senderUid oracle).2.trace ≠ [] →
    ¬ EndsIncomplete sha256 j request senderUid oracle →
    (∀ response, (serve sha256 j (.reserve request) senderUid oracle).1 = .reserve response →
      response.decision ≠ .rejected) →
    ∀ oracle' job, oracle' 0 (.verifyReserve request senderUid) = .ok job →
      contacted (serve sha256 (serve sha256 j (.reserve request) senderUid oracle).2.state
        (.reserve request) senderUid oracle').2.trace ≠ []
  rejected : ∀ response,
    (serve sha256 j (.reserve request) senderUid oracle).1 = .reserve response →
    response.decision = .rejected →
    ∀ oracle' job, oracle' 0 (.verifyReserve request senderUid) = .ok job →
      (serve sha256 (serve sha256 j (.reserve request) senderUid oracle).2.state
        (.reserve request) senderUid oracle').1 = .reserve response ∧
      contacted (serve sha256 (serve sha256 j (.reserve request) senderUid oracle).2.state
        (.reserve request) senderUid oracle').2.trace = []

/-- The response has the results of the accepted set and the new ones, by service: those of the
services that were missing, each with the id it was granted. -/
def AddsResults (response : ReserveResponse) : Prop :=
  ∃ (previous : ReserveResponse) (new : List ServiceResult),
    storedReserve row.responseJson = some previous ∧
    new.map (·.serviceId) = request.missing row ∧
    new.map ServiceResult.pair =
      (granted (serve sha256 j (.reserve request) senderUid oracle).2.trace).map
        (fun pair => (pair.1, some pair.2)) ∧
    response = ⟨request.requestId, .accepted,
      (previous.results ++ new).insertionSort fun a b => a.serviceId ≤ b.serviceId⟩

variable {sha256 j request senderUid oracle row}

variable (sha256 request senderUid j row) in
/-- The request has extended the accepted set: the attempt at the services that it lacks, and what
has become of it. -/
structure ExtendedBy (job : VerifiedJob) (a : Attempt) (stored : Json)
    (previous : ReserveResponse) (result : Except PyError ReserveResponse) (j' : Journal)
    (calls : List Event) : Prop where
  extends_set : Extends sha256 request j row stored
  previous_read : a.stop = none → storedReserve (some stored) = some previous
  attempt_for : a.For (request.missing row)
  faultless : a.Faultless
  result_eq : result = extensionResult request previous (a.result request.requestId)
  calls_eq : calls =
    adapterCalls (a.events sha256 request job (request.reservationFingerprint sha256))
  updated : Updated j (request.reserveKey senderUid) (operationAfter sha256 request result)
    request.key (extensionAfter sha256 request row stored result)
    (a.writes sha256 request (request.reservationFingerprint sha256)) j'

section Cases

variable (hsettled : ∀ row, j.allocation request.key = some row → row.Settled)
  (hrow : j.allocation request.key = some row) (hstate : row.state = .accepted)

include hsettled hrow hstate in
/-- A reserve request for an accepted allocation calls no QPM and keeps every row, or extends the
set. -/
lemma Reserves.cases_of_accepted {result : Except PyError ReserveResponse} {j' : Journal}
    {calls : List Event} (h : Reserves sha256 request senderUid j result j' calls) :
    (SameRows j j' request.key ∧ calls = []) ∨
    ∃ job a stored previous, ExtendedBy sha256 j request senderUid row job a stored previous result
      j' calls := by
  have hstored := hsettled row hrow
  cases h with
  | attempted job a hbegin hrestart hfor hfaultless j' hj =>
    exfalso
    simp only [AllocationRow.Settled, hstate] at hstored
    obtain ⟨response, -, hresponse⟩ := hstored
    rcases (hrestart row hrow).2 with hd | hd | ⟨hd | hd | ⟨-, hd⟩, -⟩
    all_goals simp_all
  | extended job a other stored previous hbegin hextends hm hp hfor hfaultless j' hj =>
    cases hrow.symm.trans hextends.allocation_eq
    exact .inr ⟨job, a, stored, previous, hextends, hp, hfor, hfaultless, rfl, rfl, hj⟩
  | stranded job a other stored error hbegin hextends hm hs hp he hfor j' hj =>
    cases hrow.symm.trans hextends.allocation_eq
    refine absurd ?_ (storedReserve_of_settled hstored (.inl hstate))
    rw [hextends.response_eq, hp]
  | _ => exact .inl ⟨⟨rfl, fun _ => rfl⟩, rfl⟩

end Cases

/-- A stopped extension gives back reservations of new services only. -/
lemma returned_of_extension {a : Attempt} (hnodup : request.serviceIds.Nodup)
    (hfor : a.For (request.missing row)) (hfaultless : a.Faultless) (job : VerifiedJob)
    (fingerprint : String) :
    ∀ pair ∈ returned (a.events sha256 request job fingerprint), pair.1 ∉ row.serviceSet := by
  intro pair hpair
  rw [Attempt.returned_events] at hpair
  cases hstop : a.stop with
  | none =>
    rw [hstop] at hpair
    cases hpair
  | some stop =>
    rw [hstop, Option.elim_some, Attempt.undos_eq hfor hfaultless hstop] at hpair
    obtain ⟨g, hg, rfl⟩ := List.mem_map.mp hpair
    exact (missing_facts hnodup row).2 g.serviceId
      ((Attempt.mem_of_for hfor).1 g (List.mem_reverse.mp hg))

/-- An extension that was stopped keeps the set. -/
lemma keepsSet_of_stopped {a : Attempt} {j' : Journal} {stored : Json}
    (hnodup : request.serviceIds.Nodup) (hset : AcceptedSet j request.key row)
    (hstate : row.state = .accepted) (hstored : row.responseJson = some stored)
    (hfor : a.For (request.missing row)) (hfaultless : a.Faultless) (hstop : a.stop ≠ none)
    (previous : ReserveResponse) {operationKey : OperationKey} {operation : OperationRow}
    (hj : Updated j operationKey operation request.key
      (extensionAfter sha256 request row stored
        (extensionResult request previous (a.result request.requestId)))
      (a.writes sha256 request (request.reservationFingerprint sha256)) j') :
    KeepsSet j j' request.key row := by
  have hallocation := hj.allocation_eq request.key
  rw [if_pos rfl, extensionAfter_of_stop hfor hstop, sorted_eq_self hset.ordered] at hallocation
  refine ⟨⟨_, hallocation, rfl, rfl, hstate.symm, rfl, hstored.symm⟩, fun s hs => ?_⟩
  have hrows : j'.reservation request.key s =
      (a.rows sha256 request s).or (j.reservation request.key s) := by
    rw [hj.reservation_eq, if_pos rfl]
  rw [hrows, rows_of_extension hnodup hfor hfaultless hs, Option.none_or]

/-- An operation may begin again after an attempt that was delayed, or failed with a complete
rollback. -/
lemma mayBegin_of_operationAfter {j' : Journal} {result : Except PyError ReserveResponse}
    (hrow : j'.operation (request.reserveKey senderUid) =
      some (operationAfter sha256 request result))
    (hcomplete : ∀ error, result = .error error → error.errorClass ≠ .rollbackIncomplete)
    (hdelayed : ∀ response, result = .ok response → response.decision = .delayed) :
    j'.MayBegin (request.reserveKey senderUid) (request.fingerprint sha256) := by
  intro operation hoperation
  cases hrow.symm.trans hoperation
  refine ⟨rfl, ?_⟩
  cases result with
  | ok response => simp [operationAfter, operationOutcome, hdelayed response rfl]
  | error error => simp [operationAfter, operationOutcome, hcomplete error rfl]

/-- A kept set has the plan it had. -/
lemma KeepsSet.planned_iff {j' : Journal} (h : KeepsSet j j' request.key row)
    (hrow : j.allocation request.key = some row) (hstate : row.state = .accepted)
    {stored : Json} (hstored : row.responseJson = some stored) :
    (∃ planned, request.beginAllocation sha256 j' = .ok planned ∧
      planned.1.missingServices ≠ []) ↔
    ∃ planned, request.beginAllocation sha256 j = .ok planned ∧
      planned.1.missingServices ≠ [] := by
  have hplan : (request.beginAllocation sha256 j').map Prod.fst =
      (request.beginAllocation sha256 j).map Prod.fst := h.plan_eq hrow hstate hstored
  cases hbefore : request.beginAllocation sha256 j with
  | error error =>
    cases hafter : request.beginAllocation sha256 j' with
    | error error' => simp
    | ok planned => simp [hbefore, hafter, Except.map] at hplan
  | ok planned =>
    cases hafter : request.beginAllocation sha256 j' with
    | error error' => simp [hbefore, hafter, Except.map] at hplan
    | ok planned' =>
      have hfst : planned'.1 = planned.1 := by simpa [hbefore, hafter, Except.map] using hplan
      simp [hfst]

/-- A rejected request is answered with the rejection again, and no QPM is called. -/
lemma rejection_replayed (hreachable : Reachable sha256 j)
    (valid : (Request.reserve request).Valid) {response : ReserveResponse}
    (hresponse : (serve sha256 j (.reserve request) senderUid oracle).1 = .reserve response)
    (hdecision : response.decision = .rejected) {oracle' : Oracle} {job : VerifiedJob}
    (hjob : oracle' 0 (.verifyReserve request senderUid) = .ok job) :
    (serve sha256 (serve sha256 j (.reserve request) senderUid oracle).2.state
        (.reserve request) senderUid oracle').1 = .reserve response ∧
      contacted (serve sha256 (serve sha256 j (.reserve request) senderUid oracle).2.state
        (.reserve request) senderUid oracle').2.trace = [] := by
  have hresult := reserveResult_of_response hresponse
  rcases serve_reserve_cases sha256 j valid senderUid oracle with ⟨failure, herror, -⟩ | hfirst
  · cases herror.symm.trans hresult
  have hsettled : ∀ row, j.allocation request.key = some row → row.Settled :=
    fun row hrow => settled_of_reachable hreachable hrow
  obtain ⟨operation, hoperation, hfingerprint, hcomplete, hread⟩ :=
    hfirst.complete_of_rejected hsettled hresult hdecision
  have hnot : operation.state ≠ .retryable := by
    rw [hcomplete]
    decide
  obtain ⟨-, hcalls, hreplays⟩ :=
    (reserves_serve sha256 _ valid hjob).replays_of_row hoperation hfingerprint hnot
  have hagain := hreplays.eq_of_complete hcomplete hread (by rw [hdecision]; decide)
  refine ⟨?_, ?_⟩
  · rw [serve_reserve_response, hagain]
  · rw [← contacted_adapterCalls, hcalls]
    rfl

/-- What a kept set gives when the other allocations and operations are unchanged. -/
lemma leavesIntact_of_keepsSet (hreachable : Reachable sha256 j)
    (valid : (Request.reserve request).Valid) (hrow : j.allocation request.key = some row)
    (hstate : row.state = .accepted)
    (hkept : KeepsSet j (serve sha256 j (.reserve request) senderUid oracle).2.state request.key row)
    (hreturned : ∀ pair ∈
      returned (serve sha256 j (.reserve request) senderUid oracle).2.trace,
      pair.1 ∉ row.serviceSet)
    (hagain : contacted (serve sha256 j (.reserve request) senderUid oracle).2.trace ≠ [] →
      ¬ EndsIncomplete sha256 j request senderUid oracle →
      (∀ response, (serve sha256 j (.reserve request) senderUid oracle).1 = .reserve response →
        response.decision ≠ .rejected) →
      (serve sha256 j (.reserve request) senderUid oracle).2.state.MayBegin
        (request.reserveKey senderUid) (request.fingerprint sha256)) :
    LeavesIntact sha256 j request senderUid oracle row := by
  have hsound := sound_of_reachable hreachable request.key
  obtain ⟨stored, -, hstored, -⟩ := (hsound.accepted row hrow hstate).response
  have hafter : Reachable sha256 (serve sha256 j (.reserve request) senderUid oracle).2.state :=
    hreachable.step (.handle (.reserve request) valid senderUid oracle)
  refine ⟨hkept, hreturned, ?_, ?_, ?_, ?_⟩
  · refine lookup_eq hkept hrow hstate hsound (sound_of_reachable hafter _) fun other hother => ?_
    exact Step.sameRows (.handle (.reserve request) valid senderUid oracle)
      fun h => hother (Option.some.inj h).symm
  · intro other senderUid' oracle' validOther hkey hoperation
    cases hjob : oracle' 0 (.verifyReserve other senderUid') with
    | error failure =>
      rw [(serve_unverified sha256 _ hjob).2, (serve_unverified sha256 j hjob).2]
    | ok job =>
      have hsame : (serve sha256 j (.reserve request) senderUid oracle).2.state.operation
          (other.reserveKey senderUid') = j.operation (other.reserveKey senderUid') :=
        Step.operation_of_ne (.handle (.reserve request) valid senderUid oracle)
          fun h => hoperation (Option.some.inj h).symm
      rw [contacted_serve_iff validOther hjob, contacted_serve_iff validOther hjob]
      rw [← hkey] at hkept hrow
      refine and_congr ?_ (hkept.planned_iff hrow hstate hstored)
      rw [Journal.MayBegin, Journal.MayBegin, hsame]
  · intro hcontacted hcomplete hrejected oracle' job hjob
    obtain ⟨firstJob, hfirst⟩ := verified_of_contacted hcontacted
    have hplanned := ((contacted_serve_iff valid hfirst).mp hcontacted).2
    exact (contacted_serve_iff valid hjob).mpr
      ⟨hagain hcontacted hcomplete hrejected, (hkept.planned_iff hrow hstate hstored).mpr hplanned⟩
  · intro response hresponse hdecision oracle' job hjob
    exact rejection_replayed hreachable valid hresponse hdecision hjob

/-- A response is the result of the reservation. -/
lemma serve_reserve_eq_iff {response : ReserveResponse} :
    (serve sha256 j (.reserve request) senderUid oracle).1 = .reserve response ↔
      reserveResult sha256 j request senderUid oracle = .ok response := by
  refine ⟨reserveResult_of_response, fun h => ?_⟩
  rw [serve_reserve_response, h]

/-- A request that calls no QPM and keeps every row leaves the set intact. -/
lemma leavesIntact_of_idle (hreachable : Reachable sha256 j)
    (valid : (Request.reserve request).Valid) (hrow : j.allocation request.key = some row)
    (hstate : row.state = .accepted)
    (hrows : SameRows j (serve sha256 j (.reserve request) senderUid oracle).2.state request.key)
    (hcalls : adapterCalls (serve sha256 j (.reserve request) senderUid oracle).2.trace = []) :
    LeavesIntact sha256 j request senderUid oracle row ∧
      contacted (serve sha256 j (.reserve request) senderUid oracle).2.trace = [] := by
  have hcontacted : contacted (serve sha256 j (.reserve request) senderUid oracle).2.trace = [] := by
    rw [← contacted_adapterCalls, hcalls]
    rfl
  refine ⟨leavesIntact_of_keepsSet hreachable valid hrow hstate (.of_sameRows hrow hrows) ?_
    fun h => absurd hcontacted h, hcontacted⟩
  rw [← returned_adapterCalls, hcalls]
  exact fun pair h => nomatch h

section Extended

variable {job : VerifiedJob} {a : Attempt} {stored : Json} {previous : ReserveResponse}
  (h : ExtendedBy sha256 j request senderUid row job a stored previous
    (reserveResult sha256 j request senderUid oracle)
    (serve sha256 j (.reserve request) senderUid oracle).2.state
    (adapterCalls (serve sha256 j (.reserve request) senderUid oracle).2.trace))

include h

/-- An extension that does not end accepted leaves the set intact. -/
lemma ExtendedBy.leavesIntact (hreachable : Reachable sha256 j)
    (valid : (Request.reserve request).Valid) (hrow : j.allocation request.key = some row)
    (hstate : row.state = .accepted)
    (hnot : ∀ response, (serve sha256 j (.reserve request) senderUid oracle).1 =
      .reserve response → response.decision ≠ .accepted) :
    LeavesIntact sha256 j request senderUid oracle row := by
  obtain ⟨-, hnodup, -⟩ := services_of_valid valid
  have hset := (sound_of_reachable hreachable request.key).accepted row hrow hstate
  have hstop : a.stop ≠ none := by
    intro hstop
    refine hnot (mergeExtension request previous
      ⟨request.requestId, .accepted, a.grants.map Grant.result⟩) (serve_reserve_eq_iff.mpr ?_) rfl
    rw [h.result_eq, Attempt.result, hstop, extensionResult, if_pos rfl]
  have hoperation := h.updated.operation_eq (request.reserveKey senderUid)
  rw [if_pos rfl] at hoperation
  have hupdated := h.updated
  rw [h.result_eq] at hupdated
  refine leavesIntact_of_keepsSet hreachable valid hrow hstate
    (keepsSet_of_stopped hnodup hset hstate h.extends_set.response_eq h.attempt_for h.faultless
      hstop previous hupdated) ?_ fun _ hcomplete hrejected => ?_
  · rw [← returned_adapterCalls, h.calls_eq, returned_adapterCalls]
    exact returned_of_extension hnodup h.attempt_for h.faultless job _
  · refine mayBegin_of_operationAfter hoperation (fun error herror hclass => ?_)
      fun response hresponse => ?_
    · exact hcomplete ⟨error, herror, hclass⟩
    · have haccepted := hnot response (serve_reserve_eq_iff.mpr hresponse)
      have hrejected := hrejected response (serve_reserve_eq_iff.mpr hresponse)
      cases hd : response.decision <;> simp_all

/-- An extension that ends accepted adds the results of the new services. -/
lemma ExtendedBy.addsResults {response : ReserveResponse}
    (hresponse : (serve sha256 j (.reserve request) senderUid oracle).1 = .reserve response)
    (hdecision : response.decision = .accepted) :
    AddsResults sha256 j request senderUid oracle row response := by
  have hok := serve_reserve_eq_iff.mp hresponse
  by_cases hstop : a.stop = none
  · have hgrants : a.grants.map Grant.serviceId = request.missing row := by
      simpa only [Attempt.For, hstop] using h.attempt_for
    rw [h.result_eq, Attempt.result, hstop, extensionResult, if_pos rfl] at hok
    refine ⟨previous, a.grants.map Grant.result, ?_, ?_, ?_, (Except.ok.inj hok).symm⟩
    · rw [h.extends_set.response_eq, h.previous_read hstop]
    · rw [List.map_map, ← hgrants]
      rfl
    · rw [← granted_adapterCalls, h.calls_eq, granted_adapterCalls,
        Attempt.granted_events sha256 request h.attempt_for h.faultless, map_pair_results,
        List.map_map]
      rfl
  · rw [h.result_eq, extensionResult_of_stop h.attempt_for hstop] at hok
    exact absurd ((Attempt.accepted_iff h.attempt_for _).mp ⟨response, hok, hdecision⟩) hstop

end Extended

end Extensions

/-- A reserve request on an accepted allocation that does not end accepted leaves the set intact; one
that reaches the QPMs and ends accepted adds the results of the new services. -/
theorem extension_intact_or_added (sha256 : Document → String) (steps : List Step)
    (request : ReserveRequest) (valid : (Request.reserve request).Valid) (senderUid : ℤ)
    (oracle : Oracle) (row : AllocationRow)
    (hrow : (journalAfter sha256 Journal.empty steps).allocation request.key = some row)
    (hstate : row.state = .accepted) :
    ((∀ response, (serve sha256 (journalAfter sha256 Journal.empty steps) (.reserve request)
        senderUid oracle).1 = .reserve response → response.decision ≠ .accepted) →
      LeavesIntact sha256 (journalAfter sha256 Journal.empty steps) request senderUid oracle row) ∧
    ∀ response, (serve sha256 (journalAfter sha256 Journal.empty steps) (.reserve request)
        senderUid oracle).1 = .reserve response → response.decision = .accepted →
      contacted (serve sha256 (journalAfter sha256 Journal.empty steps) (.reserve request)
        senderUid oracle).2.trace ≠ [] →
      AddsResults sha256 (journalAfter sha256 Journal.empty steps) request senderUid oracle row
        response := by
  have hreachable : Reachable sha256 (journalAfter sha256 Journal.empty steps) := ⟨steps, rfl⟩
  revert hrow hreachable
  generalize journalAfter sha256 Journal.empty steps = j
  intro hrow hreachable
  have hsettled : ∀ row, j.allocation request.key = some row → row.Settled :=
    fun row hrow => settled_of_reachable hreachable hrow
  rcases serve_reserve_cases sha256 j valid senderUid oracle with ⟨-, -, hj, hcalls⟩ | h
  · obtain ⟨hintact, hcontacted⟩ :=
      leavesIntact_of_idle hreachable valid hrow hstate (by rw [hj]; exact SameRows.refl j _) hcalls
    exact ⟨fun _ => hintact, fun _ _ _ h => absurd hcontacted h⟩
  rcases h.cases_of_accepted hsettled hrow hstate with ⟨hrows, hcalls⟩ |
    ⟨job, a, stored, previous, h⟩
  · obtain ⟨hintact, hcontacted⟩ := leavesIntact_of_idle hreachable valid hrow hstate hrows hcalls
    exact ⟨fun _ => hintact, fun _ _ _ h => absurd hcontacted h⟩
  exact ⟨h.leavesIntact hreachable valid hrow hstate, fun response hresponse hdecision _ =>
    h.addsResults hresponse hdecision⟩

/-- Every QPM rejects. -/
def rejecting : Oracle :=
  sampleOracle (fun _ => .ok (sampleRefusal .rejected rejected_ne_accepted)) fun _ => .ok ⟨"released"⟩

/-- The result of a service that rejected. -/
def sampleRejection : ServiceResult :=
  ⟨"qpm-b", .rejected, 0, none, none, none, none, some "runtime", some 1, none⟩

/-- An extension that is rejected. -/
theorem extension_intact_or_added_rejected :
    ∃ row, sampleAccepted.allocation sampleKey = some row ∧
      LeavesIntact sampleDigest sampleAccepted (sampleReserve 2 ["qpm-b"]) 1000 rejecting row := by
  have hstates : (sampleAccepted.allocation sampleKey).map (·.state) = some .accepted := by decide
  obtain ⟨row, hrow, hstate⟩ := Option.map_eq_some_iff.mp hstates
  refine ⟨row, hrow, (extension_intact_or_added sampleDigest
    [.handle (.reserve (sampleReserve 1 ["qpm-a"])) (by decide) 1000 obliging]
    (sampleReserve 2 ["qpm-b"]) (by decide) 1000 rejecting row hrow hstate).1 fun response h => ?_⟩
  have hrejected : (serve sampleDigest sampleAccepted (.reserve (sampleReserve 2 ["qpm-b"])) 1000
      rejecting).1 = .reserve ⟨2, .rejected, [sampleRejection]⟩ := by decide
  cases hrejected.symm.trans h
  decide

/-- A rejected extension is not tried again under its request id: the same request is answered with
the stored rejection, without a call to a QPM.  Nor is one whose rollback was incomplete: the same
request is refused. -/
theorem rejected_extension_replayed :
    (serve sampleDigest sampleAccepted (.reserve (sampleReserve 2 ["qpm-b"])) 1000 rejecting).1 =
      .reserve ⟨2, .rejected, [sampleRejection]⟩ ∧
    (serve sampleDigest (serve sampleDigest sampleAccepted (.reserve (sampleReserve 2 ["qpm-b"]))
      1000 rejecting).2.state (.reserve (sampleReserve 2 ["qpm-b"])) 1000 obliging).1 =
      .reserve ⟨2, .rejected, [sampleRejection]⟩ ∧
    contacted (serve sampleDigest (serve sampleDigest sampleAccepted
      (.reserve (sampleReserve 2 ["qpm-b"])) 1000 rejecting).2.state
      (.reserve (sampleReserve 2 ["qpm-b"])) 1000 obliging).2.trace = [] ∧
    EndsIncomplete sampleDigest sampleAccepted (sampleReserve 2 ["qpm-b", "qpm-c"]) 1000 stubborn ∧
    (∃ error, (serve sampleDigest (serve sampleDigest sampleAccepted
      (.reserve (sampleReserve 2 ["qpm-b", "qpm-c"])) 1000 stubborn).2.state
      (.reserve (sampleReserve 2 ["qpm-b", "qpm-c"])) 1000 obliging).1 = .error error) ∧
    contacted (serve sampleDigest (serve sampleDigest sampleAccepted
      (.reserve (sampleReserve 2 ["qpm-b", "qpm-c"])) 1000 stubborn).2.state
      (.reserve (sampleReserve 2 ["qpm-b", "qpm-c"])) 1000 obliging).2.trace = [] :=
  ⟨by decide, by decide, by decide, ⟨_, rfl, by decide⟩, ⟨_, rfl⟩, by decide⟩

end QfwSlurm
