import QfwSlurm.Gateway.Extension

/-!
# Stuck operations

An operation that is left `started` is answered with "requires recovery" from then on.  For an
evaluation this never happens, and for a reserve it is meant to happen only when its rollback was
incomplete.

`_reserve` begins the operation before it begins the allocation, and does not complete the operation
when `begin_allocation` refuses, or when the allocation's stored outcome is that of a release.
`Admits` is the condition under which neither happens.  `unstuck_iff` shows that it is exact: a run
keeps its operations unstuck if and only if the condition holds at each of its steps.
-/

namespace QfwSlurm

open Interaction

/-! ### Admitted requests -/

section Admission

variable (sha256 : Document → String) (request : ReserveRequest) (j : Journal)

/-- The allocation admits a reserve request: it is of the same job, no transaction of it is under
way, it was not released, the reservations it holds were made for the same workload, and an
incomplete release of it was not preceded by a reserve of the same content. -/
def Admits : Prop :=
  ∀ row, j.allocation request.key = some row →
    (row.jobUid = request.jobUid ∧ row.jobGid = request.jobGid) ∧
    match row.state with
    | .accepted => ∀ s ∈ request.serviceIds, s ∈ row.serviceSet →
      ∀ r, j.reservation request.key s = some r →
        r.requestFingerprint = some (request.reservationFingerprint sha256)
    | .delayed | .rolledBack | .rejected => True
    | .releaseIncomplete => row.requestFingerprint ≠ sha256 (allocationDocument request)
    | .reserving | .extending | .rollingBack | .released => False

/-- The verifier lets the request through, its operation begins, and the allocation does not accept
it. -/
def Obstructed (senderUid : ℤ) (oracle : Oracle) : Prop :=
  (∃ job, oracle 0 (.verifyReserve request senderUid) = .ok job) ∧
  j.MayBegin (request.reserveKey senderUid) (request.fingerprint sha256) ∧
  ¬ Admits sha256 request j

variable {sha256 request j}

/-- The workload check passes exactly when every service has an accepted row of the workload. -/
lemma checkAcceptedServices_ok_iff {key : AllocationKey} {fingerprint : String}
    {serviceIds : List String} :
    j.checkAcceptedServices key fingerprint serviceIds = .ok () ↔
      ∀ s ∈ serviceIds, ∃ r, j.reservation key s = some r ∧ r.state = .accepted ∧
        r.requestFingerprint = some fingerprint := by
  induction serviceIds with
  | nil => simp [Journal.checkAcceptedServices]
  | cons s rest ih =>
    rw [Journal.checkAcceptedServices, List.forall_mem_cons, ← ih]
    cases hr : j.reservation key s with
    | none => simp
    | some r =>
      by_cases hstate : r.state = .accepted
      · by_cases hworkload : r.requestFingerprint = some fingerprint
        · simp [hstate, hworkload]
        · simp [hstate, hworkload]
      · simp [hstate]

/-- On an accepted allocation, the workload check is the condition of `Admits`. -/
lemma AcceptedSet.check_ok_iff {row : AllocationRow} (h : AcceptedSet j request.key row) :
    j.checkAcceptedServices request.key (request.reservationFingerprint sha256)
        ((sorted request.serviceIds).filter (· ∈ row.serviceSet)) = .ok () ↔
      ∀ s ∈ request.serviceIds, s ∈ row.serviceSet → ∀ r, j.reservation request.key s = some r →
        r.requestFingerprint = some (request.reservationFingerprint sha256) := by
  rw [checkAcceptedServices_ok_iff]
  constructor
  · intro hcheck s hs hset r hr
    obtain ⟨r', hr', -, hworkload⟩ :=
      hcheck s (List.mem_filter.mpr ⟨mem_sorted.mpr hs, decide_eq_true hset⟩)
    cases hr.symm.trans hr'
    exact hworkload
  · intro hworkload s hs
    obtain ⟨hs, hset⟩ := List.mem_filter.mp hs
    obtain ⟨r, id, hr, hstate, -⟩ := h.accepted s (of_decide_eq_true hset)
    exact ⟨r, hr, hstate, hworkload s (mem_sorted.mp hs) (of_decide_eq_true hset) r hr⟩

section Conditions

variable (hsound : Sound j request.key)
  (hsettled : ∀ row, j.allocation request.key = some row → row.Settled)

include hsettled in
/-- An allocation that is reserved from the start admits the request. -/
lemma admits_of_restarts (h : Restarts sha256 request j) : Admits sha256 request j := by
  intro row hrow
  obtain ⟨hidentity, hstates⟩ := h row hrow
  refine ⟨hidentity, ?_⟩
  rcases hstates with hstate | hstate | ⟨hstate | hstate | ⟨hstate, hnone⟩, hfingerprint⟩
  · simp only [hstate]
  · simp only [hstate]
  · simp only [hstate]
  · simpa only [hstate] using hfingerprint
  · have hstored := hsettled row hrow
    simp [AllocationRow.Settled, hstate, hnone] at hstored

include hsound in
/-- An allocation that is extended admits the request. -/
lemma admits_of_extends {row : AllocationRow} {stored : Json}
    (h : Extends sha256 request j row stored) : Admits sha256 request j := by
  intro other hother
  cases h.allocation_eq.symm.trans hother
  refine ⟨h.identity, ?_⟩
  simp only [h.state_eq]
  exact (hsound.accepted row h.allocation_eq h.state_eq).check_ok_iff.mp h.checked

/-- An allocation that was rejected for the same content admits the request. -/
lemma admits_of_recalls {row : AllocationRow} {stored : Json}
    (h : Recalls sha256 request j row stored) (hstate : row.state = .rejected) :
    Admits sha256 request j := by
  intro other hother
  cases h.allocation_eq.symm.trans hother
  exact ⟨h.identity, by simp only [hstate]⟩

include hsound hsettled in
/-- An admitted request is not refused by `begin_allocation`. -/
lemma begins_of_admits (h : Admits sha256 request j) :
    ∃ planned, request.beginAllocation sha256 j = .ok planned := by
  cases hrow : j.allocation request.key with
  | none => exact ⟨_, beginAllocation_none hrow⟩
  | some row =>
    obtain ⟨hidentity, hadmits⟩ := h row hrow
    have hstored := hsettled row hrow
    cases hstate : row.state with
    | accepted =>
      have hset := hsound.accepted row hrow hstate
      obtain ⟨stored, -, hstored, -⟩ := hset.response
      simp only [hstate] at hadmits
      rw [beginAllocation_accepted hrow hidentity hstate hstored, planExtension_eq,
        hset.check_ok_iff.mpr hadmits]
      dsimp only
      split_ifs <;> exact ⟨_, rfl⟩
    | delayed => exact ⟨_, beginAllocation_restart hrow hidentity (.inl hstate)⟩
    | rolledBack => exact ⟨_, beginAllocation_restart hrow hidentity (.inr hstate)⟩
    | rejected =>
      simp only [AllocationRow.Settled, hstate] at hstored
      obtain ⟨response, -, hresponse⟩ := hstored
      rw [beginAllocation_other hrow hidentity (.inl hstate), hresponse]
      split_ifs <;> exact ⟨_, rfl⟩
    | releaseIncomplete =>
      simp only [hstate] at hadmits
      rw [beginAllocation_other hrow hidentity (.inr (.inl hstate)), if_pos hadmits]
      exact ⟨_, rfl⟩
    | reserving => simp only [hstate] at hadmits
    | extending => simp only [hstate] at hadmits
    | rollingBack => simp only [hstate] at hadmits
    | released => simp only [hstate] at hadmits

include hsettled in
/-- A stored outcome that is not one of a reserve is found by a request that is not admitted. -/
lemma not_admits_of_misread {row : AllocationRow} {stored : Json}
    (hplan : Extends sha256 request j row stored ∧ request.missing row = [] ∨
      Recalls sha256 request j row stored)
    (h : storedReserve (some stored) = none) : ¬ Admits sha256 request j := by
  intro hadmits
  rcases hplan with ⟨hextends, -⟩ | hrecalls
  · refine storedReserve_of_settled (hsettled row hextends.allocation_eq)
      (.inl hextends.state_eq) ?_
    rw [hextends.response_eq, h]
  · rcases hrecalls.state_eq with hstate | hstate
    · refine storedReserve_of_settled (hsettled row hrecalls.allocation_eq) (.inr hstate) ?_
      rw [hrecalls.response_eq, h]
    · have hrow := (hadmits row hrecalls.allocation_eq).2
      simp only [hstate] at hrow
      exact hrow hrecalls.fingerprint_eq

include hsound hsettled in
/-- What leaves an operation started: it was so before, its rollback was incomplete, or the
allocation did not accept the request. -/
lemma started_of_reserves {senderUid : ℤ} {result : Except PyError ReserveResponse} {j' : Journal}
    {calls : List Event} (h : Reserves sha256 request senderUid j result j' calls)
    {row : OperationRow} (hrow : j'.operation (request.reserveKey senderUid) = some row)
    (hstarted : row.state = .started) :
    j.operation (request.reserveKey senderUid) = some row ∨
    (∃ error, result = .error error ∧ error.errorClass = .rollbackIncomplete) ∨
    j.MayBegin (request.reserveKey senderUid) (request.fingerprint sha256) ∧
      ¬ Admits sha256 request j := by
  have hattempt {outcome : Except PyError ReserveResponse}
      (hoperation : j'.operation (request.reserveKey senderUid) =
        some (operationAfter sha256 request outcome)) :
      ∃ error, outcome = .error error ∧ error.errorClass = .rollbackIncomplete := by
    cases hoperation.symm.trans hrow
    cases outcome with
    | ok response =>
      simp only [operationAfter, operationOutcome] at hstarted
      split_ifs at hstarted
    | error error =>
      simp only [operationAfter, operationOutcome] at hstarted
      split_ifs at hstarted with hclass
      exact ⟨error, rfl, hclass⟩
  cases h with
  | conflicting operation hoperation hne => exact .inl hrow
  | replayed operation result hoperation hfingerprint hstate h => exact .inl hrow
  | refused error hbegin h =>
    refine .inr (.inr ⟨hbegin, fun hadmits => ?_⟩)
    obtain ⟨planned, hplanned⟩ := begins_of_admits hsound hsettled hadmits
    cases hplanned.symm.trans h
  | reused allocation stored response hbegin hplan h =>
    rw [Journal.operation_putOperation_self] at hrow
    cases hrow
    cases hstarted
  | misread allocation stored error hbegin hplan h herror =>
    exact .inr (.inr ⟨hbegin, not_admits_of_misread hsettled hplan h⟩)
  | attempted job a hbegin hrestart hfor hfaultless j' hj =>
    refine .inr (.inl (hattempt ?_))
    rw [hj.operation_eq, if_pos rfl]
  | extended job a allocation stored previous hbegin h hm hp hfor hfaultless j' hj =>
    refine .inr (.inl (hattempt ?_))
    rw [hj.operation_eq, if_pos rfl]
  | stranded job a allocation stored error hbegin hextends hm hs hp he hfor j' hj =>
    refine absurd ?_ (storedReserve_of_settled (hsettled allocation hextends.allocation_eq)
      (.inl hextends.state_eq))
    rw [hextends.response_eq, hp]

include hsound hsettled in
/-- A request that is not admitted leaves its operation started. -/
lemma started_of_not_admits {senderUid : ℤ} {result : Except PyError ReserveResponse}
    {j' : Journal} {calls : List Event} (h : Reserves sha256 request senderUid j result j' calls)
    (hmay : j.MayBegin (request.reserveKey senderUid) (request.fingerprint sha256))
    (hnot : ¬ Admits sha256 request j) :
    j'.operation (request.reserveKey senderUid) = some (begunRow (request.fingerprint sha256)) := by
  cases h with
  | conflicting row hrow hne => exact absurd (hmay row hrow).1 hne
  | replayed row result hrow hfingerprint hstate h => exact absurd (hmay row hrow).2 hstate
  | refused error hbegin h => exact Journal.operation_putOperation_self _ _ _
  | reused row stored response hbegin hplan h =>
    refine absurd ?_ hnot
    rcases hplan with ⟨hextends, -⟩ | hrecalls
    · exact admits_of_extends hsound hextends
    · refine admits_of_recalls hrecalls (hrecalls.state_eq.resolve_right fun hstate => ?_)
      have hrow := hsettled row hrecalls.allocation_eq
      simp only [AllocationRow.Settled, hstate] at hrow
      obtain ⟨release, hrelease⟩ := hrow
      rw [← hrecalls.response_eq, hrelease, storedReserve_release] at h
      cases h
  | misread row stored error hbegin hplan h herror => exact Journal.operation_putOperation_self _ _ _
  | attempted job a hbegin hrestart hfor hfaultless j' hj =>
    exact absurd (admits_of_restarts hsettled hrestart) hnot
  | extended job a row stored previous hbegin hextends hm hp hfor hfaultless j' hj =>
    exact absurd (admits_of_extends hsound hextends) hnot
  | stranded job a row stored error hbegin hextends hm hs hp he hfor j' hj =>
    exact absurd (admits_of_extends hsound hextends) hnot

end Conditions

end Admission

/-! ### Repeated refusals -/

section Refusals

variable {sha256 : Document → String} {request : ReserveRequest} {senderUid : ℤ} {j j' : Journal}

/-- `accepted_allocation` reads the row of the allocation. -/
lemma acceptedAllocation_congr (h : j'.allocation request.key = j.allocation request.key) :
    j'.acceptedAllocation request.key request.jobUid request.jobGid request.serviceIds =
      j.acceptedAllocation request.key request.jobUid request.jobGid request.serviceIds := by
  rw [Journal.acceptedAllocation, Journal.acceptedAllocation, h]

/-- A replay is a function of the operation and the allocation. -/
lemma Replays.unique {row : OperationRow} (hrow : row.Recorded)
    (hsettled : ∀ row, j.allocation request.key = some row → row.Settled)
    (hallocation : j'.allocation request.key = j.allocation request.key)
    {result result' : Except PyError ReserveResponse} (h : Replays request j row result)
    (h' : Replays request j' row result') : result' = result := by
  have hreadable (hstate : row.state = .complete) : storedReserve row.responseJson ≠ none := by
    simp only [OperationRow.Recorded, hstate] at hrow
    obtain ⟨response, hresponse⟩ := hrow
    simp [hresponse]
  have hkept {stored : Json} (h : j.acceptedAllocation request.key request.jobUid request.jobGid
      request.serviceIds = .ok (some stored)) : storedReserve (some stored) ≠ none := by
    obtain ⟨allocation, hallocation, hstate, hstored, -⟩ := accepted_of_some h
    rw [← hstored]
    exact storedReserve_of_settled (hsettled allocation hallocation) (.inl hstate)
  have hfinished (hstate : row.state = .complete) :
      ¬ (row.state ≠ .complete ∨ row.responseJson = none) := by
    rintro (hne | hnone)
    · exact hne hstate
    · exact hreadable hstate (by rw [hnone]; rfl)
  have hsame := acceptedAllocation_congr hallocation
  -- the cases with an unreadable stored response are excluded, the others determine the result
  cases h with
  | unreadable error hstate hnone herror => exact absurd hnone (hreadable hstate)
  | garbled response stored error hstate hread hd hj hnow herror => exact absurd hnow (hkept hj)
  | unfinished h =>
    cases h' with
    | unfinished h' => rfl
    | unreadable error hstate hnone herror => exact absurd h (hfinished hstate)
    | settled response hstate hread hd => exact absurd h (hfinished hstate)
    | denied response error hstate hread hd hj => exact absurd h (hfinished hstate)
    | gone response hstate hread hd hj => exact absurd h (hfinished hstate)
    | current response now stored hstate hread hd hj hnow => exact absurd h (hfinished hstate)
    | garbled response stored error hstate hread hd hj hnow herror =>
      exact absurd h (hfinished hstate)
  | settled response hstate hread hd =>
    cases h' with
    | unfinished h' => exact absurd h' (hfinished hstate)
    | unreadable error hstate hnone herror => exact absurd hnone (hreadable hstate)
    | settled response' hstate' hread' hd' => rw [Option.some.inj (hread.symm.trans hread')]
    | _ => simp_all
  | denied response error hstate hread hd hj =>
    cases h' with
    | unfinished h' => exact absurd h' (hfinished hstate)
    | unreadable error hstate hnone herror => exact absurd hnone (hreadable hstate)
    | _ => simp_all
  | gone response hstate hread hd hj =>
    cases h' with
    | unfinished h' => exact absurd h' (hfinished hstate)
    | unreadable error hstate hnone herror => exact absurd hnone (hreadable hstate)
    | _ => simp_all
  | current response now stored hstate hread hd hj hnow =>
    cases h' with
    | unfinished h' => exact absurd h' (hfinished hstate)
    | unreadable error hstate hnone herror => exact absurd hnone (hreadable hstate)
    | _ => simp_all

/-- An attempt calls the adapter. -/
lemma adapterCalls_attempt_ne_nil {a : Attempt} {serviceIds : List String} (hfor : a.For serviceIds)
    (hservices : serviceIds ≠ []) (job : VerifiedJob) (fingerprint : String) :
    adapterCalls (a.events sha256 request job fingerprint) ≠ [] := by
  intro hnil
  have hcontacted : contacted (a.events sha256 request job fingerprint) = [] := by
    rw [← contacted_adapterCalls, hnil]
    rfl
  exact contacted_attempt_ne_nil hfor hservices job fingerprint hcontacted

variable (sha256 request senderUid j) in
/-- A refusal that called no QPM is repeated for the same request as long as its operation and its
allocation stay as they are and the verifier's verdict is the same. -/
def RepeatsRefusal (oracle : Oracle) : Prop :=
  ∀ response, (serve sha256 j (.reserve request) senderUid oracle).1 = .error response →
    adapterCalls (serve sha256 j (.reserve request) senderUid oracle).2.trace = [] →
    ∀ later oracle',
      SameRows (serve sha256 j (.reserve request) senderUid oracle).2.state later request.key →
      later.operation (request.reserveKey senderUid) =
        (serve sha256 j (.reserve request) senderUid oracle).2.state.operation
          (request.reserveKey senderUid) →
      oracle' 0 (.verifyReserve request senderUid) = oracle 0 (.verifyReserve request senderUid) →
      (serve sha256 later (.reserve request) senderUid oracle').1 = .error response

/-- What is raised without a call to a QPM is raised again. -/
lemma result_eq_of_refused (hsound : Sound j request.key)
    (hsettled : ∀ row, j.allocation request.key = some row → row.Settled)
    (hrecorded : ∀ row, j.operation (request.reserveKey senderUid) = some row → row.Recorded)
    (hservices : request.serviceIds ≠ [])
    (hadmits : j.MayBegin (request.reserveKey senderUid) (request.fingerprint sha256) →
      Admits sha256 request j)
    {result result' : Except PyError ReserveResponse} {j₁ j₂ : Journal} {calls calls' : List Event}
    (h : Reserves sha256 request senderUid j result j₁ calls) {error : PyError}
    (hresult : result = .error error) (hcalls : calls = []) (hrows : SameRows j₁ j' request.key)
    (hoperation : j'.operation (request.reserveKey senderUid) =
      j₁.operation (request.reserveKey senderUid))
    (h' : Reserves sha256 request senderUid j' result' j₂ calls') : result' = .error error := by
  cases h with
  | conflicting row hrow hne =>
    rw [hrow] at hoperation
    have hnot : ¬ j'.MayBegin (request.reserveKey senderUid) (request.fingerprint sha256) :=
      fun hmay => hne (hmay row hoperation).1
    cases hresult
    cases h' with
    | conflicting row' hrow' hne' => rfl
    | replayed row' result' hrow' hfingerprint' hstate' h' =>
      cases hoperation.symm.trans hrow'
      exact absurd hfingerprint' hne
    | refused error' hbegin' h' => exact absurd hbegin' hnot
    | reused _ _ _ hbegin' _ _ => exact absurd hbegin' hnot
    | misread _ _ _ hbegin' _ _ _ => exact absurd hbegin' hnot
    | attempted _ _ hbegin' _ _ _ _ _ => exact absurd hbegin' hnot
    | extended _ _ _ _ _ hbegin' _ _ _ _ _ _ _ => exact absurd hbegin' hnot
    | stranded _ _ _ _ _ hbegin' _ _ _ _ _ _ _ _ => exact absurd hbegin' hnot
  | replayed row result hrow hfingerprint hstate h =>
    rw [hrow] at hoperation
    have hnot : ¬ j'.MayBegin (request.reserveKey senderUid) (request.fingerprint sha256) :=
      fun hmay => hstate (hmay row hoperation).2
    cases h' with
    | conflicting row' hrow' hne' =>
      cases hoperation.symm.trans hrow'
      exact absurd hfingerprint hne'
    | replayed row' result' hrow' hfingerprint' hstate' h' =>
      cases hoperation.symm.trans hrow'
      rw [← hresult]
      exact h.unique (hrecorded row hrow) hsettled hrows.allocation_eq h'
    | refused error' hbegin' h' => exact absurd hbegin' hnot
    | reused _ _ _ hbegin' _ _ => exact absurd hbegin' hnot
    | misread _ _ _ hbegin' _ _ _ => exact absurd hbegin' hnot
    | attempted _ _ hbegin' _ _ _ _ _ => exact absurd hbegin' hnot
    | extended _ _ _ _ _ hbegin' _ _ _ _ _ _ _ => exact absurd hbegin' hnot
    | stranded _ _ _ _ _ hbegin' _ _ _ _ _ _ _ _ => exact absurd hbegin' hnot
  | refused failure hbegin h =>
    obtain ⟨planned, hplanned⟩ := begins_of_admits hsound hsettled (hadmits hbegin)
    cases hplanned.symm.trans h
  | reused row stored response hbegin hplan h => cases hresult
  | misread row stored failure hbegin hplan h hfailure =>
    exact absurd (hadmits hbegin) (not_admits_of_misread hsettled hplan h)
  | attempted job a hbegin hrestart hfor hfaultless j₁ hj =>
    exact absurd hcalls (adapterCalls_attempt_ne_nil hfor (by simpa using hservices) job _)
  | extended job a row stored previous hbegin hextends hm hp hfor hfaultless j₁ hj =>
    exact absurd hcalls (adapterCalls_attempt_ne_nil hfor hm job _)
  | stranded job a row stored failure hbegin hextends hm hs hp he hfor j₁ hj =>
    exact absurd hcalls (adapterCalls_attempt_ne_nil hfor hm job _)

/-- Refusals of requests that are not obstructed are repeated. -/
lemma repeatsRefusal_of_not_obstructed (hreachable : Reachable sha256 j)
    (valid : (Request.reserve request).Valid) {oracle : Oracle}
    (hnot : ¬ Obstructed sha256 request j senderUid oracle) :
    RepeatsRefusal sha256 request senderUid j oracle := by
  intro response hresponse hcalls later oracle' hrows hoperation hverdict
  rw [serve_reserve_response] at hresponse ⊢
  suffices hsame : ∀ error, reserveResult sha256 j request senderUid oracle = .error error →
      reserveResult sha256 later request senderUid oracle' = .error error by
    cases hresult : reserveResult sha256 j request senderUid oracle with
    | ok value =>
      rw [hresult] at hresponse
      cases hresponse
    | error error =>
      rw [hresult] at hresponse
      rw [hsame error hresult]
      exact hresponse
  intro error herror
  cases hjob : oracle 0 (.verifyReserve request senderUid) with
  | error failure =>
    rw [← herror, (serve_unverified sha256 j hjob).1]
    exact (serve_unverified sha256 later (hverdict.trans hjob)).1
  | ok job =>
    refine result_eq_of_refused (sound_of_reachable hreachable _)
      (fun row hrow => settled_of_reachable hreachable hrow)
      (fun row hrow => recorded_of_reachable hreachable rfl hrow) (services_of_valid valid).1
      (fun hmay => not_not.mp fun hadmits => hnot ⟨⟨job, hjob⟩, hmay, hadmits⟩)
      (reserves_serve sha256 j valid hjob) herror hcalls hrows hoperation
      (reserves_serve sha256 later valid (hverdict.trans hjob))

end Refusals

/-! ### Runs -/

section Runs

variable (sha256 : Document → String)

/-- An operation of the run is that of a reserve whose rollback was incomplete. -/
def IncompleteIn (steps : List Step) (k : OperationKey) : Prop :=
  ∃ before request valid senderUid oracle after,
    steps = before ++ Step.handle (.reserve request) valid senderUid oracle :: after ∧
    request.reserveKey senderUid = k ∧
    EndsIncomplete sha256 (journalAfter sha256 Journal.empty before) request senderUid oracle

/-- An operation that was left started, other than a release, is that of a reserve whose rollback
was incomplete. -/
def StartedIncomplete (steps : List Step) : Prop :=
  ∀ k row, (journalAfter sha256 Journal.empty steps).operation k = some row →
    k.operation = .evaluate ∨ k.operation = .reserve → row.state = .started →
    IncompleteIn sha256 steps k

/-- No operation of the run gets stuck: this holds at every request boundary, and refusals are
repeated. -/
structure Unstuck (steps : List Step) : Prop where
  started : ∀ before, before <+: steps → StartedIncomplete sha256 before
  repeats : ∀ before request valid senderUid oracle after,
    steps = before ++ Step.handle (.reserve request) valid senderUid oracle :: after →
    RepeatsRefusal sha256 request senderUid (journalAfter sha256 Journal.empty before) oracle

variable {sha256}

/-- A longer run has the same incomplete rollbacks, and more. -/
lemma IncompleteIn.append {steps : List Step} {k : OperationKey}
    (h : IncompleteIn sha256 steps k) (more : List Step) : IncompleteIn sha256 (steps ++ more) k := by
  obtain ⟨before, request, valid, senderUid, oracle, after, rfl, hk, hincomplete⟩ := h
  exact ⟨before, request, valid, senderUid, oracle, after ++ more, by simp, hk, hincomplete⟩

/-- An evaluation is never left started. -/
lemma evaluation_ne_started {j : Journal} (hreachable : Reachable sha256 j) {k : OperationKey}
    (hk : k.operation = .evaluate) {row : OperationRow} (hrow : j.operation k = some row) :
    row.state ≠ .started := by
  obtain ⟨steps, rfl⟩ := hreachable
  refine after_invariant (Step.next sha256)
    (fun j => ∀ row, j.operation k = some row → row.state ≠ .started) (fun j step hj => ?_)
    (by simp) steps row hrow
  by_cases hstep : step.operationKey = some k
  swap
  · rw [step.operation_of_ne hstep]
    exact hj
  cases step with
  | retry request oracle => cases hstep
  | handle request valid senderUid oracle =>
    cases request with
    | reserve request =>
      cases hstep
      cases hk
    | release request =>
      cases hstep
      cases hk
    | getReservations request => cases hstep
    | evaluate request =>
      obtain ⟨result, h⟩ := evaluates_serve sha256 j request senderUid oracle
      obtain rfl := Option.some.inj hstep
      intro row hrow
      rw [Step.next, Step.world] at hrow
      revert h hrow
      generalize (serve sha256 j (.evaluate request) senderUid oracle).2.state = j'
      generalize adapterCalls (serve sha256 j (.evaluate request) senderUid oracle).2.trace = calls
      intro h hrow
      cases h with
      | idle => exact hj row hrow
      | evaluated calls hbegin hcalls =>
        rw [Journal.operation_putOperation_self] at hrow
        cases hrow
        cases result with
        | ok response =>
          simp only [evaluationOutcome]
          split_ifs <;> simp
        | error error => simp [evaluationOutcome]

/-- A step that is not obstructed keeps the operations unstuck. -/
lemma StartedIncomplete.step {steps : List Step} (h : StartedIncomplete sha256 steps) {step : Step}
    (hstep : ∀ request valid senderUid oracle,
      step = .handle (.reserve request) valid senderUid oracle →
      ¬ Obstructed sha256 request (journalAfter sha256 Journal.empty steps) senderUid oracle) :
    StartedIncomplete sha256 (steps ++ [step]) := by
  intro k row hrow hk hstarted
  have hreachable : Reachable sha256 (journalAfter sha256 Journal.empty (steps ++ [step])) :=
    ⟨_, rfl⟩
  have hk : k.operation = .reserve := hk.resolve_left fun hk =>
    evaluation_ne_started hreachable hk hrow hstarted
  rw [journalAfter_concat] at hrow
  by_cases hown : step.operationKey = some k
  swap
  · rw [step.operation_of_ne hown] at hrow
    exact (h k row hrow (.inr hk) hstarted).append _
  obtain ⟨request, valid, senderUid, oracle, rfl, rfl⟩ := Step.eq_of_operationKey hown hk
  have hbefore : Reachable sha256 (journalAfter sha256 Journal.empty steps) := ⟨steps, rfl⟩
  rw [Step.next, Step.world] at hrow
  cases hjob : oracle 0 (.verifyReserve request senderUid) with
  | error failure =>
    rw [(serve_unverified sha256 _ hjob).2] at hrow
    exact (h _ row hrow (.inr hk) hstarted).append _
  | ok job =>
    rcases started_of_reserves (sound_of_reachable hbefore _)
      (fun row hrow => settled_of_reachable hbefore hrow) (reserves_serve sha256 _ valid hjob) hrow
      hstarted with hold | hincomplete | ⟨hmay, hnot⟩
    · exact (h _ row hold (.inr hk) hstarted).append _
    · exact ⟨steps, request, valid, senderUid, oracle, [], rfl, rfl, hincomplete⟩
    · exact absurd ⟨⟨job, hjob⟩, hmay, hnot⟩ (hstep request valid senderUid oracle rfl)

/-- The operation of an incomplete rollback is started from then on. -/
lemma IncompleteIn.started {steps : List Step} {k : OperationKey}
    (h : IncompleteIn sha256 steps k) :
    ∃ row, (journalAfter sha256 Journal.empty steps).operation k = some row ∧
      row.state = .started := by
  obtain ⟨before, request, valid, senderUid, oracle, later, rfl, rfl, hincomplete⟩ := h
  have hrow := (hincomplete.cases ⟨before, rfl⟩ valid).2.1
  refine ⟨begunRow (request.fingerprint sha256), ?_, rfl⟩
  rw [journalAfter, after_append, after_cons]
  exact after_invariant (Step.next sha256)
    (fun j => j.operation (request.reserveKey senderUid) =
      some (begunRow (request.fingerprint sha256)))
    (fun j step hj => step.operation_of_started rfl hj rfl) hrow later

/-- An obstructed step leaves an operation stuck. -/
lemma not_startedIncomplete_of_obstructed {steps : List Step} {request : ReserveRequest}
    (valid : (Request.reserve request).Valid) {senderUid : ℤ} {oracle : Oracle}
    (h : Obstructed sha256 request (journalAfter sha256 Journal.empty steps) senderUid oracle) :
    ¬ StartedIncomplete sha256 (steps ++ [.handle (.reserve request) valid senderUid oracle]) := by
  obtain ⟨⟨job, hjob⟩, hmay, hnot⟩ := h
  have hbefore : Reachable sha256 (journalAfter sha256 Journal.empty steps) := ⟨steps, rfl⟩
  have hsound := sound_of_reachable hbefore request.key
  have hsettled : ∀ row, (journalAfter sha256 Journal.empty steps).allocation request.key =
      some row → row.Settled := fun row hrow => settled_of_reachable hbefore hrow
  have hrow := started_of_not_admits hsound hsettled (reserves_serve sha256 _ valid hjob) hmay hnot
  intro hstarted
  obtain ⟨before, request', valid', senderUid', oracle', later, hsplit, hk, hincomplete⟩ :=
    hstarted (request.reserveKey senderUid) _ (by rw [journalAfter_concat]; exact hrow) (.inr rfl)
      rfl
  rcases List.eq_nil_or_concat later with rfl | ⟨later, last, rfl⟩
  · -- the incomplete rollback would be that of the last step
    obtain ⟨rfl, hlast⟩ := List.append_inj' hsplit rfl
    cases hlast
    obtain ⟨-, -, ⟨hrestarts, -⟩ | ⟨row, stored, hextends, -⟩⟩ := hincomplete.cases hbefore valid
    · exact hnot (admits_of_restarts hsettled hrestarts)
    · exact hnot (admits_of_extends hsound hextends)
  · -- or of an earlier one, which would have left the operation started
    rw [List.concat_eq_append, ← List.cons_append, ← List.append_assoc] at hsplit
    obtain ⟨rfl, -⟩ := List.append_inj' hsplit rfl
    obtain ⟨row, hearlier, hstate⟩ := IncompleteIn.started (k := request.reserveKey senderUid)
      ⟨before, request', valid', senderUid', oracle', later, rfl, hk, hincomplete⟩
    exact not_mayBegin_of_started hearlier hstate hmay

end Runs

/-- The operations of a run stay unstuck exactly when no reserve request of it is obstructed: each
one that is verified and whose operation begins is admitted by its allocation. -/
theorem unstuck_iff (sha256 : Document → String) (steps : List Step) :
    Unstuck sha256 steps ↔
      ∀ before request valid senderUid oracle after,
        steps = before ++ Step.handle (.reserve request) valid senderUid oracle :: after →
        ¬ Obstructed sha256 request (journalAfter sha256 Journal.empty before) senderUid oracle := by
  constructor
  · rintro h before request valid senderUid oracle later rfl hobstructed
    refine not_startedIncomplete_of_obstructed valid hobstructed (h.started _ ?_)
    exact ⟨later, by simp⟩
  · intro h
    refine ⟨fun before hbefore => ?_, fun before request valid senderUid oracle later hsplit => ?_⟩
    · induction before using List.reverseRecOn with
      | nil => rintro k row ⟨⟩
      | append_singleton before step ih =>
        obtain ⟨rest, rfl⟩ := hbefore
        refine (ih ⟨[step] ++ rest, by simp⟩).step ?_
        rintro request valid senderUid oracle rfl
        exact h before request valid senderUid oracle rest (by simp)
    · exact repeatsRefusal_of_not_obstructed ⟨before, rfl⟩ valid
        (h before request valid senderUid oracle later hsplit)

/-- A reserve request for an allocation that was released is refused, and its repeat is told that
the operation requires recovery. -/
theorem released_reserve_stuck :
    ¬ Unstuck sampleDigest (sampleRelinquished ++
      [.handle (.reserve (sampleReserve 3 ["qpm-a"])) (by decide) 1000 obliging]) := by
  intro h
  have hrefused : (serve sampleDigest (journalAfter sampleDigest Journal.empty sampleRelinquished)
      (.reserve (sampleReserve 3 ["qpm-a"])) 1000 obliging).1 =
        .error ⟨.requestConflict, some 3, some "allocation was already released"⟩ := by decide
  have hcalls : adapterCalls (serve sampleDigest (journalAfter sampleDigest Journal.empty
      sampleRelinquished) (.reserve (sampleReserve 3 ["qpm-a"])) 1000 obliging).2.trace = [] := by
    decide
  have hstuck : (serve sampleDigest (serve sampleDigest (journalAfter sampleDigest Journal.empty
      sampleRelinquished) (.reserve (sampleReserve 3 ["qpm-a"])) 1000 obliging).2.state
      (.reserve (sampleReserve 3 ["qpm-a"])) 1000 obliging).1 =
        .error ⟨.internal, some 3, some "reserve operation requires recovery"⟩ := by decide
  have hrepeat := h.repeats sampleRelinquished (sampleReserve 3 ["qpm-a"]) (by decide) 1000 obliging
    [] rfl _ hrefused hcalls _ obliging (SameRows.refl _ _) rfl rfl
  cases hrepeat.symm.trans hstuck

end QfwSlurm
