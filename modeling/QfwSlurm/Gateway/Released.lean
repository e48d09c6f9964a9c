import QfwSlurm.Gateway.Blocked
import QfwSlurm.Gateway.Footprint

/-!
# Released allocations

`_release` counts a reservation at a restarted QPM as settled, and so can leave an allocation
`released` with a row that `_release_one` does not take for terminal.  A later pass comes back to
that row; if it fails there, the allocation is `release-incomplete` and open for reservations again.

A released allocation without such a row stays released whatever follows, and only such a one does.
-/

namespace QfwSlurm

open Interaction

/-- The event is a call of `adapter.reserve` for the allocation. -/
def Event.ReservesFor (key : AllocationKey) : Event → Prop
  | ⟨.call (.reserve _ request _), _⟩ => request.key = key
  | _ => False

/-- The allocation is released. -/
def IsReleased (key : AllocationKey) (j : Journal) : Prop :=
  ∃ row, j.allocation key = some row ∧ row.state = .released

/-- Every row of the allocation with a reservation id is in a state that a release pass leaves
alone. -/
def NothingLeft (key : AllocationKey) (j : Journal) : Prop :=
  ∀ s row, j.reservation key s = some row → row.reservationId ≠ none →
    row.state.isTerminal = true

/-- Whatever follows, the allocation is released and no QPM is asked to reserve for it. -/
def ReleasedForGood (sha256 : Document → String) (key : AllocationKey) (j : Journal) : Prop :=
  ∀ later : List Step, IsReleased key (journalAfter sha256 j later) ∧
    ∀ step : Step, ∀ event ∈ step.trace sha256 (journalAfter sha256 j later),
      ¬ Event.ReservesFor key event

section Passes

variable {sha256 : Document → String} {j j' : Journal} {key : AllocationKey} {visits : List Visit}
  {calls : List Event}

/-- A pass asks no QPM for a reservation. -/
lemma asked_visits (request : ReleaseRequest) (visits : List Visit) :
    asked (visits.flatMap (Visit.calls · request)) = [] := by
  induction visits with
  | nil => rfl
  | cons v visits ih =>
    rw [List.flatMap_cons, asked_append, ih, List.append_nil, Visit.calls]
    rcases v.disposal with - | (- | - | - | -) <;> rfl

lemma Releases.asked_eq_nil {request : ReleaseRequest} {senderUid : ℤ}
    {result : Except PyError ReleaseResponse}
    (h : Releases sha256 request senderUid j result j' calls) : asked calls = [] := by
  cases h with
  | unknown visits hbegin hpass hallocation j' hj => exact asked_visits request visits
  | released row visits hbegin hpass hallocation j' hj => exact asked_visits request visits
  | _ => rfl

lemma Retries.asked_eq_nil {request : ReleaseRequest} {result : Except PyError ReleaseResponse}
    (h : Retries request j result j' calls) : asked calls = [] := by
  cases h with
  | unknown visits hpass hallocation j' hj => exact asked_visits request visits
  | retried row visits hpass hallocation j' hj => exact asked_visits request visits

/-- Where nothing is left, a pass leaves every row alone. -/
lemma Passes.disposal_eq_none (h : Passes (j.reservations key) visits) (hleft : NothingLeft key j) :
    ∀ v ∈ visits, v.disposal = none := by
  intro v hv
  have hrecord : v.record ∈ (j.reservations key).filter (·.reservationId ≠ none) :=
    h.1 ▸ List.mem_map_of_mem hv
  obtain ⟨hin, hid⟩ := List.mem_filter.mp hrecord
  obtain ⟨row, hrow, heq⟩ := Journal.mem_reservations.mp hin
  have hterminal : v.record.state.isTerminal = true := by
    rw [← heq] at hid ⊢
    exact hleft _ row hrow (of_decide_eq_true hid)
  have hsound := (h.2 v hv).2
  cases hd : v.disposal with
  | none => rfl
  | some disposal =>
    rw [hd] at hsound
    cases hterminal.symm.trans hsound.1

/-- Such a pass writes nothing, and the allocation is released after it. -/
lemma Passes.of_nothingLeft (h : Passes (j.reservations key) visits) (hleft : NothingLeft key j) :
    visits.flatMap Visit.writes = [] ∧
      (∀ request : ReleaseRequest, releasedState ReservationState.isUnresolved
        (request.response visits).results = .released) ∧
      ∀ request : ReleaseRequest, releasedState ReservationState.isRetryUnresolved
        (request.response visits).results = .released := by
  have hnone := h.disposal_eq_none hleft
  have hresult : ∀ item ∈ visits.map Visit.result, item.state = .alreadyTerminal := by
    intro item hitem
    obtain ⟨v, hv, rfl⟩ := List.mem_map.mp hitem
    simp [Visit.result, hnone v hv]
  have hstate (unresolved : ReservationState → Bool) (hun : unresolved .alreadyTerminal = false)
      (request : ReleaseRequest) :
      releasedState unresolved (request.response visits).results = .released := by
    refine if_neg fun hany => ?_
    obtain ⟨item, hitem, hitemState⟩ := List.any_eq_true.mp hany
    rw [hresult item hitem, hun] at hitemState
    cases hitemState
  refine ⟨List.flatMap_eq_nil_iff.mpr fun v hv => ?_, hstate _ rfl, hstate _ rfl⟩
  rw [Visit.writes, hnone v hv]

end Passes

section Steps

variable {sha256 : Document → String} {j : Journal} {key : AllocationKey}

lemma NothingLeft.congr {j' : Journal} (h : NothingLeft key j)
    (hrows : ∀ s, j'.reservation key s = j.reservation key s) : NothingLeft key j' := by
  intro s row hrow
  rw [hrows] at hrow
  exact h s row hrow

lemma IsReleased.congr {j' : Journal} (h : IsReleased key j)
    (hrow : j'.allocation key = j.allocation key) : IsReleased key j' := by
  unfold IsReleased
  rw [hrow]
  exact h

/-- A released allocation with nothing left stays so at every step. -/
lemma released_step (step : Step) (h : IsReleased key j ∧ NothingLeft key j) :
    IsReleased key (step.next sha256 j) ∧ NothingLeft key (step.next sha256 j) := by
  refine Step.keeps key (fun j => IsReleased key j ∧ NothingLeft key j) ?_ ?_ ?_ ?_ step h
  · intro j j' hsame ⟨hreleased, hleft⟩
    exact ⟨hreleased.congr hsame.allocation_eq, hleft.congr hsame.reservation_eq⟩
  · rintro request senderUid j j' result calls rfl valid hreserves ⟨⟨row, hrow, hstate⟩, hleft⟩
    obtain ⟨hsame, -⟩ := hreserves.of_closed hrow (by rw [hstate]; rfl)
    exact ⟨IsReleased.congr ⟨row, hrow, hstate⟩ hsame.allocation_eq, hleft.congr hsame.reservation_eq⟩
  · rintro request senderUid j j' result calls rfl hreleases ⟨⟨row, hrow, hstate⟩, hleft⟩
    cases hreleases with
    | conflicting operation hoperation hne => exact ⟨⟨row, hrow, hstate⟩, hleft⟩
    | replayed operation result hoperation hfingerprint hcomplete h =>
      exact ⟨⟨row, hrow, hstate⟩, hleft⟩
    | unverified failure hbegin => exact ⟨⟨row, hrow, hstate⟩, hleft⟩
    | unknown visits hbegin hpass hallocation j' hj => cases hallocation.symm.trans hrow
    | released other visits hbegin hpass hallocation j' hj =>
      obtain ⟨hwrites, hreleased, -⟩ := hpass.of_nothingLeft hleft
      rw [hwrites] at hj
      refine ⟨⟨_, by rw [hj.allocation_eq, if_pos rfl], hreleased request⟩, hleft.congr fun s => ?_⟩
      rw [hj.reservation_eq, if_pos rfl, written_nil, Option.none_or]
  · rintro request j j' result calls rfl hretries ⟨⟨row, hrow, hstate⟩, hleft⟩
    cases hretries with
    | unknown visits hpass hallocation j' hj => cases hallocation.symm.trans hrow
    | retried other visits hpass hallocation j' hj =>
      obtain ⟨hwrites, -, hreleased⟩ := hpass.of_nothingLeft hleft
      rw [hwrites, Journal.writeAll_nil] at hj
      subst hj
      exact ⟨⟨_, Journal.allocation_putAllocation_self _ _ _, hreleased request⟩,
        hleft.congr fun s => rfl⟩

/-- The same, of the rows as `Journal.reservations` reads them. -/
lemma nothingLeft_iff : NothingLeft key j ↔ ∀ record ∈ j.reservations key,
    record.reservationId ≠ none → record.state.isTerminal = true := by
  constructor
  · intro h record hrecord hid
    obtain ⟨row, hrow, heq⟩ := Journal.mem_reservations.mp hrecord
    rw [← heq] at hid ⊢
    exact h record.serviceId row hrow hid
  · intro h s row hrow
    exact h (row.record s) (Journal.mem_reservations.mpr ⟨row, hrow, rfl⟩)

/-- No reserve call is made where none is recorded. -/
lemma not_reservesFor_of_asked {events : List Event} (h : asked events = []) :
    ∀ event ∈ events, ¬ Event.ReservesFor key event := by
  rintro ⟨t | c, answer⟩ hevent hreserves
  · exact hreserves
  · cases c with
    | reserve binding request job =>
      have hnone := List.filterMap_eq_nil_iff.mp h _ hevent
      cases hnone
    | _ => exact hreserves

/-- No step asks a QPM to reserve for a released allocation. -/
lemma not_reservesFor_of_released (h : IsReleased key j) (step : Step) :
    ∀ event ∈ step.trace sha256 j, ¬ Event.ReservesFor key event := by
  cases step with
  | handle request valid senderUid oracle =>
    cases request with
    | evaluate request =>
      obtain ⟨result, hevaluates⟩ := evaluates_serve sha256 j request senderUid oracle
      refine not_reservesFor_of_asked ?_
      rw [← asked_adapterCalls]
      exact (projections_of_isEstimate hevaluates.isEstimate).1
    | getReservations request =>
      refine not_reservesFor_of_asked ?_
      rw [← asked_adapterCalls]
      exact congrArg asked (lookup_serve sha256 j request senderUid oracle).2
    | release request =>
      obtain ⟨result, hreleases⟩ := releases_serve sha256 j request senderUid oracle
      refine not_reservesFor_of_asked ?_
      rw [← asked_adapterCalls]
      exact hreleases.asked_eq_nil
    | reserve request =>
      by_cases hkey : request.key = key
      · subst hkey
        obtain ⟨row, hrow, hstate⟩ := h
        refine not_reservesFor_of_asked ?_
        rw [← asked_adapterCalls]
        rcases serve_reserve_cases sha256 j valid senderUid oracle with ⟨-, -, -, hcalls⟩ | hreserves
        · exact congrArg asked hcalls
        · exact congrArg asked (hreserves.of_closed hrow (by rw [hstate]; rfl)).2
      · -- the reserve calls of a request are for its own allocation
        obtain ⟨events, htrace, hevents⟩ := Program.run_trace_asks (surroundings oracle noFaults)
          (within_reserveTry (K := fun _ => True) (L := (· = request.key)) sha256 senderUid request
            trivial rfl) ⟨j, []⟩
        have htrace : (serve sha256 j (.reserve request) senderUid oracle).2.trace = events := by
          rw [serve, handle, reserve, run_answer]
          exact htrace
        rw [Step.trace, Step.world, htrace]
        rintro ⟨t | c, answer⟩ hevent hreserves
        · exact hreserves
        · have hwithin := hevents _ hevent
          cases c with
          | reserve binding other job =>
            have hother : other.key = request.key := hwithin
            exact hkey (hother.symm.trans hreserves)
          | _ => exact hreserves
  | retry request oracle =>
    obtain ⟨result, hretries⟩ := retries_step sha256 j request oracle
    refine not_reservesFor_of_asked ?_
    rw [← asked_adapterCalls]
    exact hretries.asked_eq_nil

/-- No QPM can be found, and the verifier fails. -/
def noDirectory : Oracle := fun _ c =>
  match c with
  | .verifyReserve _ _ | .verifyRelease _ _ _ | .verifyLookup _ _ =>
    .error (.unexpected "no controller")
  | .resolve _ | .evaluate _ _ _ | .reserve _ _ _ | .release _ _ _ =>
    .error (.adapter "no directory")

/-- The operator's retry for an allocation, with reason 1. -/
def retryFor (key : AllocationKey) (oracle : Oracle) : Step :=
  .retry ⟨1, key.clusterName, key.canonicalJobId, 1⟩ oracle

/-- A retry that finds no QPM fails at every row it does not leave alone. -/
lemma disposal_of_noDirectory {request : ReleaseRequest} {visits : List Visit}
    (hcalls : adapterCalls ((Step.retry request noDirectory).trace sha256 j) =
      visits.flatMap (Visit.calls · request)) {v : Visit} (hv : v ∈ visits) {d : Disposal}
    (hd : v.disposal = some d) : ∃ failure, d = .unresolved failure := by
  obtain ⟨events, htrace, hevents⟩ := Program.run_trace_answers
    (P := fun event : Event => ∀ s qpm, event ≠ ⟨.call (.resolve s), .ok qpm⟩)
    (surroundings noDirectory noFaults) (fun q w s qpm h => by
      cases q with
      | transaction t => cases h
      | call c => cases c <;> cases h) (ExceptT.run (retryRelease request)) ⟨j, []⟩
  have hnone (s : String) (qpm : Incarnation) :
      (⟨.call (.resolve s), .ok qpm⟩ : Event) ∉ v.calls request := by
    intro hmem
    have hall : (⟨.call (.resolve s), .ok qpm⟩ : Event) ∈
        adapterCalls ((Step.retry request noDirectory).trace sha256 j) := by
      rw [hcalls]
      exact List.mem_flatMap.mpr ⟨v, hv, hmem⟩
    have hin := (List.mem_filter.mp hall).1
    rw [Step.trace, Step.world, Procedure.exec, htrace] at hin
    exact hevents _ hin s qpm rfl
  rw [Visit.calls, hd] at hnone
  cases d with
  | unresolved failure => exact ⟨failure, rfl⟩
  | restarted qpm => exact absurd List.mem_cons_self (hnone v.record.serviceId qpm)
  | failed qpm failure => exact absurd List.mem_cons_self (hnone v.record.serviceId qpm)
  | answered qpm reply => exact absurd List.mem_cons_self (hnone v.record.serviceId qpm)

/-- A pass that fails at a row it does not leave alone does not end `released`. -/
lemma Retries.not_released {request : ReleaseRequest} {j' : Journal} {calls : List Event}
    {result : Except PyError ReleaseResponse} (h : Retries request j result j' calls)
    (hfails : ∀ visits : List Visit, calls = visits.flatMap (Visit.calls · request) →
      ∀ v ∈ visits, ∀ d, v.disposal = some d → ∃ failure, d = .unresolved failure)
    (hleft : ¬ NothingLeft request.key j) : ¬ IsReleased request.key j' := by
  rintro ⟨row, hrow, hstate⟩
  cases h with
  | unknown visits hpass hallocation j' hj =>
    rw [hj, Journal.allocation_writeAll, hallocation] at hrow
    cases hrow
  | retried other visits hpass hallocation j' hj =>
    rw [hj, Journal.allocation_putAllocation_self] at hrow
    cases hrow
    unfold NothingLeft at hleft
    push Not at hleft
    obtain ⟨s, left, hin, hid, hterminal⟩ := hleft
    rcases hpass.cases s with ⟨hnone, -⟩ | ⟨found, hfound, hnone, -⟩ |
      ⟨found, hfound, -, v, hv, hrecord, hsound, -⟩
    · cases hin.symm.trans hnone
    · cases hin.symm.trans hfound
      exact absurd hnone hid
    · cases hin.symm.trans hfound
      have hvisit := hsound.2
      cases hd : v.disposal with
      | none =>
        rw [hd, hrecord] at hvisit
        exact absurd hvisit hterminal
      | some d =>
        obtain ⟨failure, rfl⟩ := hfails visits rfl v hv d hd
        have hunresolved : ReservationState.isRetryUnresolved v.result.state = true := by
          simp [Visit.result, hd, Disposal.outcome, ReleaseOutcome.reservationState,
            ReservationState.isRetryUnresolved]
        have hincomplete : releasedState ReservationState.isRetryUnresolved
            (request.response visits).results = .releaseIncomplete :=
          if_pos (List.any_eq_true.mpr ⟨_, List.mem_map_of_mem hv, hunresolved⟩)
        cases hincomplete.symm.trans hstate

end Steps

/-- A released allocation of a run stays released, and no QPM is asked to reserve for it again,
exactly when no row with a reservation id was left in a state that a release pass comes back to. -/
theorem releasedForGood_iff (sha256 : Document → String) (steps : List Step) (key : AllocationKey)
    (hreleased : IsReleased key (journalAfter sha256 Journal.empty steps)) :
    ReleasedForGood sha256 key (journalAfter sha256 Journal.empty steps) ↔
      NothingLeft key (journalAfter sha256 Journal.empty steps) := by
  generalize journalAfter sha256 Journal.empty steps = j at hreleased ⊢
  constructor
  · intro hgood
    by_contra hleft
    obtain ⟨result, hretries⟩ := retries_step sha256 j
      ⟨1, key.clusterName, key.canonicalJobId, 1⟩ noDirectory
    exact hretries.not_released (fun visits hcalls v hv d hd => disposal_of_noDirectory hcalls hv hd)
      hleft (hgood [retryFor key noDirectory]).1
  · intro hleft later
    have hkept : IsReleased key (journalAfter sha256 j later) ∧
        NothingLeft key (journalAfter sha256 j later) :=
      after_invariant (Step.next sha256) (fun j => IsReleased key j ∧ NothingLeft key j)
        (fun j step h => released_step step h) ⟨hreleased, hleft⟩ later
    exact ⟨hkept.1, not_reservesFor_of_released hkept.1⟩

/-- An allocation that was reserved and released stays released. -/
theorem releasedForGood_iff_relinquished :
    ReleasedForGood sampleDigest sampleKey
      (journalAfter sampleDigest Journal.empty sampleRelinquished) := by
  refine (releasedForGood_iff sampleDigest sampleRelinquished sampleKey ⟨_, rfl, rfl⟩).mpr ?_
  rw [nothingLeft_iff]
  decide

/-- The QPMs have been restarted. -/
def restarted : Oracle := fun n c =>
  match c with
  | .resolve _ => .ok ⟨"another runtime", 2⟩
  | c => obliging n c

/-- One service is reserved, and released after its QPM was restarted. -/
def sampleStale : List Step :=
  [.handle (.reserve (sampleReserve 1 ["qpm-a"])) sampleReserve_valid 1000 obliging,
    .handle (.release (sampleRelease 2)) trivial 1000 restarted]

/-- A release at a restarted QPM, an operator's retry that finds no QPM, and a reserve request: the
allocation was released, and a QPM is asked for a reservation again. -/
theorem released_reserved_again :
    IsReleased sampleKey (journalAfter sampleDigest Journal.empty sampleStale) ∧
    ¬ IsReleased sampleKey (journalAfter sampleDigest Journal.empty
      (sampleStale ++ [retryFor sampleKey noDirectory])) ∧
    asked ((Step.handle (.reserve (sampleReserve 3 ["qpm-b"])) (by decide) 1000 obliging).trace
      sampleDigest (journalAfter sampleDigest Journal.empty
        (sampleStale ++ [retryFor sampleKey noDirectory]))) = ["qpm-b"] := by
  refine ⟨⟨_, rfl, rfl⟩, ?_, by decide⟩
  rintro ⟨row, hrow, hstate⟩
  have hincomplete : ((journalAfter sampleDigest Journal.empty
      (sampleStale ++ [retryFor sampleKey noDirectory])).allocation sampleKey).map (·.state) =
        some .releaseIncomplete := by decide
  rw [hrow, Option.map_some, hstate] at hincomplete
  cases hincomplete

end QfwSlurm
