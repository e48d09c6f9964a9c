import QfwSlurm.Gateway.Released
import QfwSlurm.Gateway.VerifiedRelease

/-!
# Complete release passes

A verified release and a `retry_release` make the same pass over the rows of an allocation.  A pass
is complete (`CompletePass`): it returns one result for each row with a reservation id, in the order
of the services, releases the reservation of each row it does not leave alone and whose QPM is still
the one that granted it, once, and leaves each row in the state its result names.  Passes can follow
each other in any number; a reservation whose release was confirmed is not released again.
-/

namespace QfwSlurm

open Interaction

/-- The service and answer of an `adapter.resolve` call. -/
def Event.resolution : Event → Option (String × Except AdapterFailure Incarnation)
  | ⟨.call (.resolve serviceId), answer⟩ => some (serviceId, answer)
  | _ => none

/-- The answers to `adapter.resolve`, in order. -/
def resolutions (events : List Event) : List (String × Except AdapterFailure Incarnation) :=
  events.filterMap Event.resolution

/-- The row a pass leaves corresponds to the result it returned for it. -/
def ReservationState.Leaves (row row' : ReservationRow) : ReservationState → Prop
  | .released | .notFound => row'.state = .released
  | .staleRuntime => row'.state = .staleRuntime
  | .qpmFailure => row'.state = .releaseFailed
  | .alreadyTerminal => row' = row ∧ row.state.isTerminal = true
  | .authorizationFailure | .gatewayFailure => False

/-- A row that a pass does not leave alone. -/
structure ReservationRecord.Due (record : ReservationRecord) : Prop where
  reservationId_ne : record.reservationId ≠ none
  isTerminal_eq : record.state.isTerminal = false

/-- A pass over the rows of an allocation in `j` that left the journal `j'`. -/
structure CompletePass (key : AllocationKey) (j j' : Journal) (calls : List Event)
    (results : List ReleaseResult) : Prop where
  /-- One result for each row with a reservation id. -/
  listed : (results.map fun item => (item.serviceId, some item.reservationId)) =
    ((j.reservations key).filter (·.reservationId ≠ none)).map fun record =>
      (record.serviceId, record.reservationId)
  ordered : results.Pairwise fun a b => a.serviceId < b.serviceId
  /-- The QPM of each row that is due is looked for, once. -/
  resolved : ∀ record ∈ j.reservations key, record.Due → ∃ answer,
    (resolutions calls).filter (·.1 = record.serviceId) = [(record.serviceId, answer)]
  /-- Where it is the one that granted the reservation, the reservation is released, once. -/
  called : ∀ record ∈ j.reservations key, record.Due → ∀ qpm : Incarnation,
    (record.serviceId, .ok qpm) ∈ resolutions calls → some qpm.runtimeId = record.qpmRuntimeId →
    (returned calls).filter (·.1 = record.serviceId) = [(record.serviceId, record.reservationId)]
  /-- No other reservation is released. -/
  spared : ∀ pair ∈ returned calls, ∃ record ∈ j.reservations key, record.Due ∧
    pair = (record.serviceId, record.reservationId) ∧ ∃ qpm : Incarnation,
      (record.serviceId, .ok qpm) ∈ resolutions calls ∧ some qpm.runtimeId = record.qpmRuntimeId
  rows : ∀ item ∈ results, ∃ row row', j.reservation key item.serviceId = some row ∧
    j'.reservation key item.serviceId = some row' ∧ row'.reservationId = row.reservationId ∧
    item.state.Leaves row row'

/-! ### The calls of a pass -/

/-- When each entry of a list contributes pairs with a key of its own, the pairs with one entry's
key are that entry's. -/
lemma filter_flatMap_of_nodup {α β κ : Type} [DecidableEq κ] {l : List α} {f : α → List (κ × β)}
    {k : α → κ} (hf : ∀ x ∈ l, ∀ pair ∈ f x, pair.1 = k x) (hnodup : (l.map k).Nodup) {x : α}
    (hx : x ∈ l) : (l.flatMap f).filter (·.1 = k x) = f x := by
  have hother (y : α) (hy : y ∈ l) (hne : k y ≠ k x) : (f y).filter (·.1 = k x) = [] := by
    refine List.filter_eq_nil_iff.mpr fun pair hpair heq => hne ?_
    rw [← hf y hy pair hpair, of_decide_eq_true heq]
  have hown : (f x).filter (·.1 = k x) = f x :=
    List.filter_eq_self.mpr fun pair hpair => decide_eq_true (hf x hx pair hpair)
  induction l with
  | nil => cases hx
  | cons y l ih =>
    rw [List.map_cons, List.nodup_cons] at hnodup
    rw [List.flatMap_cons, List.filter_append]
    rcases List.mem_cons.mp hx with rfl | hin
    · have hrest : (l.flatMap f).filter (·.1 = k x) = [] := by
        rw [List.filter_flatMap, List.flatMap_eq_nil_iff]
        intro z hz
        exact hother z (List.mem_cons_of_mem x hz) fun heq =>
          hnodup.1 (heq ▸ List.mem_map_of_mem hz)
      rw [hown, hrest, List.append_nil]
    · have hne : k y ≠ k x := fun heq => hnodup.1 (heq ▸ List.mem_map_of_mem hin)
      rw [hother y List.mem_cons_self hne, List.nil_append]
      exact ih (fun z hz => hf z (List.mem_cons_of_mem y hz)) hnodup.2 hin
        fun z hz => hother z (List.mem_cons_of_mem y hz)

section Calls

variable {j : Journal} {key : AllocationKey} {visits : List Visit} {request : ReleaseRequest}

/-- A visit looks for the QPM of its own row, once, unless it leaves the row alone. -/
lemma Visit.resolutions_calls (v : Visit) (request : ReleaseRequest) :
    (v.disposal = none ∧ resolutions (v.calls request) = []) ∨
      ∃ answer, resolutions (v.calls request) = [(v.record.serviceId, answer)] := by
  unfold Visit.calls
  rcases v.disposal with - | (failure | qpm | ⟨qpm, failure⟩ | ⟨qpm, reply⟩)
  · exact .inl ⟨rfl, rfl⟩
  · exact .inr ⟨.error failure, rfl⟩
  · exact .inr ⟨.ok qpm, rfl⟩
  · exact .inr ⟨.ok qpm, rfl⟩
  · exact .inr ⟨.ok qpm, rfl⟩

/-- A sound visit releases the reservation of its own row, once, when it finds the QPM that granted
it, and releases nothing otherwise. -/
lemma Visit.Sound.returned_calls {v : Visit} (h : v.Sound) (request : ReleaseRequest) :
    (∃ qpm : Incarnation, resolutions (v.calls request) = [(v.record.serviceId, .ok qpm)] ∧
      some qpm.runtimeId = v.record.qpmRuntimeId ∧ v.record.Due ∧
      returned (v.calls request) = [(v.record.serviceId, v.record.reservationId)]) ∨
    (returned (v.calls request) = [] ∧ ∀ qpm : Incarnation,
      (v.record.serviceId, .ok qpm) ∈ resolutions (v.calls request) →
        some qpm.runtimeId ≠ v.record.qpmRuntimeId) := by
  obtain ⟨record, disposal⟩ := v
  obtain ⟨hid, hsound⟩ := h
  rcases disposal with - | (failure | qpm | ⟨qpm, failure⟩ | ⟨qpm, reply⟩)
  · exact .inr ⟨rfl, fun qpm hin => nomatch hin⟩
  · refine .inr ⟨rfl, fun qpm hin => ?_⟩
    rw [show resolutions _ = [(record.serviceId, Except.error failure)] from rfl] at hin
    simp at hin
  · refine .inr ⟨rfl, fun other hin => ?_⟩
    rw [show resolutions _ = [(record.serviceId, Except.ok qpm)] from rfl] at hin
    have hother : other = qpm := by simpa using hin
    rw [hother]
    exact hsound.2
  · exact .inl ⟨qpm, rfl, hsound.2, ⟨hid, hsound.1⟩, rfl⟩
  · exact .inl ⟨qpm, rfl, hsound.2, ⟨hid, hsound.1⟩, rfl⟩

/-- The projections of a pass are those of its visits. -/
lemma resolutions_visits (visits : List Visit) (request : ReleaseRequest) :
    resolutions (visits.flatMap (Visit.calls · request)) =
      visits.flatMap fun v => resolutions (v.calls request) :=
  List.filterMap_flatMap

lemma returned_visits (visits : List Visit) (request : ReleaseRequest) :
    returned (visits.flatMap (Visit.calls · request)) =
      visits.flatMap fun v => returned (v.calls request) :=
  List.filterMap_flatMap

lemma fst_of_mem_resolutions : ∀ v ∈ visits, ∀ pair ∈ resolutions (v.calls request),
    pair.1 = v.record.serviceId := by
  intro v hv pair hpair
  rcases v.resolutions_calls request with ⟨-, hnone⟩ | ⟨answer, hone⟩
  · rw [hnone] at hpair
    cases hpair
  · rw [hone] at hpair
    rw [List.mem_singleton.mp hpair]

lemma fst_of_mem_returned (hsound : ∀ v ∈ visits, v.Sound) :
    ∀ v ∈ visits, ∀ pair ∈ returned (v.calls request), pair.1 = v.record.serviceId := by
  intro v hv pair hpair
  rcases (hsound v hv).returned_calls request with ⟨-, -, -, -, hone⟩ | ⟨hnone, -⟩
  · rw [hone] at hpair
    rw [List.mem_singleton.mp hpair]
  · rw [hnone] at hpair
    cases hpair

/-- Each row with a reservation id is visited. -/
lemma Passes.exists_visit (h : Passes (j.reservations key) visits) {record : ReservationRecord}
    (hrecord : record ∈ j.reservations key) (hid : record.reservationId ≠ none) :
    ∃ v ∈ visits, v.record = record := by
  have hin : record ∈ (j.reservations key).filter (·.reservationId ≠ none) :=
    List.mem_filter.mpr ⟨hrecord, decide_eq_true hid⟩
  rw [← h.1] at hin
  exact List.mem_map.mp hin

/-- The row of each visit is one of the allocation. -/
lemma Passes.mem_reservations (h : Passes (j.reservations key) visits) {v : Visit}
    (hv : v ∈ visits) : v.record ∈ j.reservations key := by
  have hin : v.record ∈ (j.reservations key).filter (·.reservationId ≠ none) :=
    h.1 ▸ List.mem_map_of_mem hv
  exact (List.mem_filter.mp hin).1

/-- The result of a sound visit corresponds to what it leaves of its row. -/
lemma Visit.Sound.leaves {v : Visit} (h : v.Sound) {row : ReservationRow}
    (hrow : v.record = row.record v.record.serviceId) :
    v.result.state.Leaves row ((v.disposal.map row.disposed).getD row) := by
  obtain ⟨hid, hsound⟩ := h
  unfold Visit.result
  cases hd : v.disposal with
  | none =>
    rw [hd] at hsound
    have hterminal : row.state.isTerminal = true := by
      rw [hrow] at hsound
      exact hsound
    exact ⟨rfl, hterminal⟩
  | some disposal =>
    dsimp only [Option.map_some, Option.getD_some, ReservationRow.disposed]
    cases disposal.outcome.1 <;>
      simp [ReleaseOutcome.reservationState, ReleaseOutcome.journalState,
        ReservationState.Leaves]

/-- A pass is complete. -/
theorem Passes.complete (h : Passes (j.reservations key) visits) (request : ReleaseRequest)
    {j' : Journal} (hj' : ∀ s, j'.reservation key s =
      (written (visits.flatMap Visit.writes) s).or (j.reservation key s)) :
    CompletePass key j j' (visits.flatMap (Visit.calls · request)) (visits.map Visit.result) := by
  have hresult (v : Visit) : v.result.serviceId = v.record.serviceId ∧
      v.result.reservationId = v.record.reservationId.getD 0 := by
    unfold Visit.result
    cases v.disposal <;> exact ⟨rfl, rfl⟩
  have hresolutions {v : Visit} (hv : v ∈ visits) :
      (resolutions (visits.flatMap (Visit.calls · request))).filter
        (·.1 = v.record.serviceId) = resolutions (v.calls request) := by
    rw [resolutions_visits]
    exact filter_flatMap_of_nodup (k := fun v : Visit => v.record.serviceId)
      fst_of_mem_resolutions h.nodup hv
  have hreturned {v : Visit} (hv : v ∈ visits) :
      (returned (visits.flatMap (Visit.calls · request))).filter
        (·.1 = v.record.serviceId) = returned (v.calls request) := by
    rw [returned_visits]
    exact filter_flatMap_of_nodup (k := fun v : Visit => v.record.serviceId)
      (fst_of_mem_returned h.2) h.nodup hv
  refine ⟨?_, ?_, ?_, ?_, ?_, ?_⟩
  · rw [← h.1, List.map_map, List.map_map]
    refine List.map_congr_left fun v hv => ?_
    obtain ⟨id, hid⟩ := Option.ne_none_iff_exists'.mp (h.2 v hv).1
    simp [hresult v, hid]
  · have hservices : (visits.map Visit.result).map ReleaseResult.serviceId =
        ((j.reservations key).filter (·.reservationId ≠ none)).map (·.serviceId) := by
      rw [← h.1, List.map_map, List.map_map]
      exact List.map_congr_left fun v hv => (hresult v).1
    have hsublist : (((j.reservations key).filter (·.reservationId ≠ none)).map
        (·.serviceId)).Sublist ((j.reservations key).map (·.serviceId)) :=
      List.filter_sublist.map _
    have hsorted := (Journal.sorted_reservations j key).sublist hsublist
    have hnodup := (Journal.nodup_reservations j key).sublist hsublist
    rw [← hservices] at hsorted hnodup
    exact List.pairwise_map.mp ((hsorted.and hnodup).imp fun hpair =>
      lt_of_le_of_ne hpair.1 hpair.2)
  · intro record hrecord hdue
    obtain ⟨v, hv, rfl⟩ := h.exists_visit hrecord hdue.reservationId_ne
    rw [hresolutions hv]
    rcases v.resolutions_calls request with ⟨hnone, -⟩ | hone
    · have hsound := (h.2 v hv).2
      rw [hnone] at hsound
      cases hsound.symm.trans hdue.isTerminal_eq
    · exact hone
  · intro record hrecord hdue qpm hqpm hruntime
    obtain ⟨v, hv, rfl⟩ := h.exists_visit hrecord hdue.reservationId_ne
    have hmem : (v.record.serviceId, .ok qpm) ∈ resolutions (v.calls request) := by
      rw [← hresolutions hv]
      exact List.mem_filter.mpr ⟨hqpm, decide_eq_true rfl⟩
    rw [hreturned hv]
    rcases (h.2 v hv).returned_calls request with ⟨-, -, -, -, hone⟩ | ⟨-, hother⟩
    · exact hone
    · exact absurd hruntime (hother qpm hmem)
  · intro pair hpair
    rw [returned_visits] at hpair
    obtain ⟨v, hv, hpair⟩ := List.mem_flatMap.mp hpair
    rcases (h.2 v hv).returned_calls request with ⟨qpm, hone, hruntime, hdue, hreturns⟩ | ⟨hnone, -⟩
    · rw [hreturns] at hpair
      refine ⟨v.record, h.mem_reservations hv, hdue, List.mem_singleton.mp hpair, qpm, ?_, hruntime⟩
      rw [resolutions_visits]
      exact List.mem_flatMap.mpr ⟨v, hv, by rw [hone]; exact List.mem_singleton_self _⟩
    · rw [hnone] at hpair
      cases hpair
  · intro item hitem
    obtain ⟨v, hv, rfl⟩ := List.mem_map.mp hitem
    obtain ⟨row, hrow, hrecord⟩ := Journal.mem_reservations.mp (h.mem_reservations hv)
    have hwritten := h.written_visit hv hrecord.symm
    refine ⟨row, (v.disposal.map row.disposed).getD row, ?_, ?_, ?_, ?_⟩
    · rw [(hresult v).1]
      exact hrow
    · rw [(hresult v).1, hj', hwritten, hrow]
      cases v.disposal <;> rfl
    · cases v.disposal <;> rfl
    · exact (h.2 v hv).leaves hrecord.symm

end Calls

/-! ### Runs of passes -/

section Runs

variable (sha256 : Document → String)

/-- A release that is new and verified, or an operator's retry. -/
def Step.IsPass (j : Journal) : Step → Prop
  | .handle (.release request) _ senderUid oracle => Verified j request senderUid oracle
  | .retry _ _ => True
  | _ => False

/-- The results that a step returned as a release response. -/
def Step.passResults (j : Journal) : Step → Option (List ReleaseResult)
  | .handle (.release request) _ senderUid oracle =>
    match (serve sha256 j (.release request) senderUid oracle).1 with
    | .release response => some response.results
    | _ => none
  | .retry request oracle =>
    match (Procedure.exec (surroundings oracle noFaults) (retryRelease request) ⟨j, []⟩).1 with
    | .ok response => some response.results
    | .error _ => none
  | _ => none

variable {sha256} {j : Journal} {key : AllocationKey}

/-- The two kinds of step that make a pass. -/
lemma Step.IsPass.cases {step : Step} (h : step.IsPass j) :
    (∃ request valid senderUid oracle, step = .handle (.release request) valid senderUid oracle ∧
      Verified j request senderUid oracle) ∨ ∃ request oracle, step = .retry request oracle := by
  cases step with
  | retry request oracle => exact .inr ⟨request, oracle, rfl⟩
  | handle request valid senderUid oracle =>
    cases request with
    | release request => exact .inl ⟨request, valid, senderUid, oracle, rfl, h⟩
    | _ => exact h.elim

/-- One step of such a run for an allocation with a row is a complete pass, and the allocation keeps
its row. -/
theorem Step.IsPass.complete {step : Step} (sha256 : Document → String) (h : step.IsPass j)
    (hkey : step.key = some key) (hrow : j.allocation key ≠ none) :
    (∃ results, step.passResults sha256 j = some results ∧
      CompletePass key j (step.next sha256 j) (adapterCalls (step.trace sha256 j)) results) ∧
    (step.next sha256 j).allocation key ≠ none := by
  rcases h.cases with ⟨request, valid, senderUid, oracle, rfl, hverified⟩ | ⟨request, oracle, rfl⟩
  · obtain rfl : request.key = key := Option.some.inj hkey
    obtain ⟨visits, hpass, hcalls, hends⟩ := hverified.serve_cases sha256
    rcases hends with ⟨hnone, -, -⟩ | ⟨row, -, hresponse, hupdated⟩
    · exact absurd hnone hrow
    refine ⟨⟨visits.map Visit.result, ?_, ?_⟩, ?_⟩
    · rw [Step.passResults, hresponse]
      rfl
    · rw [Step.trace, Step.world, hcalls]
      refine hpass.complete request fun s => ?_
      rw [Step.next, Step.world, hupdated.reservation_eq, if_pos rfl]
    · rw [Step.next, Step.world, hupdated.allocation_eq, if_pos rfl]
      exact Option.some_ne_none _
  · obtain rfl : request.key = key := Option.some.inj hkey
    have hretries := (exec_retryRelease oracle request ⟨j, []⟩).of_nil
    rw [Step.trace, Step.next, Step.world, Step.passResults]
    revert hretries
    generalize Procedure.exec (surroundings oracle noFaults) (retryRelease request) ⟨j, []⟩ = ended
    obtain ⟨result, w⟩ := ended
    dsimp only
    intro hretries
    generalize adapterCalls w.trace = calls at hretries ⊢
    generalize w.state = left at hretries ⊢
    cases hretries with
    | unknown visits hpass hallocation j' hj => exact absurd hallocation hrow
    | retried row visits hpass hallocation j' hj =>
      refine ⟨⟨visits.map Visit.result, rfl, hpass.complete request fun s => ?_⟩, ?_⟩
      · rw [hj, Journal.reservation_putAllocation, Journal.reservation_writeAll, if_pos rfl]
      · rw [hj, Journal.allocation_putAllocation_self]
        exact Option.some_ne_none _

/-- The row of an allocation survives every pass. -/
lemma Step.IsPass.allocation_ne_none {step : Step} (h : step.IsPass j)
    (hrow : j.allocation key ≠ none) : (step.next sha256 j).allocation key ≠ none := by
  by_cases hkey : step.key = some key
  · exact (h.complete sha256 hkey hrow).2
  · rw [(step.sameRows hkey).allocation_eq]
    exact hrow

/-- A reservation whose row is terminal. -/
def Settles (key : AllocationKey) (s : String) (j : Journal) : Prop :=
  ∃ row, j.reservation key s = some row ∧ row.state.isTerminal = true

/-- A pass leaves terminal rows alone. -/
lemma Step.IsPass.settles {step : Step} (h : step.IsPass j) {s : String}
    (hsettles : Settles key s j) : Settles key s (step.next sha256 j) := by
  obtain ⟨row, hrow, hterminal⟩ := hsettles
  by_cases hkey : step.key = some key
  swap
  · exact ⟨row, by rw [(step.sameRows hkey).reservation_eq, hrow], hterminal⟩
  have hkept (visits : List Visit) (hpass : Passes (j.reservations key) visits) :
      written (visits.flatMap Visit.writes) s = none := by
    rcases hpass.cases s with ⟨-, hnone⟩ | ⟨-, -, -, hnone⟩ |
      ⟨found, hfound, -, v, -, hrecord, hsound, hw⟩
    · exact hnone
    · exact hnone
    · cases hrow.symm.trans hfound
      have hstate := hsound.2
      cases hd : v.disposal with
      | none => rw [hw, hd, Option.map_none]
      | some disposal =>
        rw [hd, hrecord] at hstate
        cases hterminal.symm.trans hstate.1
  refine ⟨row, ?_, hterminal⟩
  rcases h.cases with ⟨request, valid, senderUid, oracle, rfl, hverified⟩ | ⟨request, oracle, rfl⟩
  · obtain rfl : request.key = key := Option.some.inj hkey
    obtain ⟨visits, hpass, -, hends⟩ := hverified.serve_cases sha256
    rw [Step.next, Step.world]
    rcases hends with ⟨-, -, hstate⟩ | ⟨found, -, -, hupdated⟩
    · rw [hstate, Journal.reservation_writeAll, if_pos rfl, hkept visits hpass, Option.none_or,
        Journal.reservation_putOperation, hrow]
    · rw [hupdated.reservation_eq, if_pos rfl, hkept visits hpass, Option.none_or, hrow]
  · obtain rfl : request.key = key := Option.some.inj hkey
    obtain ⟨result, hretries⟩ := retries_step sha256 j request oracle
    generalize (Step.retry request oracle).next sha256 j = j' at hretries ⊢
    generalize adapterCalls ((Step.retry request oracle).trace sha256 j) = calls at hretries
    cases hretries with
    | unknown visits hpass hallocation j' hj =>
      rw [hj, Journal.reservation_writeAll, if_pos rfl, hkept visits hpass, Option.none_or, hrow]
    | retried other visits hpass hallocation j' hj =>
      rw [hj, Journal.reservation_putAllocation, Journal.reservation_writeAll, if_pos rfl,
        hkept visits hpass, Option.none_or, hrow]

/-- A complete pass that confirms a release leaves a terminal row. -/
lemma CompletePass.settles {j' : Journal} {calls : List Event} {results : List ReleaseResult}
    (h : CompletePass key j j' calls results) {item : ReleaseResult} (hitem : item ∈ results)
    (hconfirmed : item.state = .released ∨ item.state = .notFound) :
    Settles key item.serviceId j' := by
  obtain ⟨row, row', -, hrow', -, hleaves⟩ := h.rows item hitem
  refine ⟨row', hrow', ?_⟩
  have hstate : row'.state = .released := by
    rcases hconfirmed with hstate | hstate <;> rw [hstate] at hleaves <;> exact hleaves
  rw [hstate]
  rfl

/-- A complete pass releases nothing of a service whose row is terminal. -/
lemma CompletePass.spares {j' : Journal} {calls : List Event} {results : List ReleaseResult}
    (h : CompletePass key j j' calls results) {s : String} (hsettles : Settles key s j) :
    ∀ pair ∈ returned calls, pair.1 ≠ s := by
  rintro pair hpair rfl
  obtain ⟨record, hrecord, hdue, hsame, -⟩ := h.spared pair hpair
  obtain ⟨row, hrow, hterminal⟩ := hsettles
  obtain ⟨found, hfound, heq⟩ := Journal.mem_reservations.mp hrecord
  rw [hsame] at hrow
  cases hrow.symm.trans hfound
  have hstate := hdue.isTerminal_eq
  rw [← heq] at hstate
  cases hterminal.symm.trans hstate

end Runs

/-- Every pass of a run of releases and retries is complete, and releases no reservation whose
release an earlier pass of the run confirmed. -/
theorem release_passes_complete (sha256 : Document → String) (j : Journal) (key : AllocationKey)
    (hrow : j.allocation key ≠ none) (done : List Step) (step : Step) (later : List Step)
    (hpasses : Meets (Step.next sha256) Step.IsPass j (done ++ step :: later))
    (hkey : step.key = some key) :
    (∃ results, step.passResults sha256 (journalAfter sha256 j done) = some results ∧
      CompletePass key (journalAfter sha256 j done) (journalAfter sha256 j (done ++ [step]))
        (adapterCalls (step.trace sha256 (journalAfter sha256 j done))) results) ∧
    ∀ before pass between, done = before ++ pass :: between → pass.key = some key →
      ∀ results, pass.passResults sha256 (journalAfter sha256 j before) = some results →
      ∀ item ∈ results, item.state = .released ∨ item.state = .notFound →
      ∀ pair ∈ returned (adapterCalls (step.trace sha256 (journalAfter sha256 j done))),
        pair.1 ≠ item.serviceId := by
  have hall : Meets (Step.next sha256) Step.IsPass j ((done ++ [step]) ++ later) := by
    simpa using hpasses
  have hprior : Meets (Step.next sha256) Step.IsPass j (done ++ [step]) := hall.of_append
  have hpass : step.IsPass (journalAfter sha256 j done) := hprior.last
  have hallocation {steps : List Step} (hsteps : Meets (Step.next sha256) Step.IsPass j steps) :
      (journalAfter sha256 j steps).allocation key ≠ none :=
    after_invariant_of_meets (Step.next sha256) (fun j => j.allocation key ≠ none)
      (fun j step hj h => Step.IsPass.allocation_ne_none h hj) hrow hsteps
  have hcomplete := (hpass.complete sha256 hkey (hallocation hprior.of_append)).1
  rw [journalAfter_concat]
  refine ⟨hcomplete, ?_⟩
  rintro before pass between rfl hsame results hresults item hitem hconfirmed
  have hbefore : Meets (Step.next sha256) Step.IsPass j (before ++ pass :: between) :=
    hprior.of_append
  have hparts : Meets (Step.next sha256) Step.IsPass j ((before ++ [pass]) ++ between) := by
    simpa using hbefore
  have hfirst : Meets (Step.next sha256) Step.IsPass j (before ++ [pass]) := hparts.of_append
  obtain ⟨others, hothers, hdone⟩ := (Step.IsPass.complete sha256 hfirst.last hsame
    (hallocation hfirst.of_append)).1
  cases hresults.symm.trans hothers
  -- the row is terminal after the earlier pass, and the passes in between leave it alone
  have hsettled : Settles key item.serviceId (journalAfter sha256 j (before ++ [pass])) := by
    rw [journalAfter_concat]
    exact hdone.settles hitem hconfirmed
  have hbetween : Meets (Step.next sha256) Step.IsPass (journalAfter sha256 j (before ++ [pass]))
      between := Meets.rest (Step.next sha256) (by simpa using hbefore)
  have hnow : Settles key item.serviceId (journalAfter sha256 j (before ++ pass :: between)) := by
    have hkept := after_invariant_of_meets (Step.next sha256) (Settles key item.serviceId)
      (fun j step hj h => Step.IsPass.settles h hj) hsettled hbetween
    rw [journalAfter, ← after_append] at hkept
    simpa [journalAfter] using hkept
  obtain ⟨last, -, hlast⟩ := hcomplete
  exact hlast.spares hnow

/-- No QPM answers while the first release is handled. -/
def unanswering : Oracle := fun n c =>
  match c with
  | .resolve _ => .error (.adapter "QPM did not answer")
  | c => obliging n c

/-- A release that reaches no QPM, an operator's retry that does, and another retry. -/
theorem release_passes_complete_sample :
    let first := Step.handle (.release (sampleRelease 2)) trivial 1000 unanswering
    let second := retryFor sampleKey obliging
    let third := retryFor sampleKey obliging
    second.passResults sampleDigest (journalAfter sampleDigest sampleAccepted [first]) =
      some [⟨"qpm-a", 5, .released, none, none⟩] ∧
    ∀ pair ∈ returned (adapterCalls (third.trace sampleDigest
      (journalAfter sampleDigest sampleAccepted [first, second]))), pair.1 ≠ "qpm-a" := by
  intro first second third
  have hresults : second.passResults sampleDigest
      (journalAfter sampleDigest sampleAccepted [first]) =
      some [⟨"qpm-a", 5, .released, none, none⟩] := by decide
  have hcomplete := release_passes_complete sampleDigest sampleAccepted sampleKey (by decide)
    [first, second] third [] ⟨⟨rfl, sampleJob, rfl⟩, trivial, trivial, trivial⟩ rfl
  exact ⟨hresults, hcomplete.2 [first] second [] rfl rfl _ hresults _ (List.mem_singleton_self _)
    (.inl rfl)⟩

end QfwSlurm
