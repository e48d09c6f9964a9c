import QfwSlurm.Gateway.Rows

/-!
# Accepted allocations

An accepted allocation ties three tables together: its service set, the reservation rows of the
services, and the stored response.  `AcceptedSet` says how, and `acceptedSet_journalAfter` that it
holds at every request boundary of every run.

The invariant that carries the induction is `Sound`: an accepted allocation has an `AcceptedSet`,
and an allocation that is not accepted has no accepted reservation row.
-/

namespace QfwSlurm

open Interaction

/-- The service and reservation id of a result. -/
def ServiceResult.pair (item : ServiceResult) : String × Option ℤ :=
  (item.serviceId, item.reservationId)

/-- The reservation id of an allocation's row for a service. -/
def Journal.reservedId (j : Journal) (key : AllocationKey) (s : String) : Option ℤ :=
  (j.reservation key s).bind (·.reservationId)

/-- The service set of an accepted allocation is nonempty, in order and without duplicates, each of
its services has an accepted reservation row with an id, no other service has an accepted row, and
the stored response is an accepted `ReserveResponse` with exactly the services and ids of those
rows. -/
structure AcceptedSet (j : Journal) (key : AllocationKey) (row : AllocationRow) : Prop where
  nonempty : row.serviceSet ≠ []
  nodup : row.serviceSet.Nodup
  ordered : row.serviceSet.Pairwise (· ≤ ·)
  accepted : ∀ s ∈ row.serviceSet, ∃ r id, j.reservation key s = some r ∧ r.state = .accepted ∧
    r.reservationId = some id
  others : ∀ s r, j.reservation key s = some r → r.state = .accepted → s ∈ row.serviceSet
  response : ∃ stored response, row.responseJson = some stored ∧
    responseFromDict stored = .ok (.reserve response) ∧ response.decision = .accepted ∧
    response.results.map ServiceResult.pair =
      row.serviceSet.map fun s => (s, j.reservedId key s)

/-- The invariant of one allocation. -/
structure Sound (j : Journal) (key : AllocationKey) : Prop where
  accepted : ∀ row, j.allocation key = some row → row.state = .accepted → AcceptedSet j key row
  quiet : (∀ row, j.allocation key = some row → row.state ≠ .accepted) →
    ∀ s r, j.reservation key s = some r → r.state ≠ .accepted

/-! ### Journals with the same rows -/

section Congr

variable {j j' : Journal} {key : AllocationKey}

/-- Only the rows of the allocation matter. -/
lemma AcceptedSet.congr {row : AllocationRow} (h : AcceptedSet j key row)
    (hreservation : ∀ s, j'.reservation key s = j.reservation key s) : AcceptedSet j' key row := by
  have hid (s : String) : j'.reservedId key s = j.reservedId key s := by
    rw [Journal.reservedId, Journal.reservedId, hreservation]
  refine ⟨h.nonempty, h.nodup, h.ordered, ?_, ?_, ?_⟩
  · simpa only [hreservation] using h.accepted
  · simpa only [hreservation] using h.others
  · simpa only [hid] using h.response

/-- Only the rows of the allocation matter. -/
lemma Sound.congr (h : Sound j key) (hallocation : j'.allocation key = j.allocation key)
    (hreservation : ∀ s, j'.reservation key s = j.reservation key s) : Sound j' key := by
  refine ⟨fun row hrow hstate => ?_, fun hnot => ?_⟩
  · exact (h.accepted row (hallocation ▸ hrow) hstate).congr hreservation
  · simpa only [hreservation] using h.quiet (by simpa only [hallocation] using hnot)

/-- An allocation without accepted rows is sound when it is not accepted. -/
lemma Sound.of_quiet (hstate : ∀ row, j.allocation key = some row → row.state ≠ .accepted)
    (hquiet : ∀ s r, j.reservation key s = some r → r.state ≠ .accepted) : Sound j key :=
  ⟨fun row hrow h => absurd h (hstate row hrow), fun _ => hquiet⟩

/-- The stored response of an accepted set is read as a reserve response. -/
lemma AcceptedSet.storedResponse {row : AllocationRow} (h : AcceptedSet j key row) :
    ∃ stored response, row.responseJson = some stored ∧
      storedReserve (some stored) = some response ∧ response.decision = .accepted ∧
      response.results.map ServiceResult.pair =
        row.serviceSet.map fun s => (s, j.reservedId key s) := by
  obtain ⟨stored, response, hstored, hread, hdecision, hpairs⟩ := h.response
  refine ⟨stored, response, hstored, ?_, hdecision, hpairs⟩
  simp [storedReserve, hread, Response.asReserve]

end Congr

/-! ### Attempts -/

section Attempts

variable {sha256 : Document → String} {request : ReserveRequest} {a : Attempt}

/-- An extension that was stopped returns or raises what its attempt does. -/
lemma extensionResult_of_stop {serviceIds : List String} (hfor : a.For serviceIds)
    (hstop : a.stop ≠ none) (previous : ReserveResponse) :
    extensionResult request previous (a.result request.requestId) =
      a.result request.requestId := by
  cases hresult : a.result request.requestId with
  | error error => rfl
  | ok response =>
    rw [extensionResult, if_neg]
    exact fun hd => hstop ((Attempt.accepted_iff hfor _).mp ⟨response, hresult, hd⟩)

/-- An extension that was stopped restores the set there was. -/
lemma extensionAfter_of_stop {serviceIds : List String} (hfor : a.For serviceIds)
    (hstop : a.stop ≠ none) (previous : ReserveResponse) (row : AllocationRow) (stored : Json) :
    extensionAfter sha256 request row stored
      (extensionResult request previous (a.result request.requestId)) =
      { request.extendedRow sha256 row with
        serviceSet := sorted row.serviceSet
        state := .accepted
        responseJson := some stored } := by
  rw [extensionResult_of_stop hfor hstop]
  cases hresult : a.result request.requestId with
  | error error => rfl
  | ok response =>
    rw [extensionAfter, if_neg]
    exact fun hd => hstop ((Attempt.accepted_iff hfor _).mp ⟨response, hresult, hd⟩)

/-- A first attempt that was stopped does not leave its allocation accepted. -/
lemma allocationAfter_of_stop {serviceIds : List String} (hfor : a.For serviceIds)
    (hstop : a.stop ≠ none) :
    (allocationAfter sha256 request (a.result request.requestId)).state ≠ .accepted := by
  simp only [allocationAfter]
  cases hresult : a.result request.requestId with
  | error error =>
    simp only [allocationOutcome]
    split_ifs <;> simp
  | ok response =>
    intro hstate
    refine hstop ((Attempt.accepted_iff hfor _).mp ⟨response, hresult, ?_⟩)
    cases hd : response.decision <;> simp_all [allocationOutcome, decisionState]

/-- The results of an accepted attempt, as services with their ids. -/
lemma map_pair_results (grants : List Grant) :
    (grants.map Grant.result).map ServiceResult.pair =
      grants.map fun g => (g.serviceId, some g.id) := by
  rw [List.map_map]
  exact List.map_congr_left fun g _ => by simp [ServiceResult.pair]

/-- A first attempt that was accepted establishes the set. -/
lemma acceptedSet_of_attempted {j j' : Journal} {operationKey : OperationKey}
    {operation : OperationRow} (hservices : request.serviceIds ≠ [])
    (hnodup : request.serviceIds.Nodup) (hfor : a.For (sorted request.serviceIds))
    (hstop : a.stop = none)
    (hquiet : ∀ s r, j.reservation request.key s = some r → r.state ≠ .accepted)
    (hfaultless : a.Faultless)
    (hj : Updated j operationKey operation request.key
      (allocationAfter sha256 request (a.result request.requestId))
      (a.writes sha256 request (request.reservationFingerprint sha256)) j') :
    AcceptedSet j' request.key
      (allocationAfter sha256 request (a.result request.requestId)) := by
  have hgrants : a.grants.map Grant.serviceId = sorted request.serviceIds := by
    simpa only [Attempt.For, hstop] using hfor
  have hresult : a.result request.requestId =
      .ok ⟨request.requestId, .accepted, a.grants.map Grant.result⟩ := by
    rw [Attempt.result, hstop]
  have hrow (s : String) : j'.reservation request.key s =
      (a.rows sha256 request s).or (j.reservation request.key s) := by
    rw [hj.reservation_eq, if_pos rfl]
  have hgranted (g : Grant) (hg : g ∈ a.grants) : j'.reservation request.key g.serviceId =
      some (g.row (request.reservationFingerprint sha256)) := by
    rw [hrow, Attempt.rows_accepted sha256 request hfor (sorted_nodup.mpr hnodup) hstop hg]
    rfl
  rw [hresult]
  refine ⟨by simpa [allocationAfter, ReserveRequest.freshRow] using hservices,
    by simpa [allocationAfter, ReserveRequest.freshRow] using hnodup, sorted_pairwise _,
    fun s hs => ?_, fun s r hr hstate => ?_, ?_⟩
  · have hmem : s ∈ a.grants.map Grant.serviceId := hgrants ▸ hs
    obtain ⟨g, hg, rfl⟩ := List.mem_map.mp hmem
    exact ⟨_, g.id, hgranted g hg, by simp, by simp⟩
  · by_contra hs
    have hs : s ∉ sorted request.serviceIds := hs
    rw [hrow, Attempt.rows_of_not_mem sha256 request hfor hfaultless hs] at hr
    exact hquiet s r hr hstate
  · refine ⟨_, _, rfl, responseFromDict_toDict _, rfl, ?_⟩
    rw [map_pair_results]
    change _ = (sorted request.serviceIds).map _
    rw [← hgrants, List.map_map]
    refine List.map_congr_left fun g hg => ?_
    simp [Journal.reservedId, hgranted g hg]

/-- The services an extension asks for are new and distinct. -/
lemma missing_facts (hnodup : request.serviceIds.Nodup) (row : AllocationRow) :
    (request.missing row).Nodup ∧ ∀ s ∈ request.missing row, s ∉ row.serviceSet := by
  refine ⟨(sorted_nodup.mpr hnodup).filter _, fun s hs => ?_⟩
  simpa using (List.mem_filter.mp hs).2

/-- The services of an extended set. -/
lemma mem_extendedRow (sha256 : Document → String) {row : AllocationRow} {s : String} :
    s ∈ (request.extendedRow sha256 row).serviceSet ↔
      s ∈ row.serviceSet ∨ s ∈ request.missing row := by
  simp [ReserveRequest.extendedRow]

/-- Results sorted by service, when every service has one id. -/
lemma map_pair_insertionSort {results : List ServiceResult} {services : List String}
    (id : String → Option ℤ) (hordered : services.Pairwise (· ≤ ·)) (hnodup : services.Nodup)
    (hservices : (results.map (·.serviceId)).Nodup)
    (hmem : ∀ s, s ∈ results.map (·.serviceId) ↔ s ∈ services)
    (hid : ∀ item ∈ results, item.reservationId = id item.serviceId) :
    (results.insertionSort fun a b => a.serviceId ≤ b.serviceId).map ServiceResult.pair =
      services.map fun s => (s, id s) := by
  have htotal : Std.Total fun a b : ServiceResult => a.serviceId ≤ b.serviceId :=
    ⟨fun a b => le_total a.serviceId b.serviceId⟩
  have htrans : IsTrans ServiceResult fun a b => a.serviceId ≤ b.serviceId :=
    ⟨fun a b c => le_trans⟩
  have hperm := List.perm_insertionSort
    (fun a b : ServiceResult => a.serviceId ≤ b.serviceId) results
  have hsorted : (results.insertionSort fun a b => a.serviceId ≤ b.serviceId).map
      (·.serviceId) = services := by
    refine eq_of_mem_iff_of_sorted ?_ ?_ hordered hnodup fun s => ?_
    · exact List.pairwise_map.mpr (List.pairwise_insertionSort _ _)
    · exact (hperm.map _).nodup_iff.mpr hservices
    · rw [← hmem]
      exact (hperm.map _).mem_iff
  rw [← hsorted, List.map_map]
  refine List.map_congr_left fun item hitem => ?_
  rw [ServiceResult.pair, hid item (hperm.mem_iff.mp hitem)]
  rfl

section Extension

variable {j j' : Journal} {operationKey : OperationKey} {operation : OperationRow}
  {row : AllocationRow} {stored : Json}
  (hnodup : request.serviceIds.Nodup) (hold : AcceptedSet j request.key row)
  (hfor : a.For (request.missing row)) (hfaultless : a.Faultless)

include hnodup hfor hfaultless in
/-- An extension leaves the rows of the set alone. -/
lemma rows_of_extension {s : String} (hs : s ∈ row.serviceSet) :
    a.rows sha256 request s = none :=
  Attempt.rows_of_not_mem sha256 request hfor hfaultless fun h => (missing_facts hnodup row).2 s h hs

include hnodup hold hfor hfaultless in
/-- An extension that was stopped keeps the set. -/
lemma acceptedSet_of_stopped (hstop : a.stop ≠ none) (hstored : row.responseJson = some stored)
    (previous : ReserveResponse)
    (hj : Updated j operationKey operation request.key
      (extensionAfter sha256 request row stored
        (extensionResult request previous (a.result request.requestId)))
      (a.writes sha256 request (request.reservationFingerprint sha256)) j') :
    AcceptedSet j' request.key (extensionAfter sha256 request row stored
      (extensionResult request previous (a.result request.requestId))) := by
  obtain ⟨stop, hstop'⟩ := Option.ne_none_iff_exists'.mp hstop
  have hrow (s : String) : j'.reservation request.key s =
      (a.rows sha256 request s).or (j.reservation request.key s) := by
    rw [hj.reservation_eq, if_pos rfl]
  have hsame (s : String) (hs : s ∈ row.serviceSet) :
      j'.reservation request.key s = j.reservation request.key s := by
    rw [hrow, rows_of_extension hnodup hfor hfaultless hs, Option.none_or]
  rw [extensionAfter_of_stop hfor hstop, sorted_eq_self hold.ordered]
  refine ⟨hold.nonempty, hold.nodup, hold.ordered, fun s hs => ?_, fun s r hr hstate => ?_, ?_⟩
  · rw [hsame s hs]
    exact hold.accepted s hs
  · cases hwritten : a.rows sha256 request s with
    | none =>
      rw [hrow, hwritten, Option.none_or] at hr
      exact hold.others s r hr hstate
    | some new =>
      rw [hrow, hwritten, Option.some_or] at hr
      cases hr
      exact absurd hstate (Attempt.state_ne_accepted sha256 request hfor hfaultless
        (missing_facts hnodup row).1 hstop' hwritten)
  · obtain ⟨value, response, hvalue, hread, hdecision, hpairs⟩ := hold.response
    cases hstored.symm.trans hvalue
    refine ⟨stored, response, rfl, hread, hdecision, hpairs.trans ?_⟩
    refine List.map_congr_left fun s hs => ?_
    rw [Journal.reservedId, Journal.reservedId, hsame s hs]

include hnodup hold hfor hfaultless in
/-- An extension that was accepted combines the sets. -/
lemma acceptedSet_of_extended (hstop : a.stop = none) (hstored : row.responseJson = some stored)
    {previous : ReserveResponse} (hprevious : storedReserve (some stored) = some previous)
    (hj : Updated j operationKey operation request.key
      (extensionAfter sha256 request row stored
        (extensionResult request previous (a.result request.requestId)))
      (a.writes sha256 request (request.reservationFingerprint sha256)) j') :
    AcceptedSet j' request.key (extensionAfter sha256 request row stored
      (extensionResult request previous (a.result request.requestId))) := by
  obtain ⟨hmissing, hnew⟩ := missing_facts hnodup row
  have hgrants : a.grants.map Grant.serviceId = request.missing row := by
    simpa only [Attempt.For, hstop] using hfor
  have hresult : extensionResult request previous (a.result request.requestId) =
      .ok (mergeExtension request previous
        ⟨request.requestId, .accepted, a.grants.map Grant.result⟩) := by
    rw [Attempt.result, hstop, extensionResult, if_pos rfl]
  have hrow (s : String) : j'.reservation request.key s =
      (a.rows sha256 request s).or (j.reservation request.key s) := by
    rw [hj.reservation_eq, if_pos rfl]
  have hsame (s : String) (hs : s ∈ row.serviceSet) :
      j'.reservation request.key s = j.reservation request.key s := by
    rw [hrow, rows_of_extension hnodup hfor hfaultless hs, Option.none_or]
  have hgranted (g : Grant) (hg : g ∈ a.grants) : j'.reservation request.key g.serviceId =
      some (g.row (request.reservationFingerprint sha256)) := by
    rw [hrow, Attempt.rows_accepted sha256 request hfor hmissing hstop hg]
    rfl
  rw [hresult, extensionAfter,
    if_pos (show (mergeExtension request previous _).decision = .accepted from rfl)]
  refine ⟨?_, ?_, sorted_pairwise _, fun s hs => ?_, fun s r hr hstate => ?_, ?_⟩
  · intro hnil
    obtain ⟨s, hs⟩ := List.exists_mem_of_ne_nil _ hold.nonempty
    have hmem : s ∈ (request.extendedRow sha256 row).serviceSet := (mem_extendedRow sha256).mpr (.inl hs)
    rw [show (request.extendedRow sha256 row).serviceSet = [] from hnil] at hmem
    cases hmem
  · exact sorted_nodup.mpr (List.nodup_dedup _)
  · rcases (mem_extendedRow sha256).mp hs with hs | hs
    · rw [hsame s hs]
      exact hold.accepted s hs
    · rw [← hgrants] at hs
      obtain ⟨g, hg, rfl⟩ := List.mem_map.mp hs
      exact ⟨_, g.id, hgranted g hg, by simp, by simp⟩
  · refine (mem_extendedRow sha256).mpr ?_
    by_contra hs
    push Not at hs
    rw [hrow, Attempt.rows_of_not_mem sha256 request hfor hfaultless hs.2, Option.none_or] at hr
    exact hs.1 (hold.others s r hr hstate)
  · obtain ⟨value, response, hvalue, hread, hdecision, hpairs⟩ := hold.storedResponse
    cases hstored.symm.trans hvalue
    cases hprevious.symm.trans hread
    have hids : ∀ item ∈ previous.results ++ a.grants.map Grant.result,
        item.pair = (item.serviceId, j'.reservedId request.key item.serviceId) := by
      intro item hitem
      rcases List.mem_append.mp hitem with hitem | hitem
      · have hpair : item.pair ∈ previous.results.map ServiceResult.pair :=
          List.mem_map_of_mem hitem
        rw [hpairs] at hpair
        obtain ⟨s, hs, heq⟩ := List.mem_map.mp hpair
        have hservice : item.serviceId = s := (congrArg Prod.fst heq).symm
        rw [← heq, hservice, Journal.reservedId, Journal.reservedId, hsame s hs]
      · obtain ⟨g, hg, rfl⟩ := List.mem_map.mp hitem
        simp [ServiceResult.pair, Journal.reservedId, hgranted g hg]
    have hservices : (previous.results ++ a.grants.map Grant.result).map (·.serviceId) =
        row.serviceSet ++ request.missing row := by
      have hold : previous.results.map (·.serviceId) = row.serviceSet := by
        have := congrArg (List.map Prod.fst) hpairs
        simpa [List.map_map, Function.comp_def, ServiceResult.pair] using this
      rw [List.map_append, hold, List.map_map, ← hgrants]
      rfl
    refine ⟨_, _, rfl, responseFromDict_toDict _, rfl, ?_⟩
    refine map_pair_insertionSort (j'.reservedId request.key) (sorted_pairwise _)
      (sorted_nodup.mpr (List.nodup_dedup _)) ?_ (fun s => ?_) fun item hitem =>
        congrArg Prod.snd (hids item hitem)
    · rw [hservices]
      exact List.nodup_append.mpr ⟨hold.nodup, hmissing, fun s hs t ht heq =>
        hnew t ht (heq ▸ hs)⟩
    · rw [hservices, List.mem_append]
      exact (mem_extendedRow sha256).symm

end Extension

end Attempts

/-! ### Steps -/

section Steps

variable {sha256 : Document → String} {j j' : Journal} {calls : List Event}

lemma Sound.of_sameRows {key : AllocationKey} (h : Sound j key) (hrows : SameRows j j' key) :
    Sound j' key := h.congr hrows.allocation_eq hrows.reservation_eq

/-- An accepted row has a reservation id. -/
lemma Sound.reservationId_ne_none {key : AllocationKey} (h : Sound j key) {s : String}
    {r : ReservationRow} (hr : j.reservation key s = some r) (hstate : r.state = .accepted) :
    r.reservationId ≠ none := by
  by_cases haccepted : ∃ row, j.allocation key = some row ∧ row.state = .accepted
  · obtain ⟨row, hrow, hrowState⟩ := haccepted
    have hset := h.accepted row hrow hrowState
    obtain ⟨r', id, hr', -, hid⟩ := hset.accepted s (hset.others s r hr hstate)
    cases hr.symm.trans hr'
    simp [hid]
  · push Not at haccepted
    exact absurd hstate (h.quiet haccepted s r hr)

/-- A pass leaves no accepted row. -/
lemma Sound.of_pass {key : AllocationKey} (h : Sound j key) {visits : List Visit}
    (hpass : Passes (j.reservations key) visits)
    (hreservation : ∀ s, j'.reservation key s =
      (written (visits.flatMap Visit.writes) s).or (j.reservation key s))
    (hallocation : ∀ row, j'.allocation key = some row → row.state ≠ .accepted) :
    Sound j' key := by
  refine .of_quiet hallocation fun s r hr hstate => ?_
  rw [hreservation] at hr
  rcases hpass.cases s with ⟨hnone, hwritten⟩ | ⟨row, hrow, hid, hwritten⟩ |
    ⟨row, hrow, -, v, -, hrecord, hsound, hwritten⟩
  · rw [hwritten, hnone] at hr
    cases hr
  · rw [hwritten, hrow] at hr
    cases hr
    exact h.reservationId_ne_none hrow hstate hid
  · rw [hwritten, hrow] at hr
    cases hdisposal : v.disposal with
    | none =>
      rw [hdisposal] at hr
      cases hr
      have hterminal := hsound.2
      rw [hdisposal] at hterminal
      have hrecordState : v.record.state = .accepted := by rw [hrecord]; exact hstate
      simp [hrecordState, RecordState.isTerminal] at hterminal
    | some disposal =>
      rw [hdisposal] at hr
      cases hr
      exact disposal.journalState_ne_accepted hstate

/-- A pass does not leave an allocation accepted. -/
lemma releasedRow_state_ne (unresolved : ReservationState → Bool) (row : AllocationRow)
    (response : ReleaseResponse) : (releasedRow unresolved row response).state ≠ .accepted := by
  simp only [releasedRow, releasedState]
  split_ifs <;> simp

/-- A reserve request keeps the invariant. -/
lemma sound_of_reserves {request : ReserveRequest} {senderUid : ℤ}
    {result : Except PyError ReserveResponse} (hservices : request.serviceIds ≠ [])
    (hnodup : request.serviceIds.Nodup)
    (h : Reserves sha256 request senderUid j result j' calls) (hs : Sound j request.key) :
    Sound j' request.key := by
  cases h with
  | conflicting row hrow hne => exact hs
  | replayed row result hrow hfp hstate h => exact hs
  | refused error hbegin h => exact hs.congr rfl fun _ => rfl
  | reused row stored response hbegin hplan h => exact hs.congr rfl fun _ => rfl
  | misread row stored error hbegin hplan h herror => exact hs.congr rfl fun _ => rfl
  | attempted job a hbegin hrestart hfor hfaultless j' hj =>
    have hbefore : ∀ row, j.allocation request.key = some row → row.state ≠ .accepted := by
      intro row hrow haccepted
      obtain ⟨stored, response, hstored, -⟩ := (hs.accepted row hrow haccepted).response
      rcases (hrestart row hrow).2 with hd | hd | ⟨hd | hd | ⟨-, hd⟩, -⟩
      all_goals simp_all
    have hquiet := hs.quiet hbefore
    have hallocation : j'.allocation request.key =
        some (allocationAfter sha256 request (a.result request.requestId)) := by
      rw [hj.allocation_eq, if_pos rfl]
    by_cases hstop : a.stop = none
    · have hset := acceptedSet_of_attempted hservices hnodup hfor hstop hquiet hfaultless hj
      refine ⟨fun row hrow _ => ?_, fun hnot => ?_⟩
      · cases hallocation.symm.trans hrow
        exact hset
      · refine absurd ?_ (hnot _ hallocation)
        rw [Attempt.result, hstop]
        rfl
    · obtain ⟨stop, hstop'⟩ := Option.ne_none_iff_exists'.mp hstop
      refine .of_quiet (fun row hrow => ?_) fun s r hr => ?_
      · cases hallocation.symm.trans hrow
        exact allocationAfter_of_stop hfor hstop
      · have hrow : j'.reservation request.key s =
            (a.rows sha256 request s).or (j.reservation request.key s) := by
          rw [hj.reservation_eq, if_pos rfl]
        cases hwritten : a.rows sha256 request s with
        | none =>
          rw [hrow, hwritten, Option.none_or] at hr
          exact hquiet s r hr
        | some new =>
          rw [hrow, hwritten, Option.some_or] at hr
          cases hr
          exact Attempt.state_ne_accepted sha256 request hfor hfaultless
            (sorted_nodup.mpr hnodup) hstop' hwritten
  | extended job a row stored previous hbegin hextends hmissing hprevious hfor hfaultless j' hj =>
    have hold := hs.accepted row hextends.allocation_eq hextends.state_eq
    have hallocation := hj.allocation_eq request.key
    rw [if_pos rfl] at hallocation
    have hset : AcceptedSet j' request.key (extensionAfter sha256 request row stored
        (extensionResult request previous (a.result request.requestId))) := by
      by_cases hstop : a.stop = none
      · exact acceptedSet_of_extended hnodup hold hfor hfaultless hstop hextends.response_eq
          (hprevious hstop) hj
      · exact acceptedSet_of_stopped hnodup hold hfor hfaultless hstop hextends.response_eq
          previous hj
    refine ⟨fun other hother _ => ?_, fun hnot => absurd ?_ (hnot _ hallocation)⟩
    · cases hallocation.symm.trans hother
      exact hset
    · unfold extensionAfter
      split
      · split_ifs <;> rfl
      · rfl
  | stranded job a row stored error hbegin hextends hmissing hstop hprevious herror hfor j' hj =>
    obtain ⟨value, response, hvalue, hread, -⟩ :=
      (hs.accepted row hextends.allocation_eq hextends.state_eq).storedResponse
    cases hextends.response_eq.symm.trans hvalue
    cases hprevious.symm.trans hread

/-- A release request keeps the invariant. -/
lemma sound_of_releases {request : ReleaseRequest} {senderUid : ℤ}
    {result : Except PyError ReleaseResponse}
    (h : Releases sha256 request senderUid j result j' calls) (hs : Sound j request.key) :
    Sound j' request.key := by
  cases h with
  | conflicting row hrow hne => exact hs
  | replayed row result hrow hfingerprint hstate h => exact hs
  | unverified failure hbegin => exact hs.congr rfl fun _ => rfl
  | unknown visits hbegin hpass hallocation j' hj =>
    subst hj
    refine hs.of_pass hpass (fun s => ?_) fun row hrow => ?_
    · rw [Journal.reservation_writeAll, if_pos rfl, Journal.reservation_putOperation]
    · rw [Journal.allocation_writeAll, Journal.allocation_putOperation, hallocation] at hrow
      cases hrow
  | released row visits hbegin hpass hallocation j' hj =>
    refine hs.of_pass hpass (fun s => ?_) fun other hother => ?_
    · rw [hj.reservation_eq, if_pos rfl]
    · rw [hj.allocation_eq, if_pos rfl] at hother
      cases hother
      exact releasedRow_state_ne _ _ _

/-- A `retry_release` keeps the invariant. -/
lemma sound_of_retries {request : ReleaseRequest} {result : Except PyError ReleaseResponse}
    (h : Retries request j result j' calls) (hs : Sound j request.key) : Sound j' request.key := by
  cases h with
  | unknown visits hpass hallocation j' hj =>
    subst hj
    refine hs.of_pass hpass (fun s => ?_) fun row hrow => ?_
    · rw [Journal.reservation_writeAll, if_pos rfl]
    · rw [Journal.allocation_writeAll, hallocation] at hrow
      cases hrow
  | retried row visits hpass hallocation j' hj =>
    subst hj
    refine hs.of_pass hpass (fun s => ?_) fun other hother => ?_
    · rw [Journal.reservation_putAllocation, Journal.reservation_writeAll, if_pos rfl]
    · rw [Journal.allocation_putAllocation_self] at hother
      cases hother
      exact releasedRow_state_ne _ _ _

end Steps

/-! ### What the set is for -/

section Uses

variable {j : Journal} {key : AllocationKey} {row : AllocationRow}

/-- The workload check on services of an accepted set fails for another workload only. -/
lemma AcceptedSet.errorClass_of_check (h : AcceptedSet j key row) {fingerprint : String}
    {serviceIds : List String} (hservices : ∀ s ∈ serviceIds, s ∈ row.serviceSet) {error : PyError}
    (herror : j.checkAcceptedServices key fingerprint serviceIds = .error error) :
    error.errorClass = .requestConflict := by
  induction serviceIds with
  | nil => cases herror
  | cons s rest ih =>
    obtain ⟨r, id, hr, hstate, -⟩ := h.accepted s (hservices s List.mem_cons_self)
    rw [Journal.checkAcceptedServices, hr] at herror
    dsimp only at herror
    rw [if_neg (not_not.mpr hstate)] at herror
    split_ifs at herror with hworkload
    · cases herror
      rfl
    · exact ih (fun t ht => hservices t (List.mem_cons_of_mem s ht)) herror

/-- `begin_allocation` refuses an accepted allocation for a conflict only. -/
lemma AcceptedSet.errorClass_of_begin (h : AcceptedSet j key row)
    (hrow : j.allocation key = some row) (hstate : row.state = .accepted) {jobUid jobGid : ℤ}
    {serviceIds : List String} {fingerprint reservationFingerprint : String} {error : PyError}
    (herror : j.beginAllocation key jobUid jobGid serviceIds fingerprint reservationFingerprint =
      .error error) : error.errorClass = .requestConflict := by
  obtain ⟨stored, -, hstored, -⟩ := h.response
  simp only [Journal.beginAllocation, hrow, hstate, hstored] at herror
  by_cases hidentity : row.jobUid = jobUid ∧ row.jobGid = jobGid
  swap
  · rw [if_pos hidentity] at herror
    cases herror
    rfl
  · rw [if_neg (not_not.mpr hidentity), Journal.planExtension] at herror
    cases hcheck : j.checkAcceptedServices key reservationFingerprint
        ((sorted serviceIds).filter (· ∈ row.serviceSet)) with
    | error failure =>
      simp only [hcheck, bind, Except.bind, Except.error.injEq] at herror
      rw [← herror]
      refine h.errorClass_of_check (fun s hs => ?_) hcheck
      simpa using (List.mem_filter.mp hs).2
    | ok u =>
      simp only [hcheck, bind, Except.bind] at herror
      split_ifs at herror <;> cases herror

/-- An allocation that is not accepted is refused for other reasons. -/
lemma ne_lacks_of_begin (hnot : ∀ row, j.allocation key = some row → row.state ≠ .accepted)
    {jobUid jobGid : ℤ} {serviceIds : List String} {fingerprint reservationFingerprint : String} :
    j.beginAllocation key jobUid jobGid serviceIds fingerprint reservationFingerprint ≠
      .error (journalError "accepted allocation lacks reservation state") := by
  intro herror
  unfold Journal.beginAllocation at herror
  cases hrow : j.allocation key with
  | none => simp [hrow] at herror
  | some row =>
    by_cases hidentity : row.jobUid = jobUid ∧ row.jobGid = jobGid
    swap
    · simp [hrow, hidentity, journalError] at herror
    by_cases hfingerprint : row.requestFingerprint = fingerprint <;>
      cases hstored : row.responseJson <;> cases hstate : row.state <;>
        first
          | exact hnot row hrow hstate
          | simp [hrow, hidentity, hfingerprint, hstored, hstate, journalError] at herror

/-- The rows of the services of an accepted set, in order. -/
lemma AcceptedSet.map_serviceId (h : AcceptedSet j key row) :
    ((j.reservations key).filter (·.serviceId ∈ row.serviceSet)).map (·.serviceId) =
      sorted row.serviceSet := by
  have hsublist : (((j.reservations key).filter (·.serviceId ∈ row.serviceSet)).map
      (·.serviceId)).Sublist ((j.reservations key).map (·.serviceId)) :=
    List.filter_sublist.map _
  refine eq_of_mem_iff_of_sorted ((Journal.sorted_reservations j key).sublist hsublist)
    ((Journal.nodup_reservations j key).sublist hsublist) (sorted_pairwise _)
    (sorted_nodup.mpr h.nodup) fun s => ?_
  rw [mem_sorted, List.mem_map]
  constructor
  · rintro ⟨item, hitem, rfl⟩
    simpa using (List.mem_filter.mp hitem).2
  · intro hs
    obtain ⟨r, -, hr, -⟩ := h.accepted s hs
    exact ⟨r.record s, List.mem_filter.mpr
      ⟨Journal.mem_reservations.mpr ⟨r, hr, rfl⟩, decide_eq_true hs⟩, rfl⟩

/-- The rows of an accepted set pass the checks of `reservation_context`. -/
lemma AcceptedSet.checkContext_eq (h : AcceptedSet j key row) :
    Journal.checkContext row.serviceSet (j.reservations key) =
      .ok ((j.reservations key).filter (·.serviceId ∈ row.serviceSet)) := by
  have hmem (item : ReservationRecord) (hitem : item ∈ j.reservations key) : ∃ r,
      j.reservation key item.serviceId = some r ∧ item.state = r.state ∧
        item.reservationId = r.reservationId := by
    obtain ⟨r, hr, hitem⟩ := Journal.mem_reservations.mp hitem
    exact ⟨r, hr, by rw [← hitem]; rfl, by rw [← hitem]; rfl⟩
  have hunexpected : ¬ ∃ item ∈ j.reservations key,
      item.state = .accepted ∧ item.serviceId ∉ row.serviceSet := by
    rintro ⟨item, hitem, hstate, hs⟩
    obtain ⟨r, hr, hrs, -⟩ := hmem item hitem
    exact hs (h.others _ r hr (hrs ▸ hstate))
  have hactive : ¬ ∃ item ∈ (j.reservations key).filter (·.serviceId ∈ row.serviceSet),
      item.state ≠ .accepted ∨ item.reservationId = none := by
    rintro ⟨item, hitem, hinactive⟩
    obtain ⟨hitem, hs⟩ := List.mem_filter.mp hitem
    obtain ⟨r, hr, hstate, hid⟩ := hmem item hitem
    obtain ⟨r', id, hr', hstate', hid'⟩ := h.accepted item.serviceId (of_decide_eq_true hs)
    cases hr.symm.trans hr'
    rw [hstate, hid, hstate', hid'] at hinactive
    simp at hinactive
  unfold Journal.checkContext
  rw [if_neg (by simp [h.nonempty, h.nodup]), if_neg hunexpected,
    if_neg (not_not.mpr h.map_serviceId),
    if_neg hactive]

/-- `reservation_context` finds the journal of a sound allocation in order. -/
lemma Sound.errorClass_of_context (h : Sound j key) {jobUid jobGid : ℤ} {error : PyError}
    (herror : j.reservationContext key jobUid jobGid = .error error) :
    error.errorClass ≠ .journalError := by
  unfold Journal.reservationContext at herror
  cases hrow : j.allocation key with
  | none =>
    simp only [hrow, Except.error.injEq] at herror
    simp [← herror]
  | some row =>
    simp only [hrow] at herror
    split_ifs at herror with hidentity hreleased haccepted
    · cases herror
      simp
    · cases herror
      simp
    · cases herror
      simp
    · rw [(h.accepted row hrow (not_not.mp haccepted)).checkContext_eq] at herror
      cases herror

end Uses

/-- Every allocation of a reachable journal is sound. -/
theorem sound_of_reachable {sha256 : Document → String} {j : Journal} (h : Reachable sha256 j)
    (key : AllocationKey) : Sound j key := by
  obtain ⟨steps, rfl⟩ := h
  refine after_invariant (Step.next sha256) (Sound · key) (fun j step => ?_) ?_ steps
  · refine Step.keeps key (Sound · key) (fun hrows hs => hs.of_sameRows hrows) ?_ ?_ ?_ step
    · rintro request _ _ _ _ _ rfl hvalid h hs
      obtain ⟨hservices, hnodup, -⟩ := services_of_valid hvalid
      exact sound_of_reserves hservices hnodup h hs
    · rintro request _ _ _ _ _ rfl h hs
      exact sound_of_releases h hs
    · rintro request _ _ _ _ rfl h hs
      exact sound_of_retries h hs
  · exact .of_quiet (fun row h => nomatch h) fun s r h => nomatch h

/-- After every run from the empty journal, an accepted allocation has its accepted set.  The two
journal methods that would raise `JournalError` for want of one never do. -/
theorem acceptedSet_journalAfter (sha256 : Document → String) (steps : List Step) :
    (∀ key row, (journalAfter sha256 Journal.empty steps).allocation key = some row →
      row.state = .accepted → AcceptedSet (journalAfter sha256 Journal.empty steps) key row) ∧
    (∀ key jobUid jobGid serviceIds fingerprint reservationFingerprint,
      (journalAfter sha256 Journal.empty steps).beginAllocation key jobUid jobGid serviceIds
        fingerprint reservationFingerprint ≠
        .error (journalError "accepted allocation lacks reservation state")) ∧
    ∀ key jobUid jobGid error,
      (journalAfter sha256 Journal.empty steps).reservationContext key jobUid jobGid =
        .error error → error.errorClass ≠ .journalError := by
  have hsound := sound_of_reachable (show Reachable sha256 _ from ⟨steps, rfl⟩)
  refine ⟨fun key => (hsound key).accepted, fun key jobUid jobGid serviceIds fp rfp => ?_,
    fun key jobUid jobGid error => (hsound key).errorClass_of_context⟩
  by_cases haccepted : ∃ row, (journalAfter sha256 Journal.empty steps).allocation key = some row ∧
      row.state = .accepted
  · obtain ⟨row, hrow, hstate⟩ := haccepted
    intro herror
    have hclass := ((hsound key).accepted row hrow hstate).errorClass_of_begin hrow hstate herror
    cases hclass
  · push Not at haccepted
    exact ne_lacks_of_begin haccepted

/-- Runs do reach accepted allocations. -/
example : ((journalAfter sampleDigest Journal.empty
    [.handle (.reserve (sampleReserve 1 ["qpm-a"])) (by decide) 1000 obliging,
      .handle (.reserve (sampleReserve 2 ["qpm-b"])) (by decide) 1000 obliging]).allocation
    sampleKey).map (fun row => (row.state, row.serviceSet)) =
      some (.accepted, ["qpm-a", "qpm-b"]) := by decide

end QfwSlurm
