import QfwSlurm.Gateway.AcceptedSet

/-!
# Stored outcomes and accepted answers

The state of an allocation decides what its stored response is: an answer to a reserve request, a
failed attempt, or the result of a release.  `Settled` says which, and no reachable allocation is in
the middle of a transaction.

With it, an accepted answer to a reserve request can be traced to the rows that stand behind it
(`Live`).  The one exception is the replay of an operation that is complete while the allocation is
no longer accepted: there the gateway repeats the answer it once gave.
-/

namespace QfwSlurm

open Interaction

/-! ### Settled allocations -/

/-- The stored response fits the state, and the state is not one of a transaction under way. -/
def AllocationRow.Settled (row : AllocationRow) : Prop :=
  match row.state with
  | .accepted => ∃ response : ReserveResponse, response.decision = .accepted ∧
    row.responseJson = some (responseToDict (.reserve response))
  | .delayed => ∃ response : ReserveResponse, response.decision = .delayed ∧
    row.responseJson = some (responseToDict (.reserve response))
  | .rejected => ∃ response : ReserveResponse, response.decision = .rejected ∧
    row.responseJson = some (responseToDict (.reserve response))
  | .rolledBack => ∃ response, row.responseJson = some (responseToDict (.error response))
  | .releaseIncomplete | .released =>
    ∃ response, row.responseJson = some (responseToDict (.release response))
  | .rollingBack => row.responseJson = none
  | .reserving | .extending => False

/-- A failed operation is answered with an error. -/
lemma operationError_eq (operation : String) (requestId : ℤ) (error : PyError) :
    ∃ response, operationError operation requestId error = .error response := by
  unfold operationError
  split
  · exact ⟨_, rfl⟩
  · exact ⟨_, rfl⟩
  · exact ⟨_, rfl⟩
  · split_ifs <;> exact ⟨_, rfl⟩

section Settled

variable {sha256 : Document → String} {j j' : Journal} {calls : List Event}

/-- A first attempt leaves a settled allocation. -/
lemma settled_allocationAfter (sha256 : Document → String) (request : ReserveRequest)
    (result : Except PyError ReserveResponse) : (allocationAfter sha256 request result).Settled := by
  cases result with
  | ok response =>
    cases hd : response.decision <;>
      simp only [AllocationRow.Settled, allocationAfter, allocationOutcome, decisionState, hd] <;>
      exact ⟨response, hd, rfl⟩
  | error error =>
    obtain ⟨failure, hfailure⟩ := operationError_eq "reserve" request.requestId error
    by_cases hrollback : error.errorClass = .rollbackIncomplete
    · simp [AllocationRow.Settled, allocationAfter, allocationOutcome, hrollback]
    · simp only [AllocationRow.Settled, allocationAfter, allocationOutcome, hrollback, if_false]
      exact ⟨failure, by rw [failureJson, hfailure]⟩

/-- An extension leaves a settled allocation. -/
lemma settled_extensionAfter (request : ReserveRequest) {row : AllocationRow} {stored : Json}
    (hrow : row.Settled) (hstate : row.state = .accepted) (hstored : row.responseJson = some stored)
    (result : Except PyError ReserveResponse) :
    (extensionAfter sha256 request row stored result).Settled := by
  have hkept : ∃ response : ReserveResponse, response.decision = .accepted ∧
      some stored = some (responseToDict (.reserve response)) := by
    simpa only [AllocationRow.Settled, hstate, hstored] using hrow
  cases result with
  | error error => exact hkept
  | ok response =>
    rw [extensionAfter]
    split_ifs with hd
    · exact ⟨response, hd, rfl⟩
    · exact hkept

/-- A pass leaves a settled allocation. -/
lemma settled_releasedRow (unresolved : ReservationState → Bool) (row : AllocationRow)
    (response : ReleaseResponse) : (releasedRow unresolved row response).Settled := by
  unfold AllocationRow.Settled releasedRow releasedState
  split_ifs <;> exact ⟨response, rfl⟩

/-- A reserve request leaves its allocation settled. -/
lemma settled_of_reserves {request : ReserveRequest} {senderUid : ℤ}
    {result : Except PyError ReserveResponse}
    (h : Reserves sha256 request senderUid j result j' calls)
    (hj : ∀ row, j.allocation request.key = some row → row.Settled) :
    ∀ row, j'.allocation request.key = some row → row.Settled := by
  cases h with
  | attempted job a hbegin hrestart hfor hfaultless j' hj' =>
    intro row hrow
    rw [hj'.allocation_eq, if_pos rfl] at hrow
    cases hrow
    exact settled_allocationAfter sha256 request _
  | extended job a old stored previous hbegin hextends hmissing hprevious hfor hfaultless j' hj' =>
    intro row hrow
    rw [hj'.allocation_eq, if_pos rfl] at hrow
    cases hrow
    exact settled_extensionAfter request (hj old hextends.allocation_eq) hextends.state_eq
      hextends.response_eq _
  | stranded job a old stored error hbegin hextends hmissing hstop hprevious herror hfor j' hj' =>
    have hold := hj old hextends.allocation_eq
    simp only [AllocationRow.Settled, hextends.state_eq] at hold
    obtain ⟨response, -, hresponse⟩ := hold
    rw [← hextends.response_eq, hresponse, storedReserve_reserve] at hprevious
    cases hprevious
  | _ => exact hj

/-- A release request leaves its allocation settled. -/
lemma settled_of_releases {request : ReleaseRequest} {senderUid : ℤ}
    {result : Except PyError ReleaseResponse}
    (h : Releases sha256 request senderUid j result j' calls)
    (hj : ∀ row, j.allocation request.key = some row → row.Settled) :
    ∀ row, j'.allocation request.key = some row → row.Settled := by
  cases h with
  | unknown visits hbegin hpass hallocation j' hj' =>
    intro row hrow
    rw [hj', Journal.allocation_writeAll, Journal.allocation_putOperation, hallocation] at hrow
    cases hrow
  | released old visits hbegin hpass hallocation j' hj' =>
    intro row hrow
    rw [hj'.allocation_eq, if_pos rfl] at hrow
    cases hrow
    exact settled_releasedRow _ _ _
  | _ => exact hj

/-- A `retry_release` leaves its allocation settled. -/
lemma settled_of_retries {request : ReleaseRequest} {result : Except PyError ReleaseResponse}
    (h : Retries request j result j' calls) :
    ∀ row, j'.allocation request.key = some row → row.Settled := by
  cases h with
  | unknown visits hpass hallocation j' hj' =>
    intro row hrow
    rw [hj', Journal.allocation_writeAll, hallocation] at hrow
    cases hrow
  | retried old visits hpass hallocation j' hj' =>
    intro row hrow
    rw [hj', Journal.allocation_putAllocation_self] at hrow
    cases hrow
    exact settled_releasedRow _ _ _

/-- Every allocation of a reachable journal is settled. -/
theorem settled_of_reachable (h : Reachable sha256 j) {key : AllocationKey} {row : AllocationRow}
    (hrow : j.allocation key = some row) : row.Settled := by
  obtain ⟨steps, rfl⟩ := h
  refine after_invariant (Step.next sha256)
    (fun j => ∀ row, j.allocation key = some row → row.Settled) (fun j step => ?_)
    (by simp) steps row hrow
  refine Step.keeps key (fun j => ∀ row, j.allocation key = some row → row.Settled) ?_ ?_ ?_ ?_
    step
  · exact fun hrows hj row hrow => hj row (hrows.allocation_eq ▸ hrow)
  · rintro request _ _ _ _ _ rfl - h hj
    exact settled_of_reserves h hj
  · rintro request _ _ _ _ _ rfl h hj
    exact settled_of_releases h hj
  · rintro request _ _ _ _ rfl h -
    exact settled_of_retries h

end Settled

/-! ### Live reservations -/

/-- The result names a reservation that the journal has as accepted, with that id. -/
def Live (j : Journal) (key : AllocationKey) (item : ServiceResult) : Prop :=
  ∃ row id, j.reservation key item.serviceId = some row ∧ row.state = .accepted ∧
    row.reservationId = some id ∧ item.reservationId = some id

/-- The stored response of an accepted set names live reservations. -/
lemma AcceptedSet.live {j : Journal} {key : AllocationKey} {row : AllocationRow}
    (h : AcceptedSet j key row) {response : ReserveResponse}
    (hresponse : storedReserve row.responseJson = some response) :
    ∀ item ∈ response.results, Live j key item := by
  obtain ⟨stored, other, hstored, hread, -, hpairs⟩ := h.storedResponse
  obtain rfl : other = response := Option.some.inj (hread.symm.trans (hstored ▸ hresponse))
  intro item hitem
  have hpair : item.pair ∈ other.results.map ServiceResult.pair := List.mem_map_of_mem hitem
  rw [hpairs] at hpair
  obtain ⟨s, hs, heq⟩ := List.mem_map.mp hpair
  obtain ⟨r, id, hr, hstate, hid⟩ := h.accepted s hs
  have hservice : item.serviceId = s := (congrArg Prod.fst heq).symm
  have hitemId : item.reservationId = j.reservedId key s := (congrArg Prod.snd heq).symm
  refine ⟨r, id, by rw [hservice, hr], hstate, hid, ?_⟩
  rw [hitemId, Journal.reservedId, hr]
  exact hid

section Answers

variable {sha256 : Document → String} {j j' : Journal} {request : ReserveRequest} {senderUid : ℤ}
  {calls : List Event}

/-- The request repeats an operation that is complete, on an allocation that is not accepted. -/
structure Repeats (sha256 : Document → String) (request : ReserveRequest) (senderUid : ℤ)
    (j : Journal) (operation : OperationRow) : Prop where
  operation_eq : j.operation (request.reserveKey senderUid) = some operation
  fingerprint_eq : operation.fingerprint = request.fingerprint sha256
  state_eq : operation.state = .complete
  not_accepted : ∀ row, j.allocation request.key = some row → row.state ≠ .accepted

/-- `accepted_allocation` finds nothing only when the allocation is not accepted. -/
lemma not_accepted_of_none
    (hsettled : ∀ row, j.allocation request.key = some row → row.Settled)
    (h : j.acceptedAllocation request.key request.jobUid request.jobGid request.serviceIds =
      .ok none) : ∀ row, j.allocation request.key = some row → row.state ≠ .accepted := by
  intro row hrow hstate
  have hrowSettled := hsettled row hrow
  simp only [AllocationRow.Settled, hstate] at hrowSettled
  obtain ⟨response, -, hresponse⟩ := hrowSettled
  unfold Journal.acceptedAllocation at h
  simp only [hrow, hresponse] at h
  split_ifs at h
  · exact absurd hstate ‹row.state ≠ .accepted›
  · cases h

/-- What `accepted_allocation` returns is the stored response of an accepted allocation. -/
lemma accepted_of_some {stored : Json}
    (h : j.acceptedAllocation request.key request.jobUid request.jobGid request.serviceIds =
      .ok (some stored)) : ∃ row, j.allocation request.key = some row ∧ row.state = .accepted ∧
        row.responseJson = some stored ∧ ∀ s ∈ request.serviceIds, s ∈ row.serviceSet := by
  unfold Journal.acceptedAllocation at h
  cases hrow : j.allocation request.key with
  | none => simp [hrow] at h
  | some row =>
    simp only [hrow] at h
    split_ifs at h with hidentity hservices hstate
    · cases h
    · exact ⟨row, rfl, not_not.mp hstate, Except.ok.inj h, hservices⟩

/-- It is an allocation of the job of the request. -/
lemma identity_of_some {stored : Json}
    (h : j.acceptedAllocation request.key request.jobUid request.jobGid request.serviceIds =
      .ok (some stored)) {row : AllocationRow} (hrow : j.allocation request.key = some row) :
    row.jobUid = request.jobUid ∧ row.jobGid = request.jobGid := by
  unfold Journal.acceptedAllocation at h
  rw [hrow] at h
  dsimp only at h
  split_ifs at h with hidentity hservices hstate
  · cases h
  · push Not at hidentity
    exact hidentity

/-- The allocation is accepted for the job of the request, with the results of the response. -/
def Journal.Answers (j : Journal) (request : ReserveRequest) (response : ReserveResponse) : Prop :=
  ∃ row stored, j.allocation request.key = some row ∧ row.state = .accepted ∧
    (row.jobUid = request.jobUid ∧ row.jobGid = request.jobGid) ∧
    storedReserve row.responseJson = some stored ∧ stored.results = response.results

/-- An accepted answer of `_reserve` is that of the accepted allocation, or repeats a stored one. -/
lemma answers_of_reserves
    (hsettled : ∀ row, j.allocation request.key = some row → row.Settled)
    {result : Except PyError ReserveResponse}
    (h : Reserves sha256 request senderUid j result j' calls) {response : ReserveResponse}
    (hresult : result = .ok response) (hdecision : response.decision = .accepted) :
    j'.Answers request response ∨
      ∃ operation, Repeats sha256 request senderUid j operation ∧
        storedReserve operation.responseJson = some response := by
  cases h with
  | conflicting row hrow hne => cases hresult
  | replayed row result hrow hfingerprint hstate h =>
    cases h with
    | settled stored hcomplete hread hd =>
      cases hresult
      exact absurd hdecision hd
    | gone stored hcomplete hread hd hallocation =>
      cases hresult
      exact .inr ⟨row, ⟨hrow, hfingerprint, hcomplete, not_accepted_of_none hsettled hallocation⟩,
        hread⟩
    | current stored now value hcomplete hread hd hallocation hnow =>
      cases hresult
      obtain ⟨allocation, hrow, hstate, hvalue, -⟩ := accepted_of_some hallocation
      have hread : storedReserve allocation.responseJson = some now := by rw [hvalue, hnow]
      exact .inl ⟨allocation, now, hrow, hstate, identity_of_some hallocation hrow, hread, rfl⟩
    | _ => cases hresult
  | refused error hbegin h => cases hresult
  | reused row stored answer hbegin hplan h =>
    cases hresult
    rcases hplan with ⟨hextends, -⟩ | hrecalls
    · have hread : storedReserve row.responseJson = some answer := by rw [hextends.response_eq, h]
      exact .inl ⟨row, answer, hextends.allocation_eq, hextends.state_eq, hextends.identity, hread,
        rfl⟩
    · -- a recalled response is a rejection or the result of a release
      exfalso
      have hrow := hsettled row hrecalls.allocation_eq
      rcases hrecalls.state_eq with hstate | hstate <;>
        simp only [AllocationRow.Settled, hstate] at hrow
      · obtain ⟨rejection, hrejected, hstored⟩ := hrow
        rw [← hrecalls.response_eq, hstored, storedReserve_reserve] at h
        cases h
        exact absurd (hrejected.symm.trans hdecision) (by simp)
      · obtain ⟨released, hstored⟩ := hrow
        rw [← hrecalls.response_eq, hstored, storedReserve_release] at h
        cases h
  | misread row stored error hbegin hplan h herror => cases hresult
  | attempted job a hbegin hrestart hfor hfaultless j' hj =>
    left
    rw [hresult] at hj
    have hallocation := hj.allocation_eq request.key
    rw [if_pos rfl] at hallocation
    refine ⟨_, response, hallocation, ?_, ⟨rfl, rfl⟩, ?_, rfl⟩
    · simp [allocationAfter, allocationOutcome, hdecision, decisionState]
    · simp [allocationAfter, allocationOutcome]
  | extended job a row stored previous hbegin hextends hmissing hprevious hfor hfaultless j' hj =>
    left
    rw [hresult] at hj
    have hallocation := hj.allocation_eq request.key
    rw [if_pos rfl] at hallocation
    refine ⟨_, response, hallocation, ?_, ?_, ?_, rfl⟩
    · simp [extensionAfter, hdecision]
    · rw [extensionAfter, if_pos hdecision]
      exact hextends.identity
    · simp [extensionAfter, hdecision]
  | stranded job a row stored error hbegin hextends hmissing hstop hprevious herror hfor j' hj =>
    cases hresult

/-- An accepted answer of `_reserve` names live reservations, or repeats a stored one. -/
lemma live_of_reserves (hservices : request.serviceIds ≠ []) (hnodup : request.serviceIds.Nodup)
    (hsound : Sound j request.key)
    (hsettled : ∀ row, j.allocation request.key = some row → row.Settled)
    {result : Except PyError ReserveResponse}
    (h : Reserves sha256 request senderUid j result j' calls) {response : ReserveResponse}
    (hresult : result = .ok response) (hdecision : response.decision = .accepted) :
    (∀ item ∈ response.results, Live j' request.key item) ∨
      ∃ operation, Repeats sha256 request senderUid j operation ∧
        storedReserve operation.responseJson = some response := by
  have hafter := sound_of_reserves hservices hnodup h hsound
  refine (answers_of_reserves hsettled h hresult hdecision).imp_left fun hanswers => ?_
  obtain ⟨row, stored, hrow, hstate, -, hread, hsame⟩ := hanswers
  intro item hitem
  exact (hafter.accepted row hrow hstate).live hread item (hsame ▸ hitem)

/-- The response to a reserve request is a `ReserveResponse` when `_reserve` returned one. -/
lemma reserveResult_of_response {oracle : Oracle} {response : ReserveResponse}
    (h : (serve sha256 j (.reserve request) senderUid oracle).1 = .reserve response) :
    reserveResult sha256 j request senderUid oracle = .ok response := by
  rw [serve_reserve_response] at h
  cases hresult : reserveResult sha256 j request senderUid oracle with
  | ok value =>
    rw [hresult] at h
    cases h
    rfl
  | error error =>
    rw [hresult] at h
    obtain ⟨failure, hfailure⟩ := operationError_eq "reserve" request.requestId error
    cases hfailure.symm.trans h

end Answers

/-- Unless it repeats the stored answer of a completed operation on an allocation that is not
accepted, an accepted answer to a reserve request names live reservations only. -/
theorem live_of_accepted_answer (sha256 : Document → String) (steps : List Step)
    (request : ReserveRequest) (valid : (Request.reserve request).Valid) (senderUid : ℤ)
    (oracle : Oracle) (response : ReserveResponse)
    (hresponse : (serve sha256 (journalAfter sha256 Journal.empty steps) (.reserve request)
      senderUid oracle).1 = .reserve response)
    (hdecision : response.decision = .accepted) :
    (∀ item ∈ response.results,
      Live (serve sha256 (journalAfter sha256 Journal.empty steps) (.reserve request) senderUid
        oracle).2.state request.key item) ∨
    ∃ operation, Repeats sha256 request senderUid (journalAfter sha256 Journal.empty steps)
        operation ∧ storedReserve operation.responseJson = some response := by
  obtain ⟨hservices, hnodup, -⟩ := services_of_valid valid
  have hreachable : Reachable sha256 (journalAfter sha256 Journal.empty steps) := ⟨steps, rfl⟩
  have hresult := reserveResult_of_response hresponse
  rcases serve_reserve_cases sha256 _ valid senderUid oracle with ⟨failure, herror, -⟩ | h
  · cases herror.symm.trans hresult
  · exact live_of_reserves hservices hnodup (sound_of_reachable hreachable request.key)
      (fun row hrow => settled_of_reachable hreachable hrow) h hresult hdecision

/-- A first reserve request that every QPM accepts. -/
theorem live_of_accepted_answer_first :
    Live (serve sampleDigest Journal.empty (.reserve (sampleReserve 1 ["qpm-a"])) 1000
      obliging).2.state sampleKey
      ⟨"qpm-a", .accepted, 0, some 5, none, none, none, some "runtime", some 1, none⟩ := by
  rcases live_of_accepted_answer sampleDigest [] (sampleReserve 1 ["qpm-a"]) (by decide) 1000
    obliging ⟨1, .accepted, [⟨"qpm-a", .accepted, 0, some 5, none, none, none, some "runtime",
      some 1, none⟩]⟩ (by decide) rfl with hlive | ⟨operation, hrepeats, -⟩
  · exact hlive _ (List.mem_singleton_self _)
  · cases hrepeats.operation_eq

/-- A reserve, a release, and the same reserve again: the second answer is the accepted one of the
first, and the reservation it names was released. -/
theorem released_reservation_answered :
    ∃ response : ReserveResponse, response.decision = .accepted ∧
      (serve sampleDigest (journalAfter sampleDigest Journal.empty sampleRelinquished)
        (.reserve (sampleReserve 1 ["qpm-a"])) 1000 obliging).1 = .reserve response ∧
      ∃ item ∈ response.results,
        ¬ Live (serve sampleDigest (journalAfter sampleDigest Journal.empty sampleRelinquished)
          (.reserve (sampleReserve 1 ["qpm-a"])) 1000 obliging).2.state sampleKey item := by
  refine ⟨⟨1, .accepted, [⟨"qpm-a", .accepted, 0, some 5, none, none, none, some "runtime", some 1,
    none⟩]⟩, rfl, by decide, _, List.mem_singleton_self _, ?_⟩
  rintro ⟨row, id, hrow, hstate, -⟩
  have hreleased : ((serve sampleDigest (journalAfter sampleDigest Journal.empty
      sampleRelinquished) (.reserve (sampleReserve 1 ["qpm-a"])) 1000 obliging).2.state.reservation
        sampleKey "qpm-a").map (·.state) = some .released := by decide
  rw [hrow, Option.map_some, hstate] at hreleased
  cases hreleased

end QfwSlurm
