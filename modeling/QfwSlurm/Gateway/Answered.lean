import QfwSlurm.Gateway.Operations

/-!
# What an accepted answer names

`_reserve` answers with the whole set of an allocation, whatever part of it was requested.  An
accepted answer names the reservations that were there before the QPMs are asked, which are those of
the accepted set or else of the stored answer of a repeated operation, and those that the QPMs grant
(`names_of_accepted_answer`).  Every answer carries the id of its request (`requestId_of_answer`).
-/

namespace QfwSlurm

open Interaction

/-! ### The reservations of an answer -/

/-- The reservations of the accepted set, if the allocation is accepted. -/
def Journal.acceptedPairs (j : Journal) (key : AllocationKey) :
    Option (List (String × Option ℤ)) :=
  (j.allocation key).bind fun row =>
    if row.state = .accepted then some (row.serviceSet.map fun s => (s, j.reservedId key s))
    else none

section Named

variable (sha256 : Document → String) (request : ReserveRequest) (senderUid : ℤ) (j : Journal)

/-- The stored answer of the operation that the request repeats, if that is complete. -/
def repeatedAnswer : Option ReserveResponse :=
  (j.operation (request.reserveKey senderUid)).bind fun row =>
    if row.fingerprint = request.fingerprint sha256 ∧ row.state = .complete then
      storedReserve row.responseJson
    else none

/-- The reservations that an accepted answer names before any QPM is asked. -/
def namedBefore : List (String × Option ℤ) :=
  (j.acceptedPairs request.key).getD
    (((repeatedAnswer sha256 request senderUid j).map fun response =>
      response.results.map ServiceResult.pair).getD [])

/-- The reservations that an accepted answer names, when the QPMs grant these while the request is
processed. -/
def answeredPairs (granted : List (String × ℤ)) : List (String × Option ℤ) :=
  namedBefore sha256 request senderUid j ++ granted.map fun pair => (pair.1, some pair.2)

end Named

section Answers

variable {sha256 : Document → String} {j j' : Journal} {request : ReserveRequest} {senderUid : ℤ}
  {calls : List Event}

lemma acceptedPairs_of_accepted {row : AllocationRow} (hrow : j.allocation request.key = some row)
    (hstate : row.state = .accepted) :
    j.acceptedPairs request.key =
      some (row.serviceSet.map fun s => (s, j.reservedId request.key s)) := by
  rw [Journal.acceptedPairs, hrow, Option.bind_some, if_pos hstate]

lemma acceptedPairs_eq_none
    (hnot : ∀ row, j.allocation request.key = some row → row.state ≠ .accepted) :
    j.acceptedPairs request.key = none := by
  rw [Journal.acceptedPairs, Option.bind_eq_none_iff]
  intro row hrow
  rw [if_neg (hnot row hrow)]

/-- The response of an accepted set lists the pairs of the set. -/
lemma namedBefore_of_accepted {row : AllocationRow} (hsound : Sound j request.key)
    (hrow : j.allocation request.key = some row) (hstate : row.state = .accepted)
    {response : ReserveResponse} (hresponse : storedReserve row.responseJson = some response) :
    namedBefore sha256 request senderUid j = response.results.map ServiceResult.pair := by
  obtain ⟨stored, other, hstored, hread, -, hpairs⟩ :=
    (hsound.accepted row hrow hstate).storedResponse
  obtain rfl : other = response := Option.some.inj (hread.symm.trans (hstored ▸ hresponse))
  rw [namedBefore, acceptedPairs_of_accepted hrow hstate, Option.getD_some, hpairs]

/-- An operation that may begin repeats no answer. -/
lemma repeatedAnswer_of_mayBegin
    (hbegin : j.MayBegin (request.reserveKey senderUid) (request.fingerprint sha256)) :
    repeatedAnswer sha256 request senderUid j = none := by
  rw [repeatedAnswer, Option.bind_eq_none_iff]
  intro row hrow
  refine if_neg fun h => ?_
  cases (hbegin row hrow).2.symm.trans h.2

/-- A set that is reserved from the start is not accepted. -/
lemma not_accepted_of_restarts (h : Restarts sha256 request j)
    (hsettled : ∀ row, j.allocation request.key = some row → row.Settled) :
    ∀ row, j.allocation request.key = some row → row.state ≠ .accepted := by
  intro row hrow hstate
  have hstored := hsettled row hrow
  simp only [AllocationRow.Settled, hstate] at hstored
  obtain ⟨response, -, hresponse⟩ := hstored
  obtain ⟨-, hdelayed | hrolled | ⟨hrejected | hincomplete | ⟨-, hnone⟩, -⟩⟩ := h row hrow
  · cases hstate.symm.trans hdelayed
  · cases hstate.symm.trans hrolled
  · cases hstate.symm.trans hrejected
  · cases hstate.symm.trans hincomplete
  · cases hresponse.symm.trans hnone

/-- A stored response that is recalled is a rejection. -/
lemma Recalls.decision_eq {row : AllocationRow} {stored : Json} {response : ReserveResponse}
    (h : Recalls sha256 request j row stored) (hsettled : row.Settled)
    (hread : storedReserve (some stored) = some response) : response.decision = .rejected := by
  rcases h.state_eq with hstate | hstate <;>
    simp only [AllocationRow.Settled, hstate] at hsettled
  · obtain ⟨rejection, hrejected, hstored⟩ := hsettled
    rw [← h.response_eq, hstored, storedReserve_reserve] at hread
    exact Option.some.inj hread ▸ hrejected
  · obtain ⟨released, hstored⟩ := hsettled
    rw [← h.response_eq, hstored, storedReserve_release] at hread
    cases hread

/-- The results of an attempt that every service accepted are the reservations it was granted. -/
lemma map_pair_of_accepted {a : Attempt} {serviceIds : List String} (hfor : a.For serviceIds)
    (hstop : a.stop = none) (job : VerifiedJob) :
    (a.grants.map Grant.result).map ServiceResult.pair =
      (granted (adapterCalls (a.events sha256 request job
        (request.reservationFingerprint sha256)))).map fun pair => (pair.1, some pair.2) := by
  rw [granted_adapterCalls]
  exact (Attempt.acceptedAll sha256 request job _ hfor hstop).results_eq

/-- An accepted answer of `_reserve` names what was there and what the QPMs granted. -/
lemma names_of_reserves (hsound : Sound j request.key)
    (hsettled : ∀ row, j.allocation request.key = some row → row.Settled)
    {result : Except PyError ReserveResponse}
    (h : Reserves sha256 request senderUid j result j' calls) {response : ReserveResponse}
    (hresult : result = .ok response) (hdecision : response.decision = .accepted) :
    (response.results.map ServiceResult.pair).Perm
      (answeredPairs sha256 request senderUid j (granted calls)) := by
  have hquiet (results : List ServiceResult)
      (hnamed : namedBefore sha256 request senderUid j = results.map ServiceResult.pair) :
      (results.map ServiceResult.pair).Perm
        (answeredPairs sha256 request senderUid j (granted [])) := by
    rw [answeredPairs, hnamed]
    exact List.Perm.of_eq (List.append_nil _).symm
  cases h with
  | conflicting row hrow hne => cases hresult
  | replayed row result hrow hfingerprint hstate h =>
    cases h with
    | settled stored hcomplete hread hd =>
      cases hresult
      exact absurd hdecision hd
    | gone stored hcomplete hread hd hallocation =>
      cases hresult
      refine hquiet _ ?_
      rw [namedBefore, acceptedPairs_eq_none (not_accepted_of_none hsettled hallocation),
        Option.getD_none, repeatedAnswer, hrow, Option.bind_some,
        if_pos ⟨hfingerprint, hcomplete⟩, hread]
      rfl
    | current stored now value hcomplete hread hd hallocation hnow =>
      cases hresult
      obtain ⟨allocation, hallocation, hstate, hvalue, -⟩ := accepted_of_some hallocation
      exact hquiet now.results
        (namedBefore_of_accepted hsound hallocation hstate (by rw [hvalue, hnow]))
    | _ => cases hresult
  | refused error hbegin h => cases hresult
  | reused row stored answer hbegin hplan h =>
    cases hresult
    rcases hplan with ⟨hextends, -⟩ | hrecalls
    · exact hquiet answer.results (namedBefore_of_accepted hsound hextends.allocation_eq
        hextends.state_eq (by rw [hextends.response_eq, h]))
    · have hrejected := hrecalls.decision_eq (hsettled row hrecalls.allocation_eq) h
      cases hrejected.symm.trans hdecision
  | misread row stored error hbegin hplan h herror => cases hresult
  | attempted job a hbegin hrestart hfor hfaultless j' hj =>
    -- nothing is named before a set is reserved from the start
    have hnamed : namedBefore sha256 request senderUid j = [] := by
      rw [namedBefore, acceptedPairs_eq_none (not_accepted_of_restarts hrestart hsettled),
        repeatedAnswer_of_mayBegin hbegin]
      rfl
    have hstop := (Attempt.accepted_iff hfor _).mp ⟨response, hresult, hdecision⟩
    rw [Attempt.result, hstop] at hresult
    cases hresult
    rw [answeredPairs, hnamed, List.nil_append, map_pair_of_accepted hfor hstop job]
  | extended job a row stored previous hbegin hextends hmissing hprevious hfor hfaultless j' hj =>
    have hstop : a.stop = none := by
      by_contra hstop
      rw [extensionResult_of_stop hfor hstop] at hresult
      exact hstop ((Attempt.accepted_iff hfor _).mp ⟨response, hresult, hdecision⟩)
    have hnamed : namedBefore sha256 request senderUid j =
        previous.results.map ServiceResult.pair :=
      namedBefore_of_accepted hsound hextends.allocation_eq hextends.state_eq
        (by rw [hextends.response_eq, hprevious hstop])
    rw [Attempt.result, hstop, extensionResult, if_pos rfl] at hresult
    cases hresult
    rw [answeredPairs, hnamed, ← map_pair_of_accepted hfor hstop job, ← List.map_append]
    exact (List.perm_insertionSort _ _).map _
  | stranded job a row stored error hbegin hextends hmissing hstop hprevious herror hfor j' hj =>
    cases hresult

end Answers

/-- In every reachable journal, an accepted answer to a reserve request names the reservations that
were there and those that the QPMs grant. -/
theorem names_of_accepted_answer {sha256 : Document → String} {j : Journal}
    (hreachable : Reachable sha256 j) {request : ReserveRequest}
    (valid : (Request.reserve request).Valid) {senderUid : ℤ} {oracle : Oracle}
    {response : ReserveResponse}
    (hresponse : (serve sha256 j (.reserve request) senderUid oracle).1 = .reserve response)
    (hdecision : response.decision = .accepted) :
    (response.results.map ServiceResult.pair).Perm (answeredPairs sha256 request senderUid j
      (granted (serve sha256 j (.reserve request) senderUid oracle).2.trace)) := by
  have hresult := reserveResult_of_response hresponse
  rw [← granted_adapterCalls]
  rcases serve_reserve_cases sha256 j valid senderUid oracle with ⟨failure, herror, -⟩ | h
  · cases herror.symm.trans hresult
  · exact names_of_reserves (sound_of_reachable hreachable request.key)
      (fun row hrow => settled_of_reachable hreachable hrow) h hresult hdecision

/-! ### The id of an answer -/

/-- The response stored for a reserve operation carries the id it is stored under. -/
def CarriesId (j : Journal) (k : OperationKey) : Prop :=
  ∀ row response, j.operation k = some row → storedReserve row.responseJson = some response →
    response.requestId = k.requestId

section Ids

variable {sha256 : Document → String} {j j' : Journal} {request : ReserveRequest} {senderUid : ℤ}
  {calls : List Event}

/-- An extension returns a response with the id of the request. -/
lemma requestId_of_extension {a : Attempt} {previous response : ReserveResponse}
    (h : extensionResult request previous (a.result request.requestId) = .ok response) :
    response.requestId = request.requestId := by
  cases hresult : a.result request.requestId with
  | error error =>
    rw [hresult] at h
    cases h
  | ok answer =>
    rw [hresult, extensionResult] at h
    split_ifs at h
    · cases h
      rfl
    · cases h
      exact Attempt.requestId_of_ok hresult

/-- An answer of `_reserve` carries the id of the request. -/
lemma requestId_of_reserves (hj : CarriesId j (request.reserveKey senderUid))
    {result : Except PyError ReserveResponse}
    (h : Reserves sha256 request senderUid j result j' calls) {response : ReserveResponse}
    (hresult : result = .ok response) : response.requestId = request.requestId := by
  cases h with
  | replayed row result hrow hfingerprint hstate h =>
    cases h with
    | settled stored hcomplete hread hd =>
      cases hresult
      exact hj row _ hrow hread
    | gone stored hcomplete hread hd hallocation =>
      cases hresult
      exact hj row _ hrow hread
    | current stored now value hcomplete hread hd hallocation hnow =>
      cases hresult
      rfl
    | _ => cases hresult
  | reused row stored answer hbegin hplan h =>
    cases hresult
    rfl
  | attempted job a hbegin hrestart hfor hfaultless j' hj' => exact Attempt.requestId_of_ok hresult
  | extended job a row stored previous hbegin hextends hmissing hprevious hfor hfaultless j' hj' =>
    exact requestId_of_extension hresult
  | _ => cases hresult

/-- What an attempt leaves in its operation carries the id as well. -/
lemma carriesId_operationAfter {result : Except PyError ReserveResponse}
    (hresult : ∀ response, result = .ok response → response.requestId = request.requestId)
    {response : ReserveResponse}
    (hread : storedReserve (operationAfter sha256 request result).responseJson = some response) :
    response.requestId = request.requestId := by
  cases result with
  | ok answer =>
    rw [operationAfter, operationOutcome, storedReserve_reserve] at hread
    exact Option.some.inj hread ▸ hresult answer rfl
  | error error =>
    obtain ⟨failure, hfailure⟩ := operationError_eq "reserve" request.requestId error
    by_cases hclass : error.errorClass = .rollbackIncomplete
    · simp [operationAfter, operationOutcome, hclass, storedReserve] at hread
    · simp [operationAfter, operationOutcome, hclass, failureJson, hfailure] at hread

/-- A reserve request leaves the id with its operation. -/
lemma Reserves.carriesId {result : Except PyError ReserveResponse}
    (h : Reserves sha256 request senderUid j result j' calls)
    (hj : CarriesId j (request.reserveKey senderUid)) :
    CarriesId j' (request.reserveKey senderUid) := by
  have hnone {row : OperationRow} {response : ReserveResponse} (hrow : row.responseJson = none)
      (hread : storedReserve row.responseJson = some response) : False := by
    rw [hrow] at hread
    cases hread
  cases h with
  | refused error hbegin h =>
    intro row response hrow hread
    rw [ReserveRequest.begun, Journal.operation_putOperation_self] at hrow
    cases hrow
    exact (hnone rfl hread).elim
  | reused row stored answer hbegin hplan h =>
    intro row response hrow hread
    rw [Journal.operation_putOperation_self] at hrow
    cases hrow
    rw [storedReserve_reserve] at hread
    cases hread
    rfl
  | misread row stored error hbegin hplan h herror =>
    intro row response hrow hread
    rw [ReserveRequest.begun, Journal.operation_putOperation_self] at hrow
    cases hrow
    exact (hnone rfl hread).elim
  | attempted job a hbegin h hfor hfaultless j' hj' =>
    intro row response hrow hread
    rw [hj'.operation_eq, if_pos rfl] at hrow
    cases hrow
    exact carriesId_operationAfter (fun _ hresult => Attempt.requestId_of_ok hresult) hread
  | extended job a row stored previous hbegin h hm hp hfor hfaultless j' hj' =>
    intro row response hrow hread
    rw [hj'.operation_eq, if_pos rfl] at hrow
    cases hrow
    exact carriesId_operationAfter (fun _ hresult => requestId_of_extension hresult) hread
  | stranded job a row stored error hbegin h hm hs hp he hfor j' hj' =>
    intro row response hrow hread
    rw [hj'.operation_eq, if_pos rfl] at hrow
    cases hrow
    exact (hnone rfl hread).elim
  | _ => exact hj

/-- Every response stored for a reserve operation in a reachable journal carries its id. -/
lemma carriesId_of_reachable (h : Reachable sha256 j) {k : OperationKey}
    (hk : k.operation = .reserve) : CarriesId j k := by
  obtain ⟨steps, rfl⟩ := h
  refine after_invariant (Step.next sha256) (fun j => CarriesId j k) (fun j step hj => ?_)
    (by simp [CarriesId]) steps
  by_cases hstep : step.operationKey = some k
  · obtain ⟨request, valid, senderUid, oracle, rfl, rfl⟩ := Step.eq_of_operationKey hstep hk
    rcases serve_reserve_cases sha256 j valid senderUid oracle with ⟨-, -, hstate, -⟩ | h
    · rw [Step.next, Step.world, hstate]
      exact hj
    · exact h.carriesId hj
  · rw [CarriesId, step.operation_of_ne hstep]
    exact hj

end Ids

/-- In every reachable journal, the answer to a reserve request carries the id of the request. -/
theorem requestId_of_answer {sha256 : Document → String} {j : Journal}
    (hreachable : Reachable sha256 j) {request : ReserveRequest}
    (valid : (Request.reserve request).Valid) {senderUid : ℤ} {oracle : Oracle}
    {response : ReserveResponse}
    (hresponse : (serve sha256 j (.reserve request) senderUid oracle).1 = .reserve response) :
    response.requestId = request.requestId := by
  have hresult := reserveResult_of_response hresponse
  rcases serve_reserve_cases sha256 j valid senderUid oracle with ⟨failure, herror, -⟩ | h
  · cases herror.symm.trans hresult
  · exact requestId_of_reserves (carriesId_of_reachable hreachable rfl) h hresult

end QfwSlurm
