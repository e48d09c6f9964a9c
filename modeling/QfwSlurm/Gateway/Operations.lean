import QfwSlurm.Gateway.Outcomes

/-!
# The operation table

A step writes the row of its own operation and no other.  What it leaves there is read off the ways
a handler can end; `Recorded` says what the row of a reserve operation holds in every reachable
journal.

An operation that is left `started` is never begun again.  One way to get there is an incomplete
rollback, which `incomplete_of_reserves` traces to the attempt that raised it.
-/

namespace QfwSlurm

open Interaction

/-! ### The operation of a step -/

/-- The operation a step may journal. -/
def Step.operationKey : Step → Option OperationKey
  | .handle (.evaluate request) _ senderUid _ =>
    some (request.toReserveRequest.operationKey .evaluate senderUid)
  | .handle (.reserve request) _ senderUid _ => some (request.reserveKey senderUid)
  | .handle (.release request) _ senderUid _ => some (request.operationKey senderUid)
  | _ => none

section Frames

variable {sha256 : Document → String} {j j' : Journal} {calls : List Event} {k : OperationKey}

/-- A reserve request writes the row of its own operation. -/
lemma Reserves.operation_of_ne {request : ReserveRequest} {senderUid : ℤ}
    {result : Except PyError ReserveResponse}
    (h : Reserves sha256 request senderUid j result j' calls) (hk : k ≠ request.reserveKey senderUid) :
    j'.operation k = j.operation k := by
  have hput (j : Journal) (row : OperationRow) :
      (j.putOperation (request.reserveKey senderUid) row).operation k = j.operation k := by
    rw [Journal.operation_putOperation, if_neg hk]
  cases h with
  | refused error hbegin h => exact hput _ _
  | reused row stored response hbegin hplan h => exact (hput _ _).trans (hput _ _)
  | misread row stored error hbegin hplan h herror => exact hput _ _
  | attempted job a hbegin h hfor hfaultless j' hj => rw [hj.operation_eq, if_neg hk]
  | extended job a row stored previous hbegin h hm hp hfor hfaultless j' hj =>
    rw [hj.operation_eq, if_neg hk]
  | stranded job a row stored error hbegin h hm hs hp he hfor j' hj =>
    rw [hj.operation_eq, if_neg hk]
  | _ => rfl

/-- An evaluation writes the row of its own operation. -/
lemma Evaluates.operation_of_ne {request : ReserveRequest} {senderUid : ℤ}
    {result : Except PyError EvaluateResponse}
    (h : Evaluates sha256 request senderUid j result j' calls)
    (hk : k ≠ request.operationKey .evaluate senderUid) : j'.operation k = j.operation k := by
  cases h with
  | idle => rfl
  | evaluated calls hbegin hcalls =>
    rw [Journal.operation_putOperation, if_neg hk, Journal.operation_putOperation, if_neg hk]

/-- A release request writes the row of its own operation. -/
lemma Releases.operation_of_ne {request : ReleaseRequest} {senderUid : ℤ}
    {result : Except PyError ReleaseResponse}
    (h : Releases sha256 request senderUid j result j' calls)
    (hk : k ≠ request.operationKey senderUid) : j'.operation k = j.operation k := by
  cases h with
  | unverified failure hbegin => rw [Journal.operation_putOperation, if_neg hk]
  | unknown visits hbegin hpass hallocation j' hj =>
    rw [hj, Journal.operation_writeAll, Journal.operation_putOperation, if_neg hk]
  | released row visits hbegin hpass hallocation j' hj => rw [hj.operation_eq, if_neg hk]
  | _ => rfl

/-- A `retry_release` writes no operation. -/
lemma Retries.operation_eq {request : ReleaseRequest} {result : Except PyError ReleaseResponse}
    (h : Retries request j result j' calls) : j'.operation k = j.operation k := by
  cases h with
  | unknown visits hpass hallocation j' hj => rw [hj, Journal.operation_writeAll]
  | retried row visits hpass hallocation j' hj =>
    rw [hj, Journal.operation_putAllocation, Journal.operation_writeAll]

/-- A step writes the row of its own operation. -/
theorem Step.operation_of_ne (step : Step) (hk : step.operationKey ≠ some k) :
    (step.next sha256 j).operation k = j.operation k := by
  cases step with
  | handle request valid senderUid oracle =>
    cases request with
    | evaluate request =>
      obtain ⟨result, h⟩ := evaluates_serve sha256 j request senderUid oracle
      exact h.operation_of_ne fun h => hk (congrArg some h.symm)
    | reserve request =>
      rcases serve_reserve_cases sha256 j valid senderUid oracle with ⟨-, -, hstate, -⟩ | h
      · rw [Step.next, Step.world, hstate]
      · exact h.operation_of_ne fun h => hk (congrArg some h.symm)
    | release request =>
      obtain ⟨result, h⟩ := releases_serve sha256 j request senderUid oracle
      exact h.operation_of_ne fun h => hk (congrArg some h.symm)
    | getReservations request =>
      have h := (lookup_serve sha256 j request senderUid oracle).1
      rw [Step.next, Step.world, h]
  | retry request oracle =>
    obtain ⟨result, h⟩ := retries_step sha256 j request oracle
    exact h.operation_eq

/-- The only steps that write the row of a reserve operation are reserve requests. -/
lemma Step.eq_of_operationKey {step : Step} (hstep : step.operationKey = some k)
    (hk : k.operation = .reserve) : ∃ request valid senderUid oracle,
      step = .handle (.reserve request) valid senderUid oracle ∧ request.reserveKey senderUid = k := by
  cases step with
  | handle request valid senderUid oracle =>
    cases request with
    | evaluate request =>
      cases hstep
      cases hk
    | reserve request => exact ⟨request, valid, senderUid, oracle, rfl, Option.some.inj hstep⟩
    | release request =>
      cases hstep
      cases hk
    | getReservations request => cases hstep
  | retry request oracle => cases hstep

end Frames

/-! ### The rows of reserve operations -/

/-- What the row of a reserve operation holds. -/
def OperationRow.Recorded (row : OperationRow) : Prop :=
  match row.state with
  | .started => row.responseJson = none
  | .complete => ∃ response : ReserveResponse,
    row.responseJson = some (responseToDict (.reserve response))
  | .retryable => ∃ response : Response, row.responseJson = some (responseToDict response)

/-- An attempt leaves such a row. -/
lemma recorded_operationAfter (sha256 : Document → String) (request : ReserveRequest)
    (result : Except PyError ReserveResponse) :
    (operationAfter sha256 request result).Recorded := by
  cases result with
  | ok response =>
    by_cases hd : response.decision = .delayed
    · simp only [OperationRow.Recorded, operationAfter, operationOutcome, hd, if_true]
      exact ⟨_, rfl⟩
    · simp only [OperationRow.Recorded, operationAfter, operationOutcome, hd, if_false]
      exact ⟨_, rfl⟩
  | error error =>
    by_cases hclass : error.errorClass = .rollbackIncomplete
    · simp [OperationRow.Recorded, operationAfter, operationOutcome, hclass]
    · simp only [OperationRow.Recorded, operationAfter, operationOutcome, hclass, if_false]
      exact ⟨_, rfl⟩

section Recorded

variable {sha256 : Document → String} {j j' : Journal} {calls : List Event} {k : OperationKey}

/-- The row a reserve request leaves for its operation: none of its own, or one that begins, reuses
an outcome or follows from an attempt. -/
lemma Reserves.recorded {request : ReserveRequest} {senderUid : ℤ}
    {result : Except PyError ReserveResponse}
    (h : Reserves sha256 request senderUid j result j' calls)
    (hj : ∀ row, j.operation (request.reserveKey senderUid) = some row → row.Recorded) :
    ∀ row, j'.operation (request.reserveKey senderUid) = some row → row.Recorded := by
  cases h with
  | refused error hbegin h =>
    intro row hrow
    rw [ReserveRequest.begun, Journal.operation_putOperation_self] at hrow
    cases hrow
    rfl
  | reused row stored response hbegin hplan h =>
    intro row hrow
    rw [Journal.operation_putOperation_self] at hrow
    cases hrow
    exact ⟨_, rfl⟩
  | misread row stored error hbegin hplan h herror =>
    intro row hrow
    rw [ReserveRequest.begun, Journal.operation_putOperation_self] at hrow
    cases hrow
    rfl
  | attempted job a hbegin h hfor hfaultless j' hj' =>
    intro row hrow
    rw [hj'.operation_eq, if_pos rfl] at hrow
    cases hrow
    exact recorded_operationAfter sha256 request _
  | extended job a row stored previous hbegin h hm hp hfor hfaultless j' hj' =>
    intro row hrow
    rw [hj'.operation_eq, if_pos rfl] at hrow
    cases hrow
    exact recorded_operationAfter sha256 request _
  | stranded job a row stored error hbegin h hm hs hp he hfor j' hj' =>
    intro row hrow
    rw [hj'.operation_eq, if_pos rfl] at hrow
    cases hrow
    rfl
  | _ => exact hj

/-- Every reserve operation of a reachable journal is recorded. -/
theorem recorded_of_reachable (h : Reachable sha256 j) (hk : k.operation = .reserve)
    {row : OperationRow} (hrow : j.operation k = some row) : row.Recorded := by
  obtain ⟨steps, rfl⟩ := h
  refine after_invariant (Step.next sha256)
    (fun j => ∀ row, j.operation k = some row → row.Recorded) (fun j step hj => ?_)
    (by simp) steps row hrow
  by_cases hstep : step.operationKey = some k
  · obtain ⟨request, valid, senderUid, oracle, rfl, rfl⟩ := Step.eq_of_operationKey hstep hk
    rcases serve_reserve_cases sha256 j valid senderUid oracle with ⟨-, -, hstate, -⟩ | h
    · rw [Step.next, Step.world, hstate]
      exact hj
    · exact h.recorded hj
  · rw [step.operation_of_ne hstep]
    exact hj

/-- A reserve request does nothing to an operation that may not begin. -/
lemma Reserves.eq_of_not_mayBegin {request : ReserveRequest} {senderUid : ℤ}
    {result : Except PyError ReserveResponse}
    (h : Reserves sha256 request senderUid j result j' calls)
    (hnot : ¬ j.MayBegin (request.reserveKey senderUid) (request.fingerprint sha256)) :
    j' = j ∧ calls = [] := by
  cases h with
  | conflicting row hrow hne => exact ⟨rfl, rfl⟩
  | replayed row result hrow hfingerprint hstate h => exact ⟨rfl, rfl⟩
  | refused error hbegin h => exact absurd hbegin hnot
  | reused row stored response hbegin hplan h => exact absurd hbegin hnot
  | misread row stored error hbegin hplan h herror => exact absurd hbegin hnot
  | attempted job a hbegin h hfor hfaultless j' hj => exact absurd hbegin hnot
  | extended job a row stored previous hbegin h hm hp hfor hfaultless j' hj =>
    exact absurd hbegin hnot
  | stranded job a row stored error hbegin h hm hs hp he hfor j' hj => exact absurd hbegin hnot

/-- A request whose operation may not begin is answered from the operation's row. -/
lemma Reserves.replays_of_row {request : ReserveRequest} {senderUid : ℤ} {row : OperationRow}
    (hrow : j.operation (request.reserveKey senderUid) = some row)
    (hfingerprint : row.fingerprint = request.fingerprint sha256) (hstate : row.state ≠ .retryable)
    {result : Except PyError ReserveResponse}
    (h : Reserves sha256 request senderUid j result j' calls) :
    j' = j ∧ calls = [] ∧ Replays request j row result := by
  have hnot : ¬ j.MayBegin (request.reserveKey senderUid) (request.fingerprint sha256) :=
    fun hmay => hstate (hmay row hrow).2
  obtain ⟨hj, hcalls⟩ := h.eq_of_not_mayBegin hnot
  refine ⟨hj, hcalls, ?_⟩
  cases h with
  | conflicting other hother hne =>
    cases hrow.symm.trans hother
    exact absurd hfingerprint hne
  | replayed other result hother hfingerprint hstate h =>
    cases hrow.symm.trans hother
    exact h
  | refused error hbegin h => exact absurd hbegin hnot
  | reused row stored response hbegin hplan h => exact absurd hbegin hnot
  | misread row stored error hbegin hplan h herror => exact absurd hbegin hnot
  | attempted job a hbegin h hfor hfaultless j' hj => exact absurd hbegin hnot
  | extended job a row stored previous hbegin h hm hp hfor hfaultless j' hj =>
    exact absurd hbegin hnot
  | stranded job a row stored error hbegin h hm hs hp he hfor j' hj => exact absurd hbegin hnot

/-- A rejection is the stored outcome of its operation. -/
lemma Reserves.complete_of_rejected {request : ReserveRequest} {senderUid : ℤ}
    (hsettled : ∀ row, j.allocation request.key = some row → row.Settled)
    {result : Except PyError ReserveResponse}
    (h : Reserves sha256 request senderUid j result j' calls) {response : ReserveResponse}
    (hresult : result = .ok response) (hdecision : response.decision = .rejected) :
    ∃ row, j'.operation (request.reserveKey senderUid) = some row ∧
      row.fingerprint = request.fingerprint sha256 ∧ row.state = .complete ∧
      storedReserve row.responseJson = some response := by
  have hafter : (operationAfter sha256 request (.ok response)).state = .complete ∧
      storedReserve (operationAfter sha256 request (.ok response)).responseJson =
        some response := by
    simp [operationAfter, operationOutcome, hdecision]
  cases h with
  | conflicting row hrow hne => cases hresult
  | replayed row result hrow hfingerprint hstate h =>
    cases h with
    | settled stored hcomplete hread hd =>
      cases hresult
      exact ⟨row, hrow, hfingerprint, hcomplete, hread⟩
    | gone stored hcomplete hread hd hallocation =>
      cases hresult
      cases hd.symm.trans hdecision
    | current stored now value hcomplete hread hd hallocation hnow =>
      -- the response of an accepted allocation is accepted
      cases hresult
      obtain ⟨allocation, hallocationRow, haccepted, hvalue, -⟩ := accepted_of_some hallocation
      have hsettledRow := hsettled allocation hallocationRow
      simp only [AllocationRow.Settled, haccepted] at hsettledRow
      obtain ⟨accepted, hacceptedDecision, hstored⟩ := hsettledRow
      rw [← hvalue, hstored, storedReserve_reserve] at hnow
      cases hnow
      cases hacceptedDecision.symm.trans hdecision
    | _ => cases hresult
  | refused error hbegin h => cases hresult
  | reused row stored answer hbegin hplan h =>
    cases hresult
    exact ⟨_, Journal.operation_putOperation_self .., rfl, rfl, storedReserve_reserve _⟩
  | misread row stored error hbegin hplan h herror => cases hresult
  | attempted job a hbegin h hfor hfaultless j' hj =>
    rw [hresult] at hj
    exact ⟨_, by rw [hj.operation_eq, if_pos rfl], rfl, hafter⟩
  | extended job a row stored previous hbegin h hm hp hfor hfaultless j' hj =>
    rw [hresult] at hj
    exact ⟨_, by rw [hj.operation_eq, if_pos rfl], rfl, hafter⟩
  | stranded job a row stored error hbegin h hm hs hp he hfor j' hj => cases hresult

/-- A completed operation that was not accepted is answered with its stored response. -/
lemma Replays.eq_of_complete {request : ReserveRequest} {row : OperationRow}
    {response : ReserveResponse} (hcomplete : row.state = .complete)
    (hread : storedReserve row.responseJson = some response)
    (hdecision : response.decision ≠ .accepted) {result : Except PyError ReserveResponse}
    (h : Replays request j row result) : result = .ok response := by
  cases h with
  | unfinished hunfinished =>
    rcases hunfinished with hstate | hnone
    · exact absurd hcomplete hstate
    · rw [hnone] at hread
      cases hread
  | unreadable error hstate hnone herror => cases hread.symm.trans hnone
  | settled other hstate hother hd => rw [Option.some.inj (hother.symm.trans hread)]
  | denied other error hstate hother hd hallocation =>
    cases hread.symm.trans hother
    exact absurd hd hdecision
  | gone other hstate hother hd hallocation =>
    cases hread.symm.trans hother
    exact absurd hd hdecision
  | current other now stored hstate hother hd hallocation hnow =>
    cases hread.symm.trans hother
    exact absurd hd hdecision
  | garbled other stored error hstate hother hd hallocation hnow herror =>
    cases hread.symm.trans hother
    exact absurd hd hdecision

/-- A started operation may not begin. -/
lemma not_mayBegin_of_started {fingerprint : String} {row : OperationRow}
    (hrow : j.operation k = some row) (hstarted : row.state = .started) :
    ¬ j.MayBegin k fingerprint := by
  intro hmay
  have hretryable := (hmay row hrow).2
  rw [hstarted] at hretryable
  cases hretryable

/-- A reserve operation that was left started keeps its row. -/
lemma Step.operation_of_started (step : Step) (hk : k.operation = .reserve) {row : OperationRow}
    (hrow : j.operation k = some row) (hstarted : row.state = .started) :
    (step.next sha256 j).operation k = some row := by
  by_cases hstep : step.operationKey = some k
  swap
  · rw [step.operation_of_ne hstep, hrow]
  obtain ⟨request, valid, senderUid, oracle, rfl, rfl⟩ := Step.eq_of_operationKey hstep hk
  rw [Step.next, Step.world]
  rcases serve_reserve_cases sha256 j valid senderUid oracle with ⟨-, -, hstate, -⟩ | h
  · rw [hstate, hrow]
  · rw [(h.eq_of_not_mayBegin (not_mayBegin_of_started hrow hstarted)).1, hrow]

end Recorded

/-! ### Incomplete rollbacks -/

/-- The handling of a reserve request ended with `RollbackIncomplete`. -/
def EndsIncomplete (sha256 : Document → String) (j : Journal) (request : ReserveRequest)
    (senderUid : ℤ) (oracle : Oracle) : Prop :=
  ∃ error, reserveResult sha256 j request senderUid oracle = .error error ∧
    error.errorClass = .rollbackIncomplete

section Incomplete

variable {sha256 : Document → String} {j j' : Journal} {request : ReserveRequest} {senderUid : ℤ}
  {calls : List Event}

/-- A stored response of an accepted allocation is one of a reserve. -/
lemma storedReserve_of_settled {row : AllocationRow} (hrow : row.Settled)
    (hstate : row.state = .accepted ∨ row.state = .rejected) :
    storedReserve row.responseJson ≠ none := by
  rcases hstate with hstate | hstate <;> simp only [AllocationRow.Settled, hstate] at hrow <;>
    obtain ⟨response, -, hresponse⟩ := hrow <;> simp [hresponse]

/-- A replay does not raise `RollbackIncomplete`. -/
lemma Replays.errorClass_ne {row : OperationRow} (hrow : row.Recorded)
    (hsettled : ∀ row, j.allocation request.key = some row → row.Settled)
    {result : Except PyError ReserveResponse} (h : Replays request j row result) {error : PyError}
    (herror : result = .error error) : error.errorClass ≠ .rollbackIncomplete := by
  cases h with
  | unfinished h =>
    cases herror
    simp [journalError]
  | unreadable failure hstate h hfailure =>
    simp only [OperationRow.Recorded, hstate] at hrow
    obtain ⟨response, hresponse⟩ := hrow
    rw [hresponse, storedReserve_reserve] at h
    cases h
  | denied response failure hstate h hdecision hallocation =>
    cases herror
    unfold Journal.acceptedAllocation at hallocation
    cases hallocationRow : j.allocation request.key with
    | none => simp [hallocationRow] at hallocation
    | some allocation =>
      simp only [hallocationRow] at hallocation
      split_ifs at hallocation <;> cases hallocation <;> simp
  | garbled response stored failure hstate h hdecision hallocation hnow hfailure =>
    obtain ⟨allocation, hallocation, hstate, hstored, -⟩ := accepted_of_some hallocation
    refine absurd ?_ (storedReserve_of_settled (hsettled allocation hallocation) (.inl hstate))
    rw [hstored, hnow]
  | settled response hstate h hdecision => cases herror
  | gone response hstate h hdecision hallocation => cases herror
  | current response now stored hstate h hdecision hallocation hnow => cases herror

/-- What an incomplete rollback leaves: a started operation, and an allocation that is rolling back
or, after an extension, accepted as it was. -/
lemma incomplete_of_reserves
    (hrecorded : ∀ row, j.operation (request.reserveKey senderUid) = some row → row.Recorded)
    (hsettled : ∀ row, j.allocation request.key = some row → row.Settled)
    {result : Except PyError ReserveResponse}
    (h : Reserves sha256 request senderUid j result j' calls) {error : PyError}
    (hresult : result = .error error) (hclass : error.errorClass = .rollbackIncomplete) :
    j.MayBegin (request.reserveKey senderUid) (request.fingerprint sha256) ∧
    j'.operation (request.reserveKey senderUid) = some (begunRow (request.fingerprint sha256)) ∧
    ((Restarts sha256 request j ∧
      ∃ row, j'.allocation request.key = some row ∧ row.state = .rollingBack) ∨
    ∃ row stored, Extends sha256 request j row stored ∧ request.missing row ≠ [] ∧
      j'.allocation request.key = some { request.extendedRow sha256 row with
        serviceSet := sorted row.serviceSet
        state := .accepted
        responseJson := some stored }) := by
  cases h with
  | conflicting row hrow hne =>
    cases hresult
    cases hclass
  | replayed row result hrow hfingerprint hstate h =>
    exact absurd hclass (h.errorClass_ne (hrecorded row hrow) hsettled hresult)
  | refused failure hbegin h =>
    cases hresult
    rcases (refusal_of_beginAllocation h).errorClass with hfailure | hfailure <;>
      rw [hclass] at hfailure <;> cases hfailure
  | reused row stored response hbegin hplan h => cases hresult
  | misread row stored failure hbegin hplan h hfailure =>
    cases hresult
    rcases hplan with ⟨hextends, -⟩ | hrecalls
    · refine absurd ?_ (storedReserve_of_settled (hsettled row hextends.allocation_eq)
        (.inl hextends.state_eq))
      rw [hextends.response_eq, h]
    · rcases hrecalls.state_eq with hstate | hstate
      · refine absurd ?_ (storedReserve_of_settled (hsettled row hrecalls.allocation_eq)
          (.inr hstate))
        rw [hrecalls.response_eq, h]
      · have hrow := hsettled row hrecalls.allocation_eq
        simp only [AllocationRow.Settled, hstate] at hrow
        obtain ⟨response, hresponse⟩ := hrow
        rw [hfailure _ (hrecalls.response_eq.symm.trans hresponse)] at hclass
        cases hclass
  | attempted job a hbegin hrestart hfor hfaultless j' hj =>
    rw [hresult] at hj
    have hoperation := hj.operation_eq (request.reserveKey senderUid)
    have hallocation := hj.allocation_eq request.key
    rw [if_pos rfl] at hoperation hallocation
    refine ⟨hbegin, ?_, .inl ⟨hrestart, _, hallocation, ?_⟩⟩
    · rw [hoperation]
      simp [operationAfter, operationOutcome, hclass, begunRow]
    · simp [allocationAfter, allocationOutcome, hclass]
  | extended job a row stored previous hbegin hextends hmissing hprevious hfor hfaultless j' hj =>
    rw [hresult] at hj
    have hoperation := hj.operation_eq (request.reserveKey senderUid)
    have hallocation := hj.allocation_eq request.key
    rw [if_pos rfl] at hoperation hallocation
    refine ⟨hbegin, ?_, .inr ⟨row, stored, hextends, hmissing, hallocation⟩⟩
    rw [hoperation]
    simp [operationAfter, operationOutcome, hclass, begunRow]
  | stranded job a row stored failure hbegin hextends hmissing hstop hprevious hfailure hfor j' hj =>
    refine absurd ?_ (storedReserve_of_settled (hsettled row hextends.allocation_eq)
      (.inl hextends.state_eq))
    rw [hextends.response_eq, hprevious]

/-- The same, of the handling of a request. -/
theorem EndsIncomplete.cases {oracle : Oracle}
    (h : EndsIncomplete sha256 j request senderUid oracle) (hreachable : Reachable sha256 j)
    (valid : (Request.reserve request).Valid) :
    j.MayBegin (request.reserveKey senderUid) (request.fingerprint sha256) ∧
    (serve sha256 j (.reserve request) senderUid oracle).2.state.operation
      (request.reserveKey senderUid) = some (begunRow (request.fingerprint sha256)) ∧
    ((Restarts sha256 request j ∧
      ∃ row, (serve sha256 j (.reserve request) senderUid oracle).2.state.allocation request.key =
        some row ∧ row.state = .rollingBack) ∨
    ∃ row stored, Extends sha256 request j row stored ∧ request.missing row ≠ [] ∧
      (serve sha256 j (.reserve request) senderUid oracle).2.state.allocation request.key =
        some { request.extendedRow sha256 row with
          serviceSet := sorted row.serviceSet
          state := .accepted
          responseJson := some stored }) := by
  obtain ⟨error, hresult, hclass⟩ := h
  rcases serve_reserve_cases sha256 j valid senderUid oracle with ⟨failure, hfailure, -⟩ | hreserves
  · cases hfailure.symm.trans hresult
    cases failure <;> cases hclass
  · exact incomplete_of_reserves (fun row hrow => recorded_of_reachable hreachable rfl hrow)
      (fun row hrow => settled_of_reachable hreachable hrow) hreserves hresult hclass

end Incomplete

end QfwSlurm
