import QfwSlurm.Gateway.Authorization
import QfwSlurm.Gateway.ReleasePasses

/-!
# Releases that leave nothing unresolved

An answer to a release request in which nothing is unresolved is the answer of a pass over all rows
of the allocation after which the allocation was released and none of its reservations was live.
The pass was made for this request, or for an earlier one with the same content whose answer is
repeated (`exists_clears_of_stores`).
-/

namespace QfwSlurm

open Interaction

/-! ### Passes -/

/-- Nothing in the response is unresolved. -/
def ReleaseResponse.Resolved (response : ReleaseResponse) : Prop :=
  ∀ item ∈ response.results, item.state.isUnresolved = false

/-- A step that releases the allocation: it makes a complete pass in which nothing is unresolved.
After it the allocation is released, and the rows with reservation ids are terminal or name a QPM
that has been restarted. -/
structure Step.Clears (sha256 : Document → String) (key : AllocationKey) (j : Journal)
    (step : Step) : Prop where
  pass : ∃ results, CompletePass key j (step.next sha256 j) (adapterCalls (step.trace sha256 j))
      results ∧ ∀ item ∈ results, item.state.isUnresolved = false
  released : IsReleased key (step.next sha256 j)
  rows : ∀ s row, (step.next sha256 j).reservation key s = some row → row.reservationId ≠ none →
    row.state.isTerminal = true ∨ row.state = .staleRuntime

/-- What a result that is not unresolved leaves of its row. -/
lemma ReservationState.Leaves.cleared {state : ReservationState} {row row' : ReservationRow}
    (h : state.Leaves row row') (hresolved : state.isUnresolved = false) :
    row'.state.isTerminal = true ∨ row'.state = .staleRuntime := by
  cases state with
  | released | notFound =>
    refine .inl ?_
    rw [show row'.state = .released from h]
    rfl
  | alreadyTerminal =>
    obtain ⟨rfl, hterminal⟩ := h
    exact .inl hterminal
  | staleRuntime => exact .inr h
  | authorizationFailure | qpmFailure | gatewayFailure => cases hresolved

section Passes

variable {j j' : Journal} {key : AllocationKey} {visits : List Visit}

/-- A pass in which nothing is unresolved leaves no live row. -/
lemma Passes.cleared (h : Passes (j.reservations key) visits)
    (hresolved : ∀ v ∈ visits, v.result.state.isUnresolved = false)
    (hj' : ∀ s, j'.reservation key s =
      (written (visits.flatMap Visit.writes) s).or (j.reservation key s)) :
    ∀ s row, j'.reservation key s = some row → row.reservationId ≠ none →
      row.state.isTerminal = true ∨ row.state = .staleRuntime := by
  intro s row hrow hid
  rw [hj'] at hrow
  rcases h.cases s with ⟨hnone, hw⟩ | ⟨r, hr, hnone, hw⟩ | ⟨r, hr, -, v, hv, hrecord, hsound, hw⟩
  · rw [hw, hnone] at hrow
    cases hrow
  · rw [hw, hr] at hrow
    obtain rfl := Option.some.inj hrow
    exact absurd hnone hid
  · have hleft : (v.disposal.map r.disposed).getD r = row := by
      rw [hw, hr] at hrow
      cases hd : v.disposal <;> rw [hd] at hrow <;> exact Option.some.inj hrow
    have hleaves : v.result.state.Leaves r ((v.disposal.map r.disposed).getD r) := by
      apply hsound.leaves
      rw [hrecord]
      rfl
    rw [hleft] at hleaves
    exact hleaves.cleared (hresolved v hv)

end Passes

/-! ### Answers -/

section Answers

variable {sha256 : Document → String} {j : Journal} {request : ReleaseRequest} {senderUid : ℤ}
  {oracle : Oracle} {response : ReleaseResponse}

lemma releases_releaseResult (sha256 : Document → String) (j : Journal) (request : ReleaseRequest)
    (senderUid : ℤ) (oracle : Oracle) :
    Releases sha256 request senderUid j (releaseResult sha256 j request senderUid oracle)
      (serve sha256 j (.release request) senderUid oracle).2.state
      (adapterCalls (serve sha256 j (.release request) senderUid oracle).2.trace) := by
  rw [serve, handle, release, run_answer]
  exact (exec_releaseTry oracle sha256 request senderUid ⟨j, []⟩).of_nil

/-- No failure of a release is a release response. -/
lemma releaseError_ne_release (requestId : ℤ) (error : PyError) :
    releaseError requestId error ≠ .release response := by
  unfold releaseError
  split
  · simp [errorResponse]
  · simp [errorResponse]
  · split_ifs <;> simp [errorResponse]

/-- The response to a release request is a `ReleaseResponse` when `_release` returned one. -/
lemma releaseResult_of_response
    (h : (serve sha256 j (.release request) senderUid oracle).1 = .release response) :
    releaseResult sha256 j request senderUid oracle = .ok response := by
  rw [serve, handle, release, run_answer, ← releaseResult] at h
  cases hresult : releaseResult sha256 j request senderUid oracle with
  | error error =>
    rw [hresult] at h
    exact absurd h (releaseError_ne_release request.requestId error)
  | ok found =>
    rw [hresult] at h
    rw [Response.release.inj h]

/-- The operation is complete, and this response is stored. -/
structure Stores (sha256 : Document → String) (request : ReleaseRequest)
    (response : ReleaseResponse) (row : OperationRow) : Prop where
  fingerprint : row.fingerprint = request.fingerprint sha256
  state : row.state = .complete
  response : ∃ value, row.responseJson = some value ∧
    responseFromDict value = .ok (.release response)

/-- A pass that was journalled, and left nothing unresolved. -/
lemma clears_of_released {valid : (Request.release request).Valid} {row : AllocationRow}
    {visits : List Visit} (hpass : Passes (j.reservations request.key) visits)
    (hcalls : adapterCalls (serve sha256 j (.release request) senderUid oracle).2.trace =
      visits.flatMap (Visit.calls · request))
    (hj : Updated j (request.operationKey senderUid)
      ⟨request.fingerprint sha256, .complete,
        some (responseToDict (.release (request.response visits)))⟩ request.key
      (releasedRow ReservationState.isUnresolved row (request.response visits))
      (visits.flatMap Visit.writes) (serve sha256 j (.release request) senderUid oracle).2.state)
    (hresolved : (request.response visits).Resolved) :
    (Step.handle (.release request) valid senderUid oracle).Clears sha256 request.key j := by
  have hrows (s : String) :
      (serve sha256 j (.release request) senderUid oracle).2.state.reservation request.key s =
        (written (visits.flatMap Visit.writes) s).or (j.reservation request.key s) := by
    rw [hj.reservation_eq, if_pos rfl]
  refine ⟨⟨visits.map Visit.result, ?_, hresolved⟩, ?_, ?_⟩
  · have hcomplete := hpass.complete request hrows
    rw [← hcalls] at hcomplete
    exact hcomplete
  · refine ⟨releasedRow ReservationState.isUnresolved row (request.response visits), ?_, ?_⟩
    · rw [Step.next, Step.world, hj.allocation_eq, if_pos rfl]
    · apply if_neg
      intro hany
      obtain ⟨item, hitem, hunresolved⟩ := List.any_eq_true.mp hany
      cases (hresolved item hitem).symm.trans hunresolved
  · exact hpass.cleared (fun v hv => hresolved _ (List.mem_map_of_mem hv)) hrows

/-- An answer in which nothing is unresolved is that of a pass made now, or it is repeated. -/
lemma clears_or_stores (valid : (Request.release request).Valid)
    (h : (serve sha256 j (.release request) senderUid oracle).1 = .release response)
    (hresolved : response.Resolved) :
    (Step.handle (.release request) valid senderUid oracle).Clears sha256 request.key j ∨
      ∃ row, j.operation (request.operationKey senderUid) = some row ∧
        Stores sha256 request response row := by
  have hreleases := releases_releaseResult sha256 j request senderUid oracle
  rw [releaseResult_of_response h] at hreleases
  generalize hstate : (serve sha256 j (.release request) senderUid oracle).2.state = j' at hreleases
  generalize hcalls : adapterCalls (serve sha256 j (.release request) senderUid oracle).2.trace =
    calls at hreleases
  cases hreleases with
  | replayed row result hrow hfingerprint hretryable hreplays =>
    cases hreplays with
    | stored value _ hcomplete hvalue hread =>
      exact .inr ⟨row, hrow, hfingerprint, hcomplete, value, hvalue, hread⟩
  | released row visits hbegin hpass hallocation _ hj =>
    exact .inl (clears_of_released hpass hcalls (hstate ▸ hj) hresolved)

end Answers

/-! ### Runs -/

section Runs

variable {sha256 : Document → String} {request : ReleaseRequest}

/-- The only steps that write the row of a release operation are release requests. -/
lemma Step.eq_of_releaseKey {step : Step} {k : OperationKey}
    (hstep : step.operationKey = some k) (hk : k.operation = .release) :
    ∃ request valid senderUid oracle, step = .handle (.release request) valid senderUid oracle ∧
      request.operationKey senderUid = k := by
  cases step with
  | handle request valid senderUid oracle =>
    cases request with
    | release request => exact ⟨request, valid, senderUid, oracle, rfl, Option.some.inj hstep⟩
    | evaluate request | reserve request =>
      cases hstep
      cases hk
    | getReservations request => cases hstep
  | retry request oracle => cases hstep

/-- The digest tells the request from every other release request of the step. -/
def Step.ReleasesApart (sha256 : Document → String) (request : ReleaseRequest) : Step → Prop
  | .handle (.release other) _ _ _ =>
    sha256 (.release other) = sha256 (.release request) → other = request
  | _ => True

/-- A step that leaves a stored answer to the request behind found it there, or made the pass that
it is about. -/
lemma Step.stores_or_clears {j : Journal} {step : Step} {senderUid : ℤ} {row : OperationRow}
    {response : ReleaseResponse} (hapart : step.ReleasesApart sha256 request)
    (hrow : (step.next sha256 j).operation (request.operationKey senderUid) = some row)
    (hstores : Stores sha256 request response row) (hresolved : response.Resolved) :
    j.operation (request.operationKey senderUid) = some row ∨ step.Clears sha256 request.key j := by
  by_cases hwritten : step.operationKey = some (request.operationKey senderUid)
  swap
  · rw [step.operation_of_ne hwritten] at hrow
    exact .inl hrow
  obtain ⟨other, valid, uid, oracle, rfl, hkey⟩ := Step.eq_of_releaseKey hwritten rfl
  rw [← hkey] at hrow ⊢
  rw [Step.next, Step.world] at hrow
  have hreleases := releases_releaseResult sha256 j other uid oracle
  generalize hstate : (serve sha256 j (.release other) uid oracle).2.state = j' at hreleases hrow
  generalize hcalls : adapterCalls (serve sha256 j (.release other) uid oracle).2.trace = calls
    at hreleases
  generalize releaseResult sha256 j other uid oracle = result at hreleases
  cases hreleases with
  | conflicting known hknown hne => exact .inl hrow
  | replayed known result hknown hfingerprint hretryable hreplays => exact .inl hrow
  | unverified failure hbegin =>
    rw [Journal.operation_putOperation, if_pos rfl] at hrow
    rw [← Option.some.inj hrow] at hstores
    cases hstores.state
  | unknown visits hbegin hpass hallocation _ hj =>
    rw [hj, Journal.operation_writeAll, Journal.operation_putOperation, if_pos rfl] at hrow
    rw [← Option.some.inj hrow] at hstores
    cases hstores.state
  | released allocation visits hbegin hpass hallocation _ hj =>
    rw [hj.operation_eq, if_pos rfl] at hrow
    rw [← Option.some.inj hrow] at hstores
    obtain rfl := hapart hstores.fingerprint
    obtain ⟨value, hvalue, hread⟩ := hstores.response
    rw [← Option.some.inj hvalue, responseFromDict_toDict] at hread
    obtain rfl := Response.release.inj (Except.ok.inj hread)
    exact .inr (clears_of_released hpass hcalls (hstate ▸ hj) hresolved)

/-- An answer that is stored in a run, and in which nothing is unresolved, is that of a pass made in
the run. -/
lemma exists_clears_of_stores {steps : List Step} {senderUid : ℤ} {row : OperationRow}
    {response : ReleaseResponse} (hapart : ∀ step ∈ steps, step.ReleasesApart sha256 request)
    (hrow : (journalAfter sha256 Journal.empty steps).operation (request.operationKey senderUid) =
      some row)
    (hstores : Stores sha256 request response row) (hresolved : response.Resolved) :
    ∃ before step later, steps = before ++ step :: later ∧
      step.Clears sha256 request.key (journalAfter sha256 Journal.empty before) := by
  have hmeets := Meets.of_mem (Step.next sha256) hapart Journal.empty
  rcases exists_step_of_after (Step.next sha256)
    (fun j => j.operation (request.operationKey senderUid) = some row) _
    (fun j step hstep hnext => Step.stores_or_clears hstep hnext hstores hresolved) hmeets hrow with
    hstart | hclears
  · cases hstart
  · exact hclears

end Runs

end QfwSlurm
