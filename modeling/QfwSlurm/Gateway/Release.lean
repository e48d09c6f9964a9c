import QfwSlurm.Gateway.Reserve

/-!
# What a release request can do

`_release` and `retry_release` make one pass over the reservation rows of an allocation.  A pass is
a list of `Visit`s, one for each row with a reservation id: the row is left alone when its state is
terminal, and disposed of otherwise (`Disposal`).  `Releases` and `Retries` list the ways in which
the two procedures can end when journal calls succeed, as `Reserves` does for `_reserve`.
-/

namespace QfwSlurm

open Interaction

/-! ### Visits -/

/-- How `_release_one` deals with a row that it does not leave alone. -/
inductive Disposal where
  /-- `resolve` raised. -/
  | unresolved (failure : AdapterFailure)
  /-- The QPM is another incarnation than the one that granted the reservation. -/
  | restarted (qpm : Incarnation)
  /-- `release` raised. -/
  | failed (qpm : Incarnation) (failure : AdapterFailure)
  /-- `release` returned. -/
  | answered (qpm : Incarnation) (reply : ReleaseReply)

namespace Disposal

/-- The outcome and diagnostic `_release_one` journals. -/
def outcome : Disposal → ReleaseOutcome × Option String
  | unresolved failure => (.qpmFailure, some (boundedDiagnostic failure.error.message))
  | restarted _ => (.staleRuntime, some "QPM incarnation differs from reservation journal")
  | failed _ failure => (.qpmFailure, some (boundedDiagnostic failure.error.message))
  | answered _ reply =>
    if reply.confirms then
      (if lower reply.status = "not-found" then .notFound else .released, none)
    else
      (.qpmFailure, some (boundedDiagnostic
        s!"QPM returned release status {reprText (lower reply.status)}"))

/-- The calls to the adapter. -/
def calls (request : ReleaseRequest) (record : ReservationRecord) : Disposal → List Event
  | unresolved failure => [⟨.call (.resolve record.serviceId), .error failure⟩]
  | restarted qpm => [⟨.call (.resolve record.serviceId), .ok qpm⟩]
  | failed qpm failure =>
    [⟨.call (.resolve record.serviceId), .ok qpm⟩,
      ⟨.call (.release (qpm.binding record.serviceId) record.reservationId request.reason),
        .error failure⟩]
  | answered qpm reply =>
    [⟨.call (.resolve record.serviceId), .ok qpm⟩,
      ⟨.call (.release (qpm.binding record.serviceId) record.reservationId request.reason),
        .ok reply⟩]

/-- The incarnation found is the one that granted the reservation, or not. -/
def Sound (record : ReservationRecord) : Disposal → Prop
  | unresolved _ => True
  | restarted qpm => some qpm.runtimeId ≠ record.qpmRuntimeId
  | failed qpm _ | answered qpm _ => some qpm.runtimeId = record.qpmRuntimeId

end Disposal

/-- A row with a reservation id, and how it was disposed of unless it was left alone. -/
structure Visit where
  record : ReservationRecord
  disposal : Option Disposal

namespace Visit

variable (v : Visit)

/-- A row is left alone exactly when its state is terminal. -/
def Sound : Prop :=
  v.record.reservationId ≠ none ∧
  match v.disposal with
  | none => v.record.state.isTerminal = true
  | some disposal => v.record.state.isTerminal = false ∧ disposal.Sound v.record

/-- What `_release_one` returns. -/
def result : ReleaseResult :=
  match v.disposal with
  | none =>
    { serviceId := v.record.serviceId
      reservationId := v.record.reservationId.getD 0
      state := .alreadyTerminal }
  | some disposal =>
    { serviceId := v.record.serviceId
      reservationId := v.record.reservationId.getD 0
      state := disposal.outcome.1.reservationState
      gatewayError := if disposal.outcome.1 = .qpmFailure then some .qpm else none
      diagnostic := disposal.outcome.2 }

/-- The row it writes. -/
def writes : List (String × ReservationRow) :=
  match v.disposal with
  | none => []
  | some disposal =>
    [(v.record.serviceId,
      ({ v.record with state := disposal.outcome.1.journalState } : ReservationRecord).row
        disposal.outcome.2)]

/-- The calls to the adapter. -/
def calls (request : ReleaseRequest) : List Event :=
  v.disposal.elim [] (Disposal.calls request v.record)

end Visit

/-- A pass over the rows of an allocation: one sound visit for each row with a reservation id. -/
def Passes (records : List ReservationRecord) (visits : List Visit) : Prop :=
  visits.map Visit.record = records.filter (·.reservationId ≠ none) ∧ ∀ v ∈ visits, v.Sound

/-! ### Executing a pass -/

section Executing

variable (oracle : Oracle) (request : ReleaseRequest)

/-- The guarded statements of `_release_one`. -/
lemma exec_releaseCall (record : ReservationRecord) (w : GatewayWorld) :
    ∃ d : Disposal, d.Sound record ∧
      Procedure.exec (surroundings oracle noFaults)
        (tryCatch (releaseCall request record) fun error =>
          return (.qpmFailure, some (boundedDiagnostic error.message))) w =
        (.ok d.outcome, ⟨w.state, w.trace ++ d.calls request record⟩) := by
  have hresolve := exec_resolve oracle noFaults w record.serviceId
  unfold releaseCall
  cases hqpm : oracle w.trace.length (.resolve record.serviceId) with
  | error failure =>
    rw [hqpm] at hresolve
    refine ⟨.unresolved failure, trivial, ?_⟩
    rw [Procedure.exec_tryCatch_error (Procedure.exec_bind_error hresolve _)]
    rfl
  | ok qpm =>
    rw [hqpm] at hresolve
    rw [Procedure.exec_tryCatch, Procedure.exec_bind_ok hresolve, Incarnation.binding_runtimeId]
    by_cases hruntime : some qpm.runtimeId = record.qpmRuntimeId
    swap
    · refine ⟨.restarted qpm, hruntime, ?_⟩
      rw [if_pos hruntime]
      rfl
    rw [if_neg (not_not.mpr hruntime)]
    have hrelease := exec_adapterRelease oracle noFaults
      ⟨w.state, w.trace ++ [⟨.call (.resolve record.serviceId), .ok qpm⟩]⟩
      (qpm.binding record.serviceId) record.reservationId request.reason
    revert hrelease
    generalize oracle _ (.release (qpm.binding record.serviceId) record.reservationId
      request.reason) = answer
    intro hrelease
    cases answer with
    | error failure =>
      refine ⟨.failed qpm failure, hruntime, ?_⟩
      rw [Procedure.exec_bind_error hrelease]
      simp [Disposal.outcome, Disposal.calls]
    | ok reply =>
      refine ⟨.answered qpm reply, hruntime, ?_⟩
      rw [Procedure.exec_bind_ok hrelease]
      by_cases hconfirms : reply.confirms
      · rw [if_neg (not_not.mpr hconfirms)]
        simp [Disposal.outcome, Disposal.calls, hconfirms]
      · rw [if_pos hconfirms]
        simp [Disposal.outcome, Disposal.calls, hconfirms]

/-- One row. -/
lemma exec_releaseOne (record : ReservationRecord) (hid : record.reservationId ≠ none)
    (w : GatewayWorld) :
    ∃ v : Visit, v.record = record ∧ v.Sound ∧ ∃ events,
      Procedure.exec (surroundings oracle noFaults) (releaseOne request record) w =
        (.ok v.result, ⟨w.state.writeAll request.key v.writes, w.trace ++ events⟩) ∧
      adapterCalls events = v.calls request := by
  unfold releaseOne
  cases hterminal : record.state.isTerminal with
  | true =>
    refine ⟨⟨record, none⟩, rfl, ⟨hid, hterminal⟩, [], ?_, rfl⟩
    rw [if_pos (.inl rfl)]
    simp [Visit.result, Visit.writes]
  | false =>
    obtain ⟨d, hd, hcall⟩ := exec_releaseCall oracle request record w
    refine ⟨⟨record, some d⟩, rfl, ⟨hid, hterminal, hd⟩,
      d.calls request record ++ [⟨.transaction (.recordReservation request.key
        { record with state := d.outcome.1.journalState } d.outcome.2), .ok ()⟩], ?_, ?_⟩
    · rw [if_neg (by simp [hid]), Procedure.exec_bind_ok hcall]
      have hrecord := exec_transact_noFaults oracle ⟨w.state, w.trace ++ d.calls request record⟩
        (.recordReservation request.key { record with state := d.outcome.1.journalState }
          d.outcome.2)
      rw [Transaction.apply] at hrecord
      rw [Procedure.exec_bind_ok hrecord, Procedure.exec_pure]
      simp [Visit.result, Visit.writes, Journal.recordReservation]
    · rw [adapterCalls_append]
      cases d <;> rfl

/-- A pass over all rows. -/
theorem exec_releaseAll (records : List ReservationRecord) (w : GatewayWorld) :
    ∃ visits : List Visit, Passes records visits ∧ ∃ events,
      Procedure.exec (surroundings oracle noFaults) (releaseAll request records) w =
        (.ok (visits.map Visit.result),
          ⟨w.state.writeAll request.key (visits.flatMap Visit.writes), w.trace ++ events⟩) ∧
      adapterCalls events = visits.flatMap (Visit.calls · request) := by
  induction records generalizing w with
  | nil => exact ⟨[], ⟨rfl, by simp⟩, [], by simp [releaseAll], rfl⟩
  | cons record records ih =>
    rw [releaseAll]
    by_cases hid : record.reservationId = none
    · obtain ⟨visits, hpasses, events, hexec, hcalls⟩ := ih w
      refine ⟨visits, ?_, events, by rw [if_pos hid, hexec], hcalls⟩
      exact ⟨by simpa [hid] using hpasses.1, hpasses.2⟩
    · obtain ⟨v, hrecord, hsound, first, hone, hfirst⟩ :=
        exec_releaseOne oracle request record hid w
      obtain ⟨visits, hpasses, events, hexec, hcalls⟩ :=
        ih ⟨w.state.writeAll request.key v.writes, w.trace ++ first⟩
      refine ⟨v :: visits, ⟨?_, ?_⟩, first ++ events, ?_, ?_⟩
      · simp [hrecord, hid, hpasses.1]
      · simpa using ⟨hsound, hpasses.2⟩
      · rw [if_neg hid, Procedure.exec_bind_ok hone, Procedure.exec_bind_ok hexec]
        simp
      · rw [adapterCalls_append, hfirst, hcalls, List.flatMap_cons]

end Executing

/-! ### The outcomes of the two procedures -/

section Outcomes

variable (sha256 : Document → String) (request : ReleaseRequest) (senderUid : ℤ) (j : Journal)

/-- What a release that is already known answers. -/
inductive ReplaysRelease (row : OperationRow) : Except PyError ReleaseResponse → Prop
  /-- The operation is not complete. -/
  | unfinished (h : row.state ≠ .complete ∨ row.responseJson = none) :
    ReplaysRelease row (.error (journalError "release operation requires recovery"))
  /-- The stored response is not one of a release. -/
  | unreadable (error : PyError) (hstate : row.state = .complete)
      (h : ∀ response, row.responseJson ≠ some (responseToDict (.release response))) :
    ReplaysRelease row (.error error)
  /-- The stored response. -/
  | stored (value : Json) (response : ReleaseResponse) (hstate : row.state = .complete)
      (hvalue : row.responseJson = some value)
      (h : responseFromDict value = .ok (.release response)) :
    ReplaysRelease row (.ok response)

/-- The fingerprint of a release request. -/
abbrev ReleaseRequest.fingerprint : String := sha256 (.release request)

/-- The response of a pass. -/
def ReleaseRequest.response (visits : List Visit) : ReleaseResponse :=
  ⟨request.requestId, visits.map Visit.result⟩

/-- The row of an allocation after a pass. -/
def releasedRow (unresolved : ReservationState → Bool) (row : AllocationRow)
    (response : ReleaseResponse) : AllocationRow :=
  { row with
    state := releasedState unresolved response.results
    responseJson := some (responseToDict (.release response)) }

/-- The ways the body of `_release` can end when journal calls succeed. -/
inductive Releases : Except PyError ReleaseResponse → Journal → List Event → Prop
  /-- The request id was used for another request. -/
  | conflicting (row : OperationRow)
      (hrow : j.operation (request.operationKey senderUid) = some row)
      (hne : row.fingerprint ≠ request.fingerprint sha256) :
    Releases (.error ⟨.requestConflict, "request ID reused with different content"⟩) j []
  /-- The operation is known. -/
  | replayed (row : OperationRow) (result : Except PyError ReleaseResponse)
      (hrow : j.operation (request.operationKey senderUid) = some row)
      (hfingerprint : row.fingerprint = request.fingerprint sha256)
      (hstate : row.state ≠ .retryable) (h : ReplaysRelease row result) :
    Releases result j []
  /-- The verifier refused or failed, after the operation was journalled. -/
  | unverified (failure : VerifierFailure)
      (hbegin : j.MayBegin (request.operationKey senderUid) (request.fingerprint sha256)) :
    Releases (.error failure.error)
      (j.putOperation (request.operationKey senderUid) (begunRow (request.fingerprint sha256))) []
  /-- The allocation is not in the journal. -/
  | unknown (visits : List Visit)
      (hbegin : j.MayBegin (request.operationKey senderUid) (request.fingerprint sha256))
      (hpass : Passes (j.reservations request.key) visits)
      (hallocation : j.allocation request.key = none) (j' : Journal)
      (hj : j' = (j.putOperation (request.operationKey senderUid)
        (begunRow (request.fingerprint sha256))).writeAll request.key
          (visits.flatMap Visit.writes)) :
    Releases (.error (journalError "allocation disappeared before completion")) j'
      (visits.flatMap (Visit.calls · request))
  /-- The pass was journalled. -/
  | released (row : AllocationRow) (visits : List Visit)
      (hbegin : j.MayBegin (request.operationKey senderUid) (request.fingerprint sha256))
      (hpass : Passes (j.reservations request.key) visits)
      (hallocation : j.allocation request.key = some row) (j' : Journal)
      (hj : Updated j (request.operationKey senderUid)
        ⟨request.fingerprint sha256, .complete,
          some (responseToDict (.release (request.response visits)))⟩ request.key
        (releasedRow ReservationState.isUnresolved row (request.response visits))
        (visits.flatMap Visit.writes) j') :
    Releases (.ok (request.response visits)) j' (visits.flatMap (Visit.calls · request))

/-- The ways `retry_release` can end when journal calls succeed. -/
inductive Retries : Except PyError ReleaseResponse → Journal → List Event → Prop
  /-- The allocation is not in the journal. -/
  | unknown (visits : List Visit) (hpass : Passes (j.reservations request.key) visits)
      (hallocation : j.allocation request.key = none) (j' : Journal)
      (hj : j' = j.writeAll request.key (visits.flatMap Visit.writes)) :
    Retries (.error (journalError "allocation disappeared before completion")) j'
      (visits.flatMap (Visit.calls · request))
  /-- The pass was journalled. -/
  | retried (row : AllocationRow) (visits : List Visit)
      (hpass : Passes (j.reservations request.key) visits)
      (hallocation : j.allocation request.key = some row) (j' : Journal)
      (hj : j' = (j.writeAll request.key (visits.flatMap Visit.writes)).putAllocation request.key
        (releasedRow ReservationState.isRetryUnresolved row (request.response visits))) :
    Retries (.ok (request.response visits)) j' (visits.flatMap (Visit.calls · request))

end Outcomes

section Handlers

variable (oracle : Oracle) (sha256 : Document → String) (request : ReleaseRequest)
  (senderUid : ℤ) (w : GatewayWorld)

/-- Completing an allocation without a row fails. -/
lemma exec_completeAllocation_none {key : AllocationKey} (hrow : w.state.allocation key = none)
    (state : AllocationState) (response : Json) :
    Procedure.exec (surroundings oracle noFaults)
      (transact (.completeAllocation key state response)) w =
      (.error (journalError "allocation disappeared before completion"),
        ⟨w.state, w.trace ++ [⟨.transaction (.completeAllocation key state response),
          .error (journalError "allocation disappeared before completion")⟩]⟩) := by
  rw [exec_transact_noFaults, Transaction.apply, Journal.completeAllocation, hrow]
  rfl

/-- Replaying a known release. -/
lemma exec_replayRelease (row : OperationRow) :
    Ends w (surroundings oracle noFaults) (replayRelease ⟨row.state, row.responseJson⟩)
      fun result j' calls => ReplaysRelease row result ∧ j' = w.state ∧ calls = [] := by
  unfold replayRelease
  by_cases hunfinished : row.state ≠ .complete ∨ row.responseJson = none
  · rw [if_pos (by simpa using hunfinished)]
    exact Ends.of_exec (Procedure.exec_bind_error (Procedure.exec_throw _ _ _) _)
      (List.append_nil _).symm ⟨.unfinished hunfinished, rfl, rfl⟩
  · rw [if_neg (by simpa using hunfinished)]
    push Not at hunfinished
    obtain ⟨hstate, hresponse⟩ := hunfinished
    obtain ⟨value, hvalue⟩ := Option.ne_none_iff_exists'.mp hresponse
    have hdecode : Procedure.exec (surroundings oracle noFaults) (decodeStored row.responseJson) w =
        (responseFromDict value, w) := by
      rw [hvalue]
      rfl
    cases hread : responseFromDict value with
    | error error =>
      rw [hread] at hdecode
      refine Ends.of_exec (Procedure.exec_bind_error hdecode _) (List.append_nil _).symm
        ⟨.unreadable error hstate fun response h => ?_, rfl, rfl⟩
      cases hvalue.symm.trans h
      simp at hread
    | ok response =>
      rw [hread] at hdecode
      refine Ends.bind hdecode (List.append_nil _).symm rfl ?_
      cases response with
      | release response =>
        exact Ends.of_exec (Procedure.exec_pure _ _ _) (List.append_nil _).symm
          ⟨.stored value response hstate hvalue hread, rfl, rfl⟩
      | _ =>
        refine Ends.of_exec (Procedure.exec_throw _ _ _) (List.append_nil _).symm
          ⟨.unreadable _ hstate fun response h => ?_, rfl, rfl⟩
        cases hvalue.symm.trans h
        simp at hread

/-- Reading the rows of an allocation. -/
lemma exec_reservations (key : AllocationKey) :
    Procedure.exec (surroundings oracle noFaults) (transact (.reservations key)) w =
      (.ok (w.state.reservations key),
        ⟨w.state, w.trace ++ [⟨.transaction (.reservations key), .ok (w.state.reservations key)⟩]⟩) :=
  exec_transact_noFaults oracle w (.reservations key)

/-- Every run of `retry_release` ends in one of the listed ways. -/
theorem exec_retryRelease :
    Ends w (surroundings oracle noFaults) (retryRelease request) (Retries request w.state) := by
  refine Ends.bind (exec_reservations oracle w request.key) rfl rfl ?_
  obtain ⟨visits, hpass, events, hall, hcalls⟩ := exec_releaseAll oracle request
    (w.state.reservations request.key) ⟨w.state, w.trace ++ [⟨.transaction
      (.reservations request.key), .ok (w.state.reservations request.key)⟩]⟩
  refine Ends.bind_calls hall rfl ?_
  rw [hcalls]
  cases hrow : w.state.allocation request.key with
  | none =>
    refine Ends.of_exec (Procedure.exec_bind_error
      (exec_completeAllocation_none oracle _ (by simpa using hrow) _ _) _) rfl ?_
    rw [show adapterCalls _ = [] from rfl, List.append_nil]
    exact .unknown visits hpass hrow _ rfl
  | some row =>
    refine Ends.bind (exec_completeAllocation oracle _
      (show _ = some row by simpa using hrow) _ _) rfl rfl ?_
    refine Ends.of_exec (Procedure.exec_pure _ _ _) (List.append_nil _).symm ?_
    rw [show adapterCalls [] = [] from rfl, List.append_nil]
    exact .retried row visits hpass hrow _ rfl

/-- What `_release` does once its operation has begun and the request is verified: it raises only
when the allocation is not in the journal. -/
lemma exec_attemptRelease_verified {j : Journal}
    (hbegin : j.MayBegin (request.operationKey senderUid) (request.fingerprint sha256))
    (hw : w.state = j.putOperation (request.operationKey senderUid)
      (begunRow (request.fingerprint sha256))) {job : VerifiedJob}
    (hjob : oracle (w.trace.length + 1) (.verifyRelease request senderUid
      (Option.map AllocationRow.jobUid (w.state.allocation request.key))) = .ok job) :
    Ends w (surroundings oracle noFaults) (attemptRelease request senderUid)
      fun result j' calls => Releases sha256 request senderUid j result j' calls ∧
        ∀ error, result = .error error →
          error = journalError "allocation disappeared before completion" := by
  have hstatus : Procedure.exec (surroundings oracle noFaults)
      (transact (.allocationStatus request.key)) w =
      (.ok (w.state.allocation request.key), ⟨w.state, w.trace ++ [⟨.transaction
        (.allocationStatus request.key), .ok (w.state.allocation request.key)⟩]⟩) :=
    exec_transact_noFaults oracle w (.allocationStatus request.key)
  have hrows : w.state.reservations request.key = j.reservations request.key := by
    rw [hw]
    rfl
  have hallocation : w.state.allocation request.key = j.allocation request.key := by
    rw [hw]
    rfl
  refine Ends.bind hstatus rfl rfl ?_
  have hverify := exec_invoke oracle noFaults
    ⟨w.state, w.trace ++ [⟨.transaction (.allocationStatus request.key),
      .ok (w.state.allocation request.key)⟩]⟩
    (.verifyRelease request senderUid
      (Option.map AllocationRow.jobUid (w.state.allocation request.key)))
    (Except.mapError VerifierFailure.error)
  dsimp only at hverify
  rw [List.length_append, List.length_singleton, hjob] at hverify
  refine Ends.bind hverify rfl rfl ?_
  refine Ends.bind (exec_reservations oracle _ request.key) rfl rfl ?_
  obtain ⟨visits, hpass, events, hall, hcalls⟩ := exec_releaseAll oracle request
    (w.state.reservations request.key) _
  refine Ends.bind_calls hall rfl ?_
  rw [hcalls]
  rw [hrows] at hpass
  cases hrow : j.allocation request.key with
  | none =>
    refine Ends.of_exec (Procedure.exec_bind_error
      (exec_completeAllocation_none oracle _ (by simp [hallocation, hrow]) _ _) _) rfl ?_
    rw [show adapterCalls _ = [] from rfl, List.append_nil]
    exact ⟨.unknown visits hbegin hpass hrow _ (by rw [hw]), fun error h => (Except.error.inj h).symm⟩
  | some row =>
    refine Ends.bind (exec_completeAllocation oracle _
      (show _ = some row by simp [hallocation, hrow]) _ _) rfl rfl ?_
    refine Ends.bind (exec_completeOperation oracle _
      (show _ = some (begunRow (request.fingerprint sha256)) by simp [hw]) _ (by simp)) rfl rfl ?_
    refine Ends.of_exec (Procedure.exec_pure _ _ _) (List.append_nil _).symm ?_
    rw [show adapterCalls [] = [] from rfl, List.append_nil]
    refine ⟨.released row visits hbegin hpass hrow _
      ⟨fun k => ?_, fun k => ?_, fun k s => ?_⟩, fun error h => nomatch h⟩
    · simp only [hw, Journal.operation_putOperation, Journal.operation_putAllocation,
        Journal.operation_writeAll]
      split_ifs <;> rfl
    · simp only [hw, Journal.allocation_putOperation, Journal.allocation_putAllocation,
        Journal.allocation_writeAll]
      rfl
    · simp only [hw, Journal.reservation_putOperation, Journal.reservation_putAllocation,
        Journal.reservation_writeAll]

/-- What `_release` does once its operation has begun. -/
lemma exec_attemptRelease {j : Journal}
    (hbegin : j.MayBegin (request.operationKey senderUid) (request.fingerprint sha256))
    (hw : w.state = j.putOperation (request.operationKey senderUid)
      (begunRow (request.fingerprint sha256))) :
    Ends w (surroundings oracle noFaults) (attemptRelease request senderUid)
      (Releases sha256 request senderUid j) := by
  cases hverdict : oracle (w.trace.length + 1) (.verifyRelease request senderUid
      (Option.map AllocationRow.jobUid (w.state.allocation request.key))) with
  | ok job =>
    exact (exec_attemptRelease_verified oracle sha256 request senderUid w hbegin hw hverdict).mono
      fun result j' calls h => h.1
  | error failure =>
    have hstatus : Procedure.exec (surroundings oracle noFaults)
        (transact (.allocationStatus request.key)) w =
        (.ok (w.state.allocation request.key), ⟨w.state, w.trace ++ [⟨.transaction
          (.allocationStatus request.key), .ok (w.state.allocation request.key)⟩]⟩) :=
      exec_transact_noFaults oracle w (.allocationStatus request.key)
    have hverify := exec_invoke oracle noFaults
      ⟨w.state, w.trace ++ [⟨.transaction (.allocationStatus request.key),
        .ok (w.state.allocation request.key)⟩]⟩
      (.verifyRelease request senderUid
        (Option.map AllocationRow.jobUid (w.state.allocation request.key)))
      (Except.mapError VerifierFailure.error)
    dsimp only at hverify
    rw [List.length_append, List.length_singleton, hverdict] at hverify
    refine Ends.bind hstatus rfl rfl ?_
    refine Ends.of_exec (Procedure.exec_bind_error hverify _) rfl ?_
    rw [hw]
    exact .unverified failure hbegin

/-- A release that may begin and is verified raises only when the allocation is not in the
journal. -/
lemma exec_releaseTry_verified
    (hbegin : w.state.MayBegin (request.operationKey senderUid) (request.fingerprint sha256))
    {job : VerifiedJob}
    (hjob : oracle (w.trace.length + 2) (.verifyRelease request senderUid
      (Option.map AllocationRow.jobUid (w.state.allocation request.key))) = .ok job) :
    Ends w (surroundings oracle noFaults) (releaseTry sha256 request senderUid)
      fun result j' calls => Releases sha256 request senderUid w.state result j' calls ∧
        ∀ error, result = .error error →
          error = journalError "allocation disappeared before completion" := by
  have htransact := exec_transact_noFaults oracle w
    (.beginOperation (request.operationKey senderUid) (request.fingerprint sha256))
  rw [Transaction.apply] at htransact
  unfold releaseTry
  rcases beginOperation_cases (request.operationKey senderUid) (request.fingerprint sha256)
    w.state with ⟨row, hrow, hne, -⟩ | ⟨row, hrow, -, hstate, -⟩ | ⟨hmay, hbegun⟩
  · exact absurd (hbegin row hrow).1 hne
  · exact absurd (hbegin row hrow).2 hstate
  · rw [hbegun] at htransact
    refine Ends.bind htransact rfl rfl ?_
    refine exec_attemptRelease_verified oracle sha256 request senderUid _ hmay rfl
      (show _ = Except.ok job from ?_)
    rw [List.length_append, List.length_singleton]
    exact hjob

/-- Every run of the body of `_release` ends in one of the listed ways. -/
theorem exec_releaseTry :
    Ends w (surroundings oracle noFaults) (releaseTry sha256 request senderUid)
      (Releases sha256 request senderUid w.state) := by
  have htransact := exec_transact_noFaults oracle w
    (.beginOperation (request.operationKey senderUid) (request.fingerprint sha256))
  rw [Transaction.apply] at htransact
  unfold releaseTry
  rcases beginOperation_cases (request.operationKey senderUid) (request.fingerprint sha256)
    w.state with ⟨row, hrow, hne, hbegin⟩ | ⟨row, hrow, heq, hstate, hbegin⟩ | ⟨hmay, hbegin⟩
  · rw [hbegin] at htransact
    exact Ends.of_exec (Procedure.exec_bind_error htransact _) rfl (.conflicting row hrow hne)
  · rw [hbegin] at htransact
    refine Ends.bind htransact rfl rfl ?_
    refine Ends.mono (exec_replayRelease oracle _ row) ?_
    rintro result j' calls ⟨hreplay, rfl, rfl⟩
    exact .replayed row result hrow heq hstate hreplay
  · rw [hbegin] at htransact
    refine Ends.bind htransact rfl rfl ?_
    exact exec_attemptRelease oracle sha256 request senderUid _ hmay rfl

end Handlers

end QfwSlurm
