import QfwSlurm.Gateway.Attempt

/-!
# What a reserve request can do

`Reserves` lists the ways in which the body of `_reserve` can end when journal calls succeed: what
it returns or raises, the journal it leaves, and its calls to the adapter.  `exec_reserveTry` shows
that every run of the code ends in one of these ways.  The invariants of later modules are derived
from this list and never unfold the handler again.

A journal is described by its rows (`Updated`): the handler writes some rows several times, and only
the last write counts.
-/

namespace QfwSlurm

open Interaction

/-! ### Stored responses -/

/-- The `ReserveResponse` that a stored response is read as, if it is one. -/
def storedReserve (stored : Option Json) : Option ReserveResponse :=
  stored.bind fun value =>
    match responseFromDict value with
    | .ok response => response.asReserve
    | .error _ => none

@[simp] lemma storedReserve_reserve (response : ReserveResponse) :
    storedReserve (some (responseToDict (.reserve response))) = some response := by
  simp [storedReserve, Response.asReserve]

@[simp] lemma storedReserve_error (response : ErrorResponse) :
    storedReserve (some (responseToDict (.error response))) = none := by
  simp [storedReserve, Response.asReserve]

@[simp] lemma storedReserve_release (response : ReleaseResponse) :
    storedReserve (some (responseToDict (.release response))) = none := by
  simp [storedReserve, Response.asReserve]

/-- Decoding a stored response asks nothing; a stored response of another class is refused. -/
lemma exec_decodeReserve (E : Environment Journal Query Answer) (stored : Option Json)
    (wrongType : String) (w : GatewayWorld) :
    (∃ response, storedReserve stored = some response ∧
      Procedure.exec E (decodeReserve stored wrongType) w = (.ok response, w)) ∨
    (storedReserve stored = none ∧ ∃ error : PyError,
      (∀ response, stored = some (responseToDict response) → error = journalError wrongType) ∧
      Procedure.exec E (decodeReserve stored wrongType) w = (.error error, w)) := by
  rw [decodeReserve, Procedure.exec_bind]
  cases stored with
  | none => exact .inr ⟨rfl, _, fun _ h => (nomatch h), rfl⟩
  | some value =>
    rw [decodeStored, Procedure.exec_mk, Program.run_pure]
    cases hread : responseFromDict value with
    | error error =>
      refine .inr ⟨by simp [storedReserve, hread], error, ?_, rfl⟩
      rintro response ⟨⟩
      simp at hread
    | ok response =>
      cases hreserve : response.asReserve with
      | some reserve =>
        refine .inl ⟨reserve, by simp [storedReserve, hread, hreserve], ?_⟩
        simp [hreserve]
      | none =>
        refine .inr ⟨by simp [storedReserve, hread, hreserve], _, fun _ _ => rfl, ?_⟩
        simp [hreserve]

/-! ### Journals with some rows changed -/

/-- The journal `j'` is `j` with the rows of one operation and one allocation replaced and some
reservation rows of that allocation written. -/
structure Updated (j : Journal) (operationKey : OperationKey) (operation : OperationRow)
    (key : AllocationKey) (allocation : AllocationRow) (writes : List (String × ReservationRow))
    (j' : Journal) : Prop where
  operation_eq : ∀ k, j'.operation k = if k = operationKey then some operation else j.operation k
  allocation_eq : ∀ k, j'.allocation k = if k = key then some allocation else j.allocation k
  reservation_eq : ∀ k s, j'.reservation k s =
    if k = key then (written writes s).or (j.reservation k s) else j.reservation k s

/-- Rows that are replaced anyway do not matter. -/
lemma Updated.of_put {j : Journal} {operationKey : OperationKey} {operation begun : OperationRow}
    {key : AllocationKey} {allocation planned : AllocationRow}
    {writes : List (String × ReservationRow)} {j' : Journal}
    (h : Updated ((j.putAllocation key planned).putOperation operationKey begun) operationKey
      operation key allocation writes j') :
    Updated j operationKey operation key allocation writes j' := by
  refine ⟨fun k => ?_, fun k => ?_, fun k s => ?_⟩
  · rw [h.operation_eq, Journal.operation_putOperation]
    split_ifs <;> rfl
  · rw [h.allocation_eq, Journal.allocation_putOperation, Journal.allocation_putAllocation]
    split_ifs <;> rfl
  · rw [h.reservation_eq]
    rfl

/-! ### Beginning an operation -/

/-- The row of an operation that was just begun. -/
def begunRow (fingerprint : String) : OperationRow := ⟨fingerprint, .started, none⟩

/-- The operation is new, or it is the same one and may be repeated. -/
def Journal.MayBegin (j : Journal) (key : OperationKey) (fingerprint : String) : Prop :=
  ∀ row, j.operation key = some row → row.fingerprint = fingerprint ∧ row.state = .retryable

/-- The three outcomes of `begin_operation`. -/
lemma beginOperation_cases (key : OperationKey) (fingerprint : String) (j : Journal) :
    (∃ row, j.operation key = some row ∧ row.fingerprint ≠ fingerprint ∧
      j.beginOperation key fingerprint =
        .error ⟨.requestConflict, "request ID reused with different content"⟩) ∨
    (∃ row, j.operation key = some row ∧ row.fingerprint = fingerprint ∧ row.state ≠ .retryable ∧
      j.beginOperation key fingerprint = .ok (some ⟨row.state, row.responseJson⟩, j)) ∨
    (j.MayBegin key fingerprint ∧
      j.beginOperation key fingerprint = .ok (none, j.putOperation key (begunRow fingerprint))) := by
  unfold Journal.beginOperation
  cases hrow : j.operation key with
  | none => exact .inr (.inr ⟨fun row h => (nomatch hrow ▸ h), rfl⟩)
  | some row =>
    by_cases hfingerprint : row.fingerprint = fingerprint
    · by_cases hstate : row.state = .retryable
      · refine .inr (.inr ⟨?_, ?_⟩)
        · rintro other hother
          cases hrow.symm.trans hother
          exact ⟨hfingerprint, hstate⟩
        · simp [hfingerprint, hstate, begunRow]
      · exact .inr (.inl ⟨row, rfl, hfingerprint, hstate, by simp [hfingerprint, hstate]⟩)
    · exact .inl ⟨row, rfl, hfingerprint, by simp [hfingerprint]⟩

/-- Completing an operation that has a row replaces its state and response. -/
lemma completeOperation_eq {key : OperationKey} {row : OperationRow} {j : Journal}
    (hrow : j.operation key = some row) (response : Json) {state : OperationState}
    (hstate : state ≠ .started) :
    j.completeOperation key response state =
      .ok ((), j.putOperation key { row with state := state, responseJson := some response }) := by
  simp [Journal.completeOperation, hstate, hrow]

/-! ### Beginning an allocation -/

section Plans

variable (sha256 : Document → String) (request : ReserveRequest) (j : Journal)

/-- The row of an allocation whose reservation starts. -/
def ReserveRequest.freshRow : AllocationRow :=
  ⟨request.jobUid, request.jobGid, sorted request.serviceIds, sha256 (allocationDocument request),
    .reserving, none⟩

/-- The requested services that an accepted row lacks. -/
abbrev ReserveRequest.missing (row : AllocationRow) : List String :=
  (sorted request.serviceIds).filter (· ∉ row.serviceSet)

/-- The row of an accepted allocation that is being extended. -/
def ReserveRequest.extendedRow (row : AllocationRow) : AllocationRow :=
  { row with
    serviceSet := sorted (row.serviceSet ++ request.missing row).dedup
    requestFingerprint := sha256 (allocationDocument request)
    state := .extending }

/-- `begin_allocation` may start the allocation's reservation. -/
def Restarts : Prop :=
  ∀ row, j.allocation request.key = some row →
    (row.jobUid = request.jobUid ∧ row.jobGid = request.jobGid) ∧
    (row.state = .delayed ∨ row.state = .rolledBack ∨
      (row.state = .rejected ∨ row.state = .releaseIncomplete ∨
        row.state = .accepted ∧ row.responseJson = none) ∧
      row.requestFingerprint ≠ sha256 (allocationDocument request))

/-- The allocation is accepted for the same job, with a stored response, and the reservations that
are requested again were made for the same workload. -/
structure Extends (row : AllocationRow) (response : Json) : Prop where
  allocation_eq : j.allocation request.key = some row
  identity : row.jobUid = request.jobUid ∧ row.jobGid = request.jobGid
  state_eq : row.state = .accepted
  response_eq : row.responseJson = some response
  checked : j.checkAcceptedServices request.key (sha256 (reservationDocument request))
    ((sorted request.serviceIds).filter (· ∈ row.serviceSet)) = .ok ()

/-- The allocation has an outcome of the same content that is not an accepted one. -/
structure Recalls (row : AllocationRow) (response : Json) : Prop where
  allocation_eq : j.allocation request.key = some row
  identity : row.jobUid = request.jobUid ∧ row.jobGid = request.jobGid
  state_eq : row.state = .rejected ∨ row.state = .releaseIncomplete
  fingerprint_eq : row.requestFingerprint = sha256 (allocationDocument request)
  response_eq : row.responseJson = some response

/-- The plans `begin_allocation` can return, with the journal it leaves. -/
inductive Plans : AllocationPlan → Journal → Prop
  | fresh (h : Restarts sha256 request j) :
    Plans ⟨none, [], sorted request.serviceIds⟩
      (j.putAllocation request.key (request.freshRow sha256))
  | covered (row : AllocationRow) (response : Json) (h : Extends sha256 request j row response)
      (hcovered : request.missing row = []) :
    Plans ⟨some response, row.serviceSet, []⟩ j
  | extended (row : AllocationRow) (response : Json) (h : Extends sha256 request j row response)
      (hmissing : request.missing row ≠ []) :
    Plans ⟨some response, row.serviceSet,
        request.missing row⟩
      (j.putAllocation request.key (request.extendedRow sha256 row))
  | recalled (row : AllocationRow) (response : Json) (h : Recalls sha256 request j row response) :
    Plans ⟨some response, [], []⟩ j

/-- The transaction `_reserve` begins an allocation with. -/
def ReserveRequest.beginAllocation : Except PyError (AllocationPlan × Journal) :=
  j.beginAllocation request.key request.jobUid request.jobGid request.serviceIds
    (sha256 (allocationDocument request)) (sha256 (reservationDocument request))

variable {sha256 request j}

/-- The extension branch of `begin_allocation`. -/
lemma planExtension_eq (row : AllocationRow) (response : Json) :
    j.planExtension request.key (sorted request.serviceIds) (sha256 (allocationDocument request))
        (sha256 (reservationDocument request)) row response =
      match j.checkAcceptedServices request.key (sha256 (reservationDocument request))
          ((sorted request.serviceIds).filter (· ∈ row.serviceSet)) with
      | .error error => .error error
      | .ok () =>
        if request.missing row = [] then
          .ok (⟨some response, row.serviceSet, []⟩, j)
        else
          .ok (⟨some response, row.serviceSet,
              request.missing row⟩,
            j.putAllocation request.key (request.extendedRow sha256 row)) := by
  unfold Journal.planExtension
  dsimp only
  cases j.checkAcceptedServices request.key (sha256 (reservationDocument request))
    ((sorted request.serviceIds).filter (· ∈ row.serviceSet)) with
  | error error => rfl
  | ok u =>
    simp only [bind, Except.bind]
    split_ifs <;> rfl

/-- Restarting a row of the same job gives the row of a new allocation. -/
lemma restart_eq {row : AllocationRow}
    (hidentity : row.jobUid = request.jobUid ∧ row.jobGid = request.jobGid) :
    row.restart (sorted request.serviceIds) (sha256 (allocationDocument request)) =
      request.freshRow sha256 := by
  rw [AllocationRow.restart, ReserveRequest.freshRow, hidentity.1, hidentity.2]

/-- `begin_allocation` without a row. -/
lemma beginAllocation_none (hrow : j.allocation request.key = none) :
    request.beginAllocation sha256 j =
      .ok (⟨none, [], sorted request.serviceIds⟩,
        j.putAllocation request.key (request.freshRow sha256)) := by
  rw [ReserveRequest.beginAllocation, Journal.beginAllocation, hrow]
  rfl

section Row

variable {row : AllocationRow} (hrow : j.allocation request.key = some row)

include hrow

/-- `begin_allocation` for another job. -/
lemma beginAllocation_identity
    (hidentity : ¬ (row.jobUid = request.jobUid ∧ row.jobGid = request.jobGid)) :
    request.beginAllocation sha256 j =
      .error ⟨.requestConflict, "allocation identity changed"⟩ := by
  simp only [ReserveRequest.beginAllocation, Journal.beginAllocation, hrow]
  rw [if_pos hidentity]

variable (hidentity : row.jobUid = request.jobUid ∧ row.jobGid = request.jobGid)

include hidentity

/-- `begin_allocation` on an accepted allocation. -/
lemma beginAllocation_accepted {response : Json} (hstate : row.state = .accepted)
    (hresponse : row.responseJson = some response) :
    request.beginAllocation sha256 j =
      j.planExtension request.key (sorted request.serviceIds) (sha256 (allocationDocument request))
        (sha256 (reservationDocument request)) row response := by
  simp only [ReserveRequest.beginAllocation, Journal.beginAllocation, hrow, hstate, hresponse]
  rw [if_neg (not_not.mpr hidentity)]

/-- `begin_allocation` on an allocation that may be tried again. -/
lemma beginAllocation_restart (hstate : row.state = .delayed ∨ row.state = .rolledBack) :
    request.beginAllocation sha256 j =
      .ok (⟨none, [], sorted request.serviceIds⟩,
        j.putAllocation request.key (request.freshRow sha256)) := by
  simp only [ReserveRequest.beginAllocation, Journal.beginAllocation, hrow]
  rw [if_neg (not_not.mpr hidentity), restart_eq hidentity]
  rcases hstate with hstate | hstate <;> rw [hstate]

/-- `begin_allocation` on an allocation whose transaction is not finished. -/
lemma beginAllocation_busy (hstate : row.state = .reserving ∨ row.state = .rollingBack ∨
    row.state = .extending) :
    request.beginAllocation sha256 j =
      .error ⟨.journalError, "allocation has an incomplete transaction"⟩ := by
  simp only [ReserveRequest.beginAllocation, Journal.beginAllocation, hrow]
  rw [if_neg (not_not.mpr hidentity)]
  rcases hstate with hstate | hstate | hstate <;> rw [hstate]

/-- `begin_allocation` on a released allocation. -/
lemma beginAllocation_released (hstate : row.state = .released) :
    request.beginAllocation sha256 j =
      .error ⟨.requestConflict, "allocation was already released"⟩ := by
  simp only [ReserveRequest.beginAllocation, Journal.beginAllocation, hrow]
  rw [if_neg (not_not.mpr hidentity), hstate]

/-- `begin_allocation` on an allocation with an outcome that is not an accepted one. -/
lemma beginAllocation_other (hstate : row.state = .rejected ∨ row.state = .releaseIncomplete ∨
    row.state = .accepted ∧ row.responseJson = none) :
    request.beginAllocation sha256 j =
      if row.requestFingerprint ≠ sha256 (allocationDocument request) then
        .ok (⟨none, [], sorted request.serviceIds⟩,
          j.putAllocation request.key (request.freshRow sha256))
      else
        match row.responseJson with
        | none => .error ⟨.journalError, "allocation has no durable outcome"⟩
        | some response => .ok (⟨some response, [], []⟩, j) := by
  simp only [ReserveRequest.beginAllocation, Journal.beginAllocation, hrow]
  rw [if_neg (not_not.mpr hidentity), restart_eq hidentity]
  rcases hstate with hstate | hstate | ⟨hstate, hresponse⟩
  · cases row.responseJson <;> rw [hstate]
  · cases row.responseJson <;> rw [hstate]
  · rw [hstate, hresponse]

end Row

/-- The workload check does not read the operations. -/
@[simp] lemma checkAcceptedServices_putOperation (key : OperationKey) (row : OperationRow)
    (k : AllocationKey) (fingerprint : String) (serviceIds : List String) :
    (j.putOperation key row).checkAcceptedServices k fingerprint serviceIds =
      j.checkAcceptedServices k fingerprint serviceIds := by
  induction serviceIds with
  | nil => rfl
  | cons serviceId rest ih =>
    simp only [Journal.checkAcceptedServices, Journal.reservation_putOperation, ih]

/-- `begin_allocation` does not read the operations. -/
lemma beginAllocation_putOperation (key : OperationKey) (row : OperationRow) :
    request.beginAllocation sha256 (j.putOperation key row) =
      (request.beginAllocation sha256 j).map fun planned =>
        (planned.1, planned.2.putOperation key row) := by
  unfold ReserveRequest.beginAllocation Journal.beginAllocation
  simp only [Journal.allocation_putOperation]
  cases j.allocation request.key with
  | none => rfl
  | some allocation =>
    by_cases hidentity : allocation.jobUid = request.jobUid ∧ allocation.jobGid = request.jobGid
    · simp only [hidentity, and_self, not_true_eq_false, if_false]
      cases hresponse : allocation.responseJson with
      | none =>
        cases allocation.state <;> dsimp only <;> first | rfl | (split_ifs <;> rfl)
      | some response =>
        cases allocation.state <;> dsimp only
        case accepted =>
          rw [planExtension_eq, planExtension_eq, checkAcceptedServices_putOperation]
          split
          · rfl
          · split_ifs <;> rfl
        all_goals first | rfl | (split_ifs <;> rfl)
    · simp only [hidentity, not_false_eq_true, if_true]
      rfl

/-- Every plan of `begin_allocation` is one of the four. -/
lemma plans_of_beginAllocation {plan : AllocationPlan} {j' : Journal}
    (h : request.beginAllocation sha256 j = .ok (plan, j')) : Plans sha256 request j plan j' := by
  cases hrow : j.allocation request.key with
  | none =>
    rw [beginAllocation_none hrow] at h
    cases h
    exact .fresh fun row hr => (nomatch hrow.symm.trans hr)
  | some row =>
    by_cases hidentity : row.jobUid = request.jobUid ∧ row.jobGid = request.jobGid
    swap
    · rw [beginAllocation_identity hrow hidentity] at h
      cases h
    have hrestart (hstate : row.state = .delayed ∨ row.state = .rolledBack ∨
        (row.state = .rejected ∨ row.state = .releaseIncomplete ∨
          row.state = .accepted ∧ row.responseJson = none) ∧
        row.requestFingerprint ≠ sha256 (allocationDocument request)) :
        Restarts sha256 request j := by
      rintro other hother
      cases hrow.symm.trans hother
      exact ⟨hidentity, hstate⟩
    have hagain (hstate : row.state = .delayed ∨ row.state = .rolledBack) :
        Plans sha256 request j plan j' := by
      rw [beginAllocation_restart hrow hidentity hstate] at h
      cases h
      exact .fresh (hrestart (hstate.imp_right .inl))
    have hbusy (hstate : row.state = .reserving ∨ row.state = .rollingBack ∨
        row.state = .extending) : Plans sha256 request j plan j' := by
      rw [beginAllocation_busy hrow hidentity hstate] at h
      cases h
    have hother (hstate : row.state = .rejected ∨ row.state = .releaseIncomplete ∨
        row.state = .accepted ∧ row.responseJson = none) : Plans sha256 request j plan j' := by
      rw [beginAllocation_other hrow hidentity hstate] at h
      split_ifs at h with hfingerprint
      · cases h
        exact .fresh (hrestart (.inr (.inr ⟨hstate, hfingerprint⟩)))
      · cases hresponse : row.responseJson with
        | none => simp [hresponse] at h
        | some response =>
          simp only [hresponse, Except.ok.injEq, Prod.mk.injEq] at h
          obtain ⟨rfl, rfl⟩ := h
          refine .recalled row response ⟨hrow, hidentity, ?_, not_not.mp hfingerprint, hresponse⟩
          exact hstate.imp_right fun hs => hs.resolve_right fun hs => nomatch hresponse ▸ hs.2
    cases hstate : row.state with
    | accepted =>
      cases hresponse : row.responseJson with
      | none => exact hother (.inr (.inr ⟨hstate, hresponse⟩))
      | some response =>
        rw [beginAllocation_accepted hrow hidentity hstate hresponse, planExtension_eq] at h
        split at h
        · cases h
        · next hchecked =>
          have hextends : Extends sha256 request j row response :=
            ⟨hrow, hidentity, hstate, hresponse, hchecked⟩
          split_ifs at h with hmissing
          · cases h
            exact .covered row response hextends hmissing
          · cases h
            exact .extended row response hextends hmissing
    | delayed => exact hagain (.inl hstate)
    | rolledBack => exact hagain (.inr hstate)
    | reserving => exact hbusy (.inl hstate)
    | rollingBack => exact hbusy (.inr (.inl hstate))
    | extending => exact hbusy (.inr (.inr hstate))
    | released =>
      rw [beginAllocation_released hrow hidentity hstate] at h
      cases h
    | rejected => exact hother (.inl hstate)
    | releaseIncomplete => exact hother (.inr (.inl hstate))

/-- `begin_allocation` returns every plan that is possible. -/
lemma beginAllocation_of_plans {plan : AllocationPlan} {j' : Journal}
    (h : Plans sha256 request j plan j') : request.beginAllocation sha256 j = .ok (plan, j') := by
  cases h with
  | fresh h =>
    cases hrow : j.allocation request.key with
    | none => exact beginAllocation_none hrow
    | some row =>
      obtain ⟨hidentity, hstate | hstate | ⟨hstate, hfingerprint⟩⟩ := h row hrow
      · exact beginAllocation_restart hrow hidentity (.inl hstate)
      · exact beginAllocation_restart hrow hidentity (.inr hstate)
      · rw [beginAllocation_other hrow hidentity hstate, if_pos hfingerprint]
  | covered row response h hcovered =>
    rw [beginAllocation_accepted h.allocation_eq h.identity h.state_eq h.response_eq,
      planExtension_eq, h.checked]
    exact if_pos hcovered
  | extended row response h hmissing =>
    rw [beginAllocation_accepted h.allocation_eq h.identity h.state_eq h.response_eq,
      planExtension_eq, h.checked]
    exact if_neg hmissing
  | recalled row response h =>
    rw [beginAllocation_other h.allocation_eq h.identity (h.state_eq.imp_right .inl),
      if_neg (not_not.mpr h.fingerprint_eq), h.response_eq]

/-- The exceptions of `begin_allocation`. -/
inductive BeginRefusal : PyError → Prop
  | identity : BeginRefusal ⟨.requestConflict, "allocation identity changed"⟩
  | unrecorded : BeginRefusal ⟨.journalError, "accepted allocation lacks reservation state"⟩
  | changed (serviceId : String) :
    BeginRefusal ⟨.requestConflict, s!"accepted workload changed for {reprText serviceId}"⟩
  | busy : BeginRefusal ⟨.journalError, "allocation has an incomplete transaction"⟩
  | released : BeginRefusal ⟨.requestConflict, "allocation was already released"⟩
  | undecided : BeginRefusal ⟨.journalError, "allocation has no durable outcome"⟩

/-- A refusal is a conflict or a journal error. -/
lemma BeginRefusal.errorClass {error : PyError} (h : BeginRefusal error) :
    error.errorClass = .requestConflict ∨ error.errorClass = .journalError := by
  cases h
  case identity | changed | released => exact .inl rfl
  case unrecorded | busy | undecided => exact .inr rfl

lemma refusal_of_checkAcceptedServices {key : AllocationKey} {fingerprint : String}
    {serviceIds : List String} {error : PyError}
    (h : j.checkAcceptedServices key fingerprint serviceIds = .error error) : BeginRefusal error := by
  induction serviceIds with
  | nil => cases h
  | cons serviceId rest ih =>
    rw [Journal.checkAcceptedServices] at h
    split at h
    · cases h
      exact .unrecorded
    · split_ifs at h
      · cases h
        exact .unrecorded
      · cases h
        exact .changed serviceId
      · exact ih h

/-- What `begin_allocation` raises is one of the listed exceptions. -/
lemma refusal_of_beginAllocation {error : PyError}
    (h : request.beginAllocation sha256 j = .error error) : BeginRefusal error := by
  cases hrow : j.allocation request.key with
  | none =>
    rw [beginAllocation_none hrow] at h
    cases h
  | some row =>
    by_cases hidentity : row.jobUid = request.jobUid ∧ row.jobGid = request.jobGid
    swap
    · rw [beginAllocation_identity hrow hidentity] at h
      cases h
      exact .identity
    have hother (hstate : row.state = .rejected ∨ row.state = .releaseIncomplete ∨
        row.state = .accepted ∧ row.responseJson = none) : BeginRefusal error := by
      rw [beginAllocation_other hrow hidentity hstate] at h
      split_ifs at h
      cases hresponse : row.responseJson with
      | none =>
        simp only [hresponse, Except.error.injEq] at h
        exact h ▸ .undecided
      | some response => simp [hresponse] at h
    cases hstate : row.state with
    | accepted =>
      cases hresponse : row.responseJson with
      | none => exact hother (.inr (.inr ⟨hstate, hresponse⟩))
      | some response =>
        rw [beginAllocation_accepted hrow hidentity hstate hresponse, planExtension_eq] at h
        split at h
        · next hchecked =>
          cases h
          exact refusal_of_checkAcceptedServices hchecked
        · split_ifs at h
    | delayed => simp [beginAllocation_restart hrow hidentity (.inl hstate)] at h
    | rolledBack => simp [beginAllocation_restart hrow hidentity (.inr hstate)] at h
    | reserving =>
      rw [beginAllocation_busy hrow hidentity (.inl hstate)] at h
      cases h
      exact .busy
    | rollingBack =>
      rw [beginAllocation_busy hrow hidentity (.inr (.inl hstate))] at h
      cases h
      exact .busy
    | extending =>
      rw [beginAllocation_busy hrow hidentity (.inr (.inr hstate))] at h
      cases h
      exact .busy
    | released =>
      rw [beginAllocation_released hrow hidentity hstate] at h
      cases h
      exact .released
    | rejected => exact hother (.inl hstate)
    | releaseIncomplete => exact hother (.inr (.inl hstate))

end Plans

/-! ### The outcomes of the handler -/

section Outcomes

variable (sha256 : Document → String) (request : ReserveRequest) (senderUid : ℤ) (j : Journal)

/-- What an operation that is already known answers. -/
inductive Replays (row : OperationRow) : Except PyError ReserveResponse → Prop
  /-- The operation is not complete. -/
  | unfinished (h : row.state ≠ .complete ∨ row.responseJson = none) :
    Replays row (.error (journalError "reserve operation requires recovery"))
  /-- The stored response is not one of a reserve. -/
  | unreadable (error : PyError) (hstate : row.state = .complete)
      (h : storedReserve row.responseJson = none)
      (herror : ∀ response, row.responseJson = some (responseToDict response) →
        error = journalError "stored reserve response has wrong type") :
    Replays row (.error error)
  /-- The stored response was not accepted. -/
  | settled (response : ReserveResponse) (hstate : row.state = .complete)
      (h : storedReserve row.responseJson = some response)
      (hdecision : response.decision ≠ .accepted) :
    Replays row (.ok response)
  /-- The allocation is now another job's, or lacks a requested service. -/
  | denied (response : ReserveResponse) (error : PyError) (hstate : row.state = .complete)
      (h : storedReserve row.responseJson = some response)
      (hdecision : response.decision = .accepted)
      (hallocation : j.acceptedAllocation request.key request.jobUid request.jobGid
        request.serviceIds = .error error) :
    Replays row (.error error)
  /-- The allocation is not accepted now. -/
  | gone (response : ReserveResponse) (hstate : row.state = .complete)
      (h : storedReserve row.responseJson = some response)
      (hdecision : response.decision = .accepted)
      (hallocation : j.acceptedAllocation request.key request.jobUid request.jobGid
        request.serviceIds = .ok none) :
    Replays row (.ok response)
  /-- The allocation is accepted, and answers with its current set. -/
  | current (response now : ReserveResponse) (stored : Json) (hstate : row.state = .complete)
      (h : storedReserve row.responseJson = some response)
      (hdecision : response.decision = .accepted)
      (hallocation : j.acceptedAllocation request.key request.jobUid request.jobGid
        request.serviceIds = .ok (some stored))
      (hnow : storedReserve (some stored) = some now) :
    Replays row (.ok { now with requestId := request.requestId })
  /-- The allocation is accepted with a stored response that is not one of a reserve. -/
  | garbled (response : ReserveResponse) (stored : Json) (error : PyError)
      (hstate : row.state = .complete) (h : storedReserve row.responseJson = some response)
      (hdecision : response.decision = .accepted)
      (hallocation : j.acceptedAllocation request.key request.jobUid request.jobGid
        request.serviceIds = .ok (some stored))
      (hnow : storedReserve (some stored) = none)
      (herror : ∀ response, some stored = some (responseToDict response) →
        error = journalError "stored allocation response has wrong type") :
    Replays row (.error error)

/-- The stored form of a failed attempt. -/
def failureJson (error : PyError) : Json :=
  responseToDict (operationError "reserve" request.requestId error)

/-- The state and response of an operation after an attempt that ended with `result`. -/
def operationOutcome : Except PyError ReserveResponse → OperationState × Option Json
  | .ok response =>
    (if response.decision = .delayed then .retryable else .complete,
      some (responseToDict (.reserve response)))
  | .error error =>
    if error.errorClass = .rollbackIncomplete then (.started, none)
    else (.retryable, some (failureJson request error))

/-- The row of an operation after an attempt that ended with `result`. -/
def operationAfter (result : Except PyError ReserveResponse) : OperationRow :=
  ⟨sha256 (.request request), (operationOutcome request result).1,
    (operationOutcome request result).2⟩

/-- The state and response of an allocation after a first attempt that ended with `result`. -/
def allocationOutcome : Except PyError ReserveResponse → AllocationState × Option Json
  | .ok response =>
    (decisionState response.decision, some (responseToDict (.reserve response)))
  | .error error =>
    if error.errorClass = .rollbackIncomplete then (.rollingBack, none)
    else (.rolledBack, some (failureJson request error))

/-- The row of an allocation after a first attempt that ended with `result`. -/
def allocationAfter (result : Except PyError ReserveResponse) : AllocationRow :=
  { request.freshRow sha256 with
    state := (allocationOutcome request result).1
    responseJson := (allocationOutcome request result).2 }

/-- What an extension of a set with the response `previous` ends with, from what its attempt
returned. -/
def extensionResult (previous : ReserveResponse) :
    Except PyError ReserveResponse → Except PyError ReserveResponse
  | .ok response =>
    if response.decision = .accepted then .ok (mergeExtension request previous response)
    else .ok response
  | .error error => .error error

/-- The row of an accepted allocation after an extension that ended with `result`: the combined set
when the extension was accepted, else the set there was. -/
def extensionAfter (row : AllocationRow) (stored : Json) :
    Except PyError ReserveResponse → AllocationRow
  | .ok response =>
    if response.decision = .accepted then
      { request.extendedRow sha256 row with
        state := .accepted
        responseJson := some (responseToDict (.reserve response)) }
    else
      { request.extendedRow sha256 row with
        serviceSet := sorted row.serviceSet
        state := .accepted
        responseJson := some stored }
  | .error _ =>
    { request.extendedRow sha256 row with
      serviceSet := sorted row.serviceSet
      state := .accepted
      responseJson := some stored }

/-- The operation of a reserve request. -/
abbrev ReserveRequest.reserveKey : OperationKey := request.operationKey .reserve senderUid

/-- The fingerprint of a request. -/
abbrev ReserveRequest.fingerprint : String := sha256 (.request request)

/-- The fingerprint of a request's reservation rows. -/
abbrev ReserveRequest.reservationFingerprint : String := sha256 (reservationDocument request)

/-- The journal once the operation of a reserve request has begun. -/
def ReserveRequest.begun : Journal :=
  j.putOperation (request.reserveKey senderUid) (begunRow (request.fingerprint sha256))

/-- The ways the body of `_reserve` can end for a verified request when journal calls succeed: what
it returns or raises, the journal it leaves, and its calls to the adapter. -/
inductive Reserves : Except PyError ReserveResponse → Journal → List Event → Prop
  /-- The request id was used for another request. -/
  | conflicting (row : OperationRow)
      (hrow : j.operation (request.reserveKey senderUid) = some row)
      (hne : row.fingerprint ≠ request.fingerprint sha256) :
    Reserves (.error ⟨.requestConflict, "request ID reused with different content"⟩) j []
  /-- The operation is known. -/
  | replayed (row : OperationRow) (result : Except PyError ReserveResponse)
      (hrow : j.operation (request.reserveKey senderUid) = some row)
      (hfingerprint : row.fingerprint = request.fingerprint sha256)
      (hstate : row.state ≠ .retryable) (h : Replays request j row result) :
    Reserves result j []
  /-- `begin_allocation` refused. -/
  | refused (error : PyError)
      (hbegin : j.MayBegin (request.reserveKey senderUid) (request.fingerprint sha256))
      (h : request.beginAllocation sha256 j = .error error) :
    Reserves (.error error) (request.begun sha256 senderUid j) []
  /-- The allocation has an outcome for every requested service. -/
  | reused (row : AllocationRow) (stored : Json) (response : ReserveResponse)
      (hbegin : j.MayBegin (request.reserveKey senderUid) (request.fingerprint sha256))
      (hplan : Extends sha256 request j row stored ∧ request.missing row = [] ∨
        Recalls sha256 request j row stored)
      (h : storedReserve (some stored) = some response) :
    Reserves (.ok { response with requestId := request.requestId })
      ((request.begun sha256 senderUid j).putOperation (request.reserveKey senderUid)
        ⟨request.fingerprint sha256, .complete,
          some (responseToDict (.reserve { response with requestId := request.requestId }))⟩) []
  /-- The allocation has an outcome that is not one of a reserve. -/
  | misread (row : AllocationRow) (stored : Json) (error : PyError)
      (hbegin : j.MayBegin (request.reserveKey senderUid) (request.fingerprint sha256))
      (hplan : Extends sha256 request j row stored ∧ request.missing row = [] ∨
        Recalls sha256 request j row stored)
      (h : storedReserve (some stored) = none)
      (herror : ∀ response, some stored = some (responseToDict response) →
        error = journalError "stored allocation response has wrong type") :
    Reserves (.error error) (request.begun sha256 senderUid j) []
  /-- The services were asked for a new set. -/
  | attempted (job : VerifiedJob) (a : Attempt)
      (hbegin : j.MayBegin (request.reserveKey senderUid) (request.fingerprint sha256))
      (h : Restarts sha256 request j) (hfor : a.For (sorted request.serviceIds))
      (hfaultless : a.Faultless) (j' : Journal)
      (hj : Updated j (request.reserveKey senderUid)
        (operationAfter sha256 request (a.result request.requestId)) request.key
        (allocationAfter sha256 request (a.result request.requestId))
        (a.writes sha256 request (request.reservationFingerprint sha256)) j') :
    Reserves (a.result request.requestId) j'
      (adapterCalls (a.events sha256 request job (request.reservationFingerprint sha256)))
  /-- The missing services were asked to extend an accepted set. -/
  | extended (job : VerifiedJob) (a : Attempt) (row : AllocationRow) (stored : Json)
      (previous : ReserveResponse)
      (hbegin : j.MayBegin (request.reserveKey senderUid) (request.fingerprint sha256))
      (h : Extends sha256 request j row stored) (hmissing : request.missing row ≠ [])
      (hprevious : a.stop = none → storedReserve (some stored) = some previous)
      (hfor : a.For (request.missing row)) (hfaultless : a.Faultless) (j' : Journal)
      (hj : Updated j (request.reserveKey senderUid)
        (operationAfter sha256 request
          (extensionResult request previous (a.result request.requestId))) request.key
        (extensionAfter sha256 request row stored
          (extensionResult request previous (a.result request.requestId)))
        (a.writes sha256 request (request.reservationFingerprint sha256)) j') :
    Reserves (extensionResult request previous (a.result request.requestId)) j'
      (adapterCalls (a.events sha256 request job (request.reservationFingerprint sha256)))
  /-- An accepted set was extended whose stored response is not one of a reserve. -/
  | stranded (job : VerifiedJob) (a : Attempt) (row : AllocationRow) (stored : Json)
      (error : PyError)
      (hbegin : j.MayBegin (request.reserveKey senderUid) (request.fingerprint sha256))
      (h : Extends sha256 request j row stored) (hmissing : request.missing row ≠ [])
      (hstop : a.stop = none) (hprevious : storedReserve (some stored) = none)
      (herror : ∀ response, some stored = some (responseToDict response) →
        error = journalError "stored allocation response has wrong type")
      (hfor : a.For (request.missing row)) (j' : Journal)
      (hj : Updated j (request.reserveKey senderUid) (begunRow (request.fingerprint sha256))
        request.key (request.extendedRow sha256 row)
        (a.writes sha256 request (request.reservationFingerprint sha256)) j') :
    Reserves (.error error) j'
      (adapterCalls (a.events sha256 request job (request.reservationFingerprint sha256)))

end Outcomes

/-! ### Executing the handler -/

section Executing

variable (oracle : Oracle) (sha256 : Document → String) (request : ReserveRequest) (senderUid : ℤ)
  (w : GatewayWorld)

/-- Completing an operation that was begun. -/
lemma exec_completeOperation {key : OperationKey} {row : OperationRow}
    (hrow : w.state.operation key = some row) (response : Json) {state : OperationState}
    (hstate : state ≠ .started) :
    Procedure.exec (surroundings oracle noFaults)
      (transact (.completeOperation key response state)) w =
      (.ok (), ⟨w.state.putOperation key { row with state := state, responseJson := some response },
        w.trace ++ [⟨.transaction (.completeOperation key response state), .ok ()⟩]⟩) := by
  rw [exec_transact_noFaults, Transaction.apply, completeOperation_eq hrow response hstate]

/-- Completing an allocation that has a row. -/
lemma exec_completeAllocation {key : AllocationKey} {row : AllocationRow}
    (hrow : w.state.allocation key = some row) (state : AllocationState) (response : Json) :
    Procedure.exec (surroundings oracle noFaults)
      (transact (.completeAllocation key state response)) w =
      (.ok (), ⟨w.state.putAllocation key { row with state := state, responseJson := some response },
        w.trace ++ [⟨.transaction (.completeAllocation key state response), .ok ()⟩]⟩) := by
  rw [exec_transact_noFaults, Transaction.apply, Journal.completeAllocation, hrow]

/-- Restoring the set an extension started from. -/
lemma exec_restorePlan {row : AllocationRow} (hrow : w.state.allocation request.key = some row)
    {plan : AllocationPlan} {stored : Json} (hstored : plan.existingResponse = some stored) :
    Procedure.exec (surroundings oracle noFaults) (restorePlan request plan) w =
      (.ok (), ⟨w.state.putAllocation request.key
          { row with
            serviceSet := sorted plan.existingServices
            state := .accepted
            responseJson := some stored },
        w.trace ++ [⟨.transaction (.restoreAcceptedAllocation request.key plan.existingServices
          stored), .ok ()⟩]⟩) := by
  rw [restorePlan, hstored, Option.getD_some, exec_transact_noFaults, Transaction.apply,
    Journal.restoreAcceptedAllocation, hrow]

/-- From the world `w`, the procedure `x` ends with `result`, leaves these rows for the operation and
the allocation of the request and calls no QPM. -/
def Records {α : Type} (x : Gateway α) (result : Except PyError α) (operation : OperationRow)
    (allocation : AllocationRow) : Prop :=
  Ends w (surroundings oracle noFaults) x fun result' j' calls => result' = result ∧ calls = [] ∧
    Updated w.state (request.reserveKey senderUid) operation request.key allocation [] j'

section Recording

variable {oracle sha256 request senderUid w} {row : AllocationRow} {plan : AllocationPlan}

/-- Nothing is left to be journalled. -/
lemma records_exec {α : Type} {x : Gateway α} {result : Except PyError α} {w' : GatewayWorld}
    {operation : OperationRow}
    (hexec : Procedure.exec (surroundings oracle noFaults) x w' = (result, w'))
    (hoperation : w'.state.operation (request.reserveKey senderUid) = some operation)
    (hallocation : w'.state.allocation request.key = some row) :
    Records oracle request senderUid w' x result operation row := by
  refine Ends.of_exec hexec (List.append_nil _).symm ⟨rfl, rfl, fun k => ?_, fun k => ?_,
    fun k s => ?_⟩
  · split_ifs with hk
    · rw [hk, hoperation]
    · rfl
  · split_ifs with hk
    · rw [hk, hallocation]
    · rfl
  · split_ifs <;> rfl

/-- A statement that journals another row of the operation or the allocation comes first. -/
lemma Records.after {α β : Type} {x : Gateway β} {f : β → Gateway α} {y : β} {w' : GatewayWorld}
    {events : List Event} {result : Except PyError α} {operation : OperationRow}
    (h : Records oracle request senderUid w' (f y) result operation row)
    (hexec : Procedure.exec (surroundings oracle noFaults) x w = (.ok y, w'))
    (htrace : w'.trace = w.trace ++ events) (hcalls : adapterCalls events = [])
    (hoperation : ∀ k ≠ request.reserveKey senderUid,
      w'.state.operation k = w.state.operation k)
    (hallocation : ∀ k ≠ request.key, w'.state.allocation k = w.state.allocation k)
    (hreservation : ∀ k s, w'.state.reservation k s = w.state.reservation k s) :
    Records oracle request senderUid w (x >>= f) result operation row := by
  refine Ends.bind hexec htrace hcalls (Ends.mono h ?_)
  rintro result' j' calls ⟨hresult, hnone, hupdated⟩
  refine ⟨hresult, hnone, fun k => ?_, fun k => ?_, fun k s => ?_⟩
  · rw [hupdated.operation_eq]
    split_ifs with hk
    · rfl
    · exact hoperation k hk
  · rw [hupdated.allocation_eq]
    split_ifs with hk
    · rfl
    · exact hallocation k hk
  · rw [hupdated.reservation_eq, hreservation]

/-- The operation is completed, which is the last thing to be journalled. -/
lemma records_completeOperation {α : Type} {f : Unit → Gateway α} {result : Except PyError α}
    {response : Json} {state : OperationState}
    (hoperation : w.state.operation (request.reserveKey senderUid) =
      some (begunRow (request.fingerprint sha256)))
    (hallocation : w.state.allocation request.key = some row) (hstate : state ≠ .started)
    (hf : ∀ w', Procedure.exec (surroundings oracle noFaults) (f ()) w' = (result, w')) :
    Records oracle request senderUid w
      (transact (.completeOperation (request.reserveKey senderUid) response state) >>= f) result
      ⟨request.fingerprint sha256, state, some response⟩ row := by
  refine Records.after (records_exec (hf _) ?_ ?_)
    (exec_completeOperation oracle w hoperation response hstate) rfl rfl (fun k hk => ?_)
    (fun _ _ => rfl) fun _ _ => rfl
  · exact Journal.operation_putOperation_self _ _ _
  · exact hallocation
  · rw [Journal.operation_putOperation, if_neg hk]

/-- The allocation gets another row. -/
lemma Records.after_putAllocation {α β : Type} {x : Gateway β} {f : β → Gateway α} {y : β}
    {event : Event} {result : Except PyError α} {operation : OperationRow}
    {before : AllocationRow}
    (h : Records oracle request senderUid
      ⟨w.state.putAllocation request.key before, w.trace ++ [event]⟩ (f y) result operation row)
    (hexec : Procedure.exec (surroundings oracle noFaults) x w =
      (.ok y, ⟨w.state.putAllocation request.key before, w.trace ++ [event]⟩))
    (hcalls : adapterCalls [event] = []) :
    Records oracle request senderUid w (x >>= f) result operation row := by
  refine Records.after h hexec rfl hcalls (fun _ _ => rfl) (fun k hk => ?_) fun _ _ => rfl
  rw [Journal.allocation_putAllocation, if_neg hk]

lemma decisionState_eq_accepted_iff {decision : AdmissionDecision} :
    decisionState decision = .accepted ↔ decision = .accepted := by
  cases decision <;> simp [decisionState]

/-- The row of an operation that is answered, from the state of the allocation. -/
lemma operationAfter_ok (response : ReserveResponse) :
    operationAfter sha256 request (.ok response) = ⟨request.fingerprint sha256,
      if decisionState response.decision = .delayed then .retryable else .complete,
      some (responseToDict (.reserve response))⟩ := by
  cases hdecision : response.decision <;>
    simp [operationAfter, operationOutcome, decisionState, hdecision]

lemma answered_ne_started (state : AllocationState) :
    (if state = .delayed then OperationState.retryable else .complete) ≠ .started := by
  split_ifs <;> simp

/-- An answer that decides about the allocation is journalled for both. -/
lemma records_completeAttempt {response : ReserveResponse}
    (hoperation : w.state.operation (request.reserveKey senderUid) =
      some (begunRow (request.fingerprint sha256)))
    (hallocation : w.state.allocation request.key = some row)
    (hdecides : ¬ plan.isExtension ∨ response.decision = .accepted) :
    Records oracle request senderUid w (completeAttempt request senderUid plan response)
      (.ok response) (operationAfter sha256 request (.ok response))
      { row with
        state := decisionState response.decision
        responseJson := some (responseToDict (.reserve response)) } := by
  rw [operationAfter_ok, completeAttempt, if_pos (by rwa [decisionState_eq_accepted_iff])]
  refine Records.after_putAllocation ?_ (exec_completeAllocation oracle w hallocation _ _) rfl
  exact records_completeOperation hoperation (Journal.allocation_putAllocation_self _ _ _)
    (answered_ne_started _) fun w' => Procedure.exec_pure _ _ w'

/-- The answer to a first attempt. -/
lemma records_settleFirst {response : ReserveResponse}
    (hoperation : w.state.operation (request.reserveKey senderUid) =
      some (begunRow (request.fingerprint sha256)))
    (hallocation : w.state.allocation request.key = some row) (hplan : ¬ plan.isExtension) :
    Records oracle request senderUid w
      (settleExtension request plan response >>= completeAttempt request senderUid plan)
      (.ok response) (operationAfter sha256 request (.ok response))
      { row with
        state := decisionState response.decision
        responseJson := some (responseToDict (.reserve response)) } := by
  rw [settleExtension, if_neg hplan, pure_bind]
  exact records_completeAttempt hoperation hallocation (.inl hplan)

/-- An accepted extension is merged with the stored response. -/
lemma records_settleMerged {response previous : ReserveResponse}
    (hoperation : w.state.operation (request.reserveKey senderUid) =
      some (begunRow (request.fingerprint sha256)))
    (hallocation : w.state.allocation request.key = some row) (hplan : plan.isExtension)
    (hdecision : response.decision = .accepted)
    (hdecode : Procedure.exec (surroundings oracle noFaults)
      (decodeReserve plan.existingResponse "stored allocation response has wrong type") w =
        (.ok previous, w)) :
    Records oracle request senderUid w
      (settleExtension request plan response >>= completeAttempt request senderUid plan)
      (.ok (mergeExtension request previous response))
      (operationAfter sha256 request (.ok (mergeExtension request previous response)))
      { row with
        state := .accepted
        responseJson := some (responseToDict
          (.reserve (mergeExtension request previous response))) } := by
  rw [settleExtension, if_pos hplan, if_pos hdecision, bind_assoc]
  refine Records.after ?_ hdecode (List.append_nil _).symm rfl (fun _ _ => rfl) (fun _ _ => rfl)
    fun _ _ => rfl
  rw [pure_bind]
  exact records_completeAttempt hoperation hallocation (.inr rfl)

/-- Where the stored response cannot be read, nothing more is journalled. -/
lemma records_settleStranded {response : ReserveResponse} {error : PyError}
    (hoperation : w.state.operation (request.reserveKey senderUid) =
      some (begunRow (request.fingerprint sha256)))
    (hallocation : w.state.allocation request.key = some row) (hplan : plan.isExtension)
    (hdecision : response.decision = .accepted)
    (hdecode : Procedure.exec (surroundings oracle noFaults)
      (decodeReserve plan.existingResponse "stored allocation response has wrong type") w =
        (.error error, w)) :
    Records oracle request senderUid w
      (settleExtension request plan response >>= completeAttempt request senderUid plan)
      (.error error) (begunRow (request.fingerprint sha256)) row := by
  rw [settleExtension, if_pos hplan, if_pos hdecision, bind_assoc]
  exact records_exec (Procedure.exec_bind_error hdecode _) hoperation hallocation

/-- An extension that is not accepted restores the set there was, and leaves it at that. -/
lemma records_settleExtension {stored : Json} {response : ReserveResponse}
    (hoperation : w.state.operation (request.reserveKey senderUid) =
      some (begunRow (request.fingerprint sha256)))
    (hallocation : w.state.allocation request.key = some row) (hplan : plan.isExtension)
    (hstored : plan.existingResponse = some stored) (hdecision : response.decision ≠ .accepted) :
    Records oracle request senderUid w
      (settleExtension request plan response >>= completeAttempt request senderUid plan)
      (.ok response) (operationAfter sha256 request (.ok response))
      { row with
        serviceSet := sorted plan.existingServices
        state := .accepted
        responseJson := some stored } := by
  have hundecided : ¬ (¬ plan.isExtension ∨ decisionState response.decision = .accepted) := by
    rw [decisionState_eq_accepted_iff, not_or, not_not]
    exact ⟨hplan, hdecision⟩
  rw [settleExtension, if_pos hplan, if_neg hdecision, bind_assoc, operationAfter_ok]
  refine Records.after_putAllocation ?_ (exec_restorePlan oracle request w hallocation hstored) rfl
  rw [pure_bind, completeAttempt, if_neg hundecided]
  exact records_completeOperation hoperation (Journal.allocation_putAllocation_self _ _ _)
    (answered_ne_started _) fun w' => Procedure.exec_pure _ _ w'

/-- A failed first attempt is journalled, unless its rollback is incomplete. -/
lemma records_recoverAttempt (error : PyError)
    (hoperation : w.state.operation (request.reserveKey senderUid) =
      some (begunRow (request.fingerprint sha256)))
    (hallocation : w.state.allocation request.key = some row) (hplan : ¬ plan.isExtension) :
    Records oracle request senderUid w (recoverAttempt request senderUid plan error)
      (.error error) (operationAfter sha256 request (.error error))
      (if error.errorClass = .rollbackIncomplete then row
      else { row with state := .rolledBack, responseJson := some (failureJson request error) }) := by
  rw [recoverAttempt, if_neg hplan, operationAfter, operationOutcome]
  by_cases hclass : error.errorClass = .rollbackIncomplete
  · rw [if_pos hclass, if_pos hclass, if_neg (not_not.mpr hclass)]
    exact records_exec (Procedure.exec_throw _ _ _) hoperation hallocation
  · rw [if_neg hclass, if_neg hclass, if_pos hclass, journalFailedAttempt, if_pos hplan]
    dsimp only
    rw [bind_assoc]
    refine Records.after_putAllocation ?_ (exec_completeAllocation oracle w hallocation _ _) rfl
    exact records_completeOperation hoperation (Journal.allocation_putAllocation_self _ _ _)
      (by simp) fun w' => Procedure.exec_throw _ _ w'

/-- After a failed extension the accepted set is restored first. -/
lemma records_recoverExtension {stored : Json} (error : PyError)
    (hoperation : w.state.operation (request.reserveKey senderUid) =
      some (begunRow (request.fingerprint sha256)))
    (hallocation : w.state.allocation request.key = some row) (hplan : plan.isExtension)
    (hstored : plan.existingResponse = some stored) :
    Records oracle request senderUid w (recoverAttempt request senderUid plan error)
      (.error error) (operationAfter sha256 request (.error error))
      { row with
        serviceSet := sorted plan.existingServices
        state := .accepted
        responseJson := some stored } := by
  rw [recoverAttempt, if_pos hplan, operationAfter, operationOutcome]
  refine Records.after_putAllocation ?_ (exec_restorePlan oracle request w hallocation hstored) rfl
  have hself := Journal.allocation_putAllocation_self w.state request.key
    { row with
      serviceSet := sorted plan.existingServices
      state := .accepted
      responseJson := some stored }
  by_cases hclass : error.errorClass = .rollbackIncomplete
  · rw [if_pos hclass, if_neg (not_not.mpr hclass)]
    exact records_exec (Procedure.exec_throw _ _ _) hoperation hself
  · rw [if_neg hclass, if_pos hclass, journalFailedAttempt, if_neg (not_not.mpr hplan)]
    exact records_completeOperation hoperation hself (by simp)
      fun w' => Procedure.exec_throw _ _ w'

end Recording

/-! ### Executing an attempt -/

section Attempting

variable {oracle sha256 request senderUid w} {a : Attempt} {plan : AllocationPlan}
  {after : GatewayWorld} {fingerprint : String} {operation : OperationRow} {allocation : AllocationRow}
  {result : Except PyError ReserveResponse}

/-- The rows that are recorded after an attempt replace those of its journal. -/
lemma Updated.of_attempt (hfaultless : a.Faultless) {j j' : Journal} {operationKey : OperationKey}
    (h : Updated (a.journal sha256 request fingerprint j) operationKey operation request.key
      allocation [] j') :
    Updated j operationKey operation request.key allocation (a.writes sha256 request fingerprint)
      j' := by
  refine ⟨fun k => ?_, fun k => ?_, fun k s => ?_⟩
  · rw [h.operation_eq, Attempt.operation_journal]
  · rw [h.allocation_eq, Attempt.allocation_journal sha256 request _ hfaultless]
    split_ifs with hk hrollback
    · rfl
    · exact absurd hrollback.1 hk
    · rfl
  · rw [h.reservation_eq, Attempt.reservation_journal]
    split_ifs <;> rfl

/-- The attempt is made, and what is recorded about the answers of the QPMs ends it. -/
lemma ends_of_answered {job : VerifiedJob} {response : ReserveResponse} (hfaultless : a.Faultless)
    (hexec : Procedure.exec (surroundings oracle noFaults)
        (reserveServices sha256 request job plan.missingServices
          (request.reservationFingerprint sha256)) w = (.ok response, after))
    (hstate : after.state = a.journal sha256 request (request.reservationFingerprint sha256) w.state)
    (htrace : after.trace =
      w.trace ++ a.events sha256 request job (request.reservationFingerprint sha256))
    (hrecords : Records oracle request senderUid after
      (settleExtension request plan response >>= completeAttempt request senderUid plan) result
      operation allocation) :
    Ends w (surroundings oracle noFaults) (attemptReserve sha256 request senderUid job plan)
      fun result' j' calls => result' = result ∧
        calls = adapterCalls
          (a.events sha256 request job (request.reservationFingerprint sha256)) ∧
        Updated w.state (request.reserveKey senderUid) operation request.key allocation
          (a.writes sha256 request (request.reservationFingerprint sha256)) j' := by
  refine Ends.bind_calls (Procedure.exec_tryCatch_ok hexec _) htrace (Ends.mono hrecords ?_)
  rintro result' j' calls ⟨hresult, rfl, hupdated⟩
  rw [hstate] at hupdated
  exact ⟨hresult, List.append_nil _, Updated.of_attempt hfaultless hupdated⟩

/-- So does what is recorded about its failure. -/
lemma ends_of_failed {job : VerifiedJob} {error : PyError} (hfaultless : a.Faultless)
    (hexec : Procedure.exec (surroundings oracle noFaults)
        (reserveServices sha256 request job plan.missingServices
          (request.reservationFingerprint sha256)) w = (.error error, after))
    (hstate : after.state = a.journal sha256 request (request.reservationFingerprint sha256) w.state)
    (htrace : after.trace =
      w.trace ++ a.events sha256 request job (request.reservationFingerprint sha256))
    (hrecords : Records oracle request senderUid after
      (recoverAttempt request senderUid plan error) (.error error) operation allocation) :
    Ends w (surroundings oracle noFaults) (attemptReserve sha256 request senderUid job plan)
      fun result' j' calls => result' = .error error ∧
        calls = adapterCalls
          (a.events sha256 request job (request.reservationFingerprint sha256)) ∧
        Updated w.state (request.reserveKey senderUid) operation request.key allocation
          (a.writes sha256 request (request.reservationFingerprint sha256)) j' := by
  obtain ⟨more, hmore, hresult, hnone, hupdated⟩ := hrecords
  have hcaught := Procedure.exec_tryCatch_error hexec (recoverAttempt request senderUid plan)
  generalize Procedure.exec (surroundings oracle noFaults)
    (recoverAttempt request senderUid plan error) after = ending at hmore hresult hupdated hcaught
  obtain ⟨_, final⟩ := ending
  subst hresult
  rw [htrace, List.append_assoc] at hmore
  refine Ends.of_exec (Procedure.exec_bind_error hcaught _) hmore ⟨rfl, ?_, ?_⟩
  · rw [adapterCalls_append, hnone, List.append_nil]
  · rw [hstate] at hupdated
    exact Updated.of_attempt hfaultless hupdated

end Attempting

/-- A first attempt, from the journal `begin_allocation` leaves. -/
lemma exec_attemptReserve_fresh (job : VerifiedJob) {serviceIds : List String}
    (hoperation : w.state.operation (request.reserveKey senderUid) =
      some (begunRow (request.fingerprint sha256)))
    (hallocation : w.state.allocation request.key = some (request.freshRow sha256)) :
    Ends w (surroundings oracle noFaults)
      (attemptReserve sha256 request senderUid job ⟨none, [], serviceIds⟩)
      fun result j' calls => ∃ a : Attempt, a.For (sorted serviceIds) ∧ a.Faultless ∧
        result = a.result request.requestId ∧
        calls = adapterCalls
          (a.events sha256 request job (request.reservationFingerprint sha256)) ∧
        Updated w.state (request.reserveKey senderUid)
          (operationAfter sha256 request (a.result request.requestId)) request.key
          (allocationAfter sha256 request (a.result request.requestId))
          (a.writes sha256 request (request.reservationFingerprint sha256)) j' := by
  obtain ⟨a, hfor, hexec, hfaults⟩ := exec_reserveServices oracle noFaults sha256 request job
    (request.reservationFingerprint sha256) serviceIds w
  have hfaultless := hfaults rfl
  have hbegun : (a.journal sha256 request (request.reservationFingerprint sha256) w.state).operation
      (request.reserveKey senderUid) = some (begunRow (request.fingerprint sha256)) := by
    rw [Attempt.operation_journal, hoperation]
  have hrow := Attempt.allocation_journal_self sha256 request
    (request.reservationFingerprint sha256) hfaultless hallocation
  have hplan : ¬ (⟨none, [], serviceIds⟩ : AllocationPlan).isExtension := by
    simp [AllocationPlan.isExtension]
  cases hresult : a.result request.requestId with
  | ok response =>
    rw [hresult] at hexec
    refine Ends.mono (ends_of_answered hfaultless hexec rfl rfl
      (records_settleFirst hbegun hrow hplan)) ?_
    rintro result j' calls ⟨rfl, hcalls, hupdated⟩
    exact ⟨a, hfor, hfaultless, hresult.symm, hcalls, by rw [hresult]; exact hupdated⟩
  | error error =>
    rw [hresult] at hexec
    rw [a.isSome_of_error hresult, if_pos rfl] at hrow
    refine Ends.mono (ends_of_failed hfaultless hexec rfl rfl
      (records_recoverAttempt error hbegun hrow hplan)) ?_
    rintro result j' calls ⟨rfl, hcalls, hupdated⟩
    refine ⟨a, hfor, hfaultless, hresult.symm, hcalls, ?_⟩
    rw [hresult]
    convert hupdated using 1
    rw [allocationAfter, allocationOutcome]
    split_ifs <;> rfl

/-- An extension, from the journal `begin_allocation` leaves. -/
lemma exec_attemptReserve_extension (job : VerifiedJob) {row : AllocationRow} {stored : Json}
    {serviceIds : List String} (hmissing : serviceIds ≠ [])
    (hoperation : w.state.operation (request.reserveKey senderUid) =
      some (begunRow (request.fingerprint sha256)))
    (hallocation : w.state.allocation request.key = some (request.extendedRow sha256 row)) :
    Ends w (surroundings oracle noFaults)
      (attemptReserve sha256 request senderUid job ⟨some stored, row.serviceSet, serviceIds⟩)
      fun result j' calls => ∃ a : Attempt, a.For (sorted serviceIds) ∧ a.Faultless ∧
        calls = adapterCalls
          (a.events sha256 request job (request.reservationFingerprint sha256)) ∧
        ((∃ previous, (a.stop = none → storedReserve (some stored) = some previous) ∧
          result = extensionResult request previous (a.result request.requestId) ∧
          Updated w.state (request.reserveKey senderUid)
            (operationAfter sha256 request
              (extensionResult request previous (a.result request.requestId))) request.key
            (extensionAfter sha256 request row stored
              (extensionResult request previous (a.result request.requestId)))
            (a.writes sha256 request (request.reservationFingerprint sha256)) j') ∨
        (∃ error, a.stop = none ∧ storedReserve (some stored) = none ∧
          (∀ response, some stored = some (responseToDict response) →
            error = journalError "stored allocation response has wrong type") ∧
          result = .error error ∧
          Updated w.state (request.reserveKey senderUid) (begunRow (request.fingerprint sha256))
            request.key (request.extendedRow sha256 row)
            (a.writes sha256 request (request.reservationFingerprint sha256)) j')) := by
  obtain ⟨a, hfor, hexec, hfaults⟩ := exec_reserveServices oracle noFaults sha256 request job
    (request.reservationFingerprint sha256) serviceIds w
  have hfaultless := hfaults rfl
  have hbegun : (a.journal sha256 request (request.reservationFingerprint sha256) w.state).operation
      (request.reserveKey senderUid) = some (begunRow (request.fingerprint sha256)) := by
    rw [Attempt.operation_journal, hoperation]
  have hrow := Attempt.allocation_journal_self sha256 request
    (request.reservationFingerprint sha256) hfaultless hallocation
  have hplan : (⟨some stored, row.serviceSet, serviceIds⟩ : AllocationPlan).isExtension := by
    simp [AllocationPlan.isExtension, hmissing]
  have haccepted := Attempt.accepted_iff hfor request.requestId
  cases hresult : a.result request.requestId with
  | ok response =>
    rw [hresult] at hexec
    by_cases hdecision : response.decision = .accepted
    · have hstop := haccepted.mp ⟨response, hresult, hdecision⟩
      rw [hstop] at hrow
      rcases exec_decodeReserve (surroundings oracle noFaults) (some stored)
        "stored allocation response has wrong type" _ with
        ⟨previous, hprevious, hdecode⟩ | ⟨hprevious, error, herror, hdecode⟩
      · refine Ends.mono (ends_of_answered hfaultless hexec rfl rfl
          (records_settleMerged hbegun hrow hplan hdecision hdecode)) ?_
        rintro result j' calls ⟨rfl, hcalls, hupdated⟩
        refine ⟨a, hfor, hfaultless, hcalls, .inl ⟨previous, fun _ => hprevious, ?_⟩⟩
        rw [hresult, extensionResult, if_pos hdecision]
        exact ⟨rfl, hupdated⟩
      · refine Ends.mono (ends_of_answered hfaultless hexec rfl rfl
          (records_settleStranded hbegun hrow hplan hdecision hdecode)) ?_
        rintro result j' calls ⟨rfl, hcalls, hupdated⟩
        exact ⟨a, hfor, hfaultless, hcalls, .inr ⟨error, hstop, hprevious, herror, rfl, hupdated⟩⟩
    · refine Ends.mono (ends_of_answered hfaultless hexec rfl rfl
        (records_settleExtension hbegun hrow hplan rfl hdecision)) ?_
      rintro result j' calls ⟨rfl, hcalls, hupdated⟩
      refine ⟨a, hfor, hfaultless, hcalls, .inl ⟨response, fun hstop => ?_, ?_⟩⟩
      · obtain ⟨other, hother, hd⟩ := haccepted.mpr hstop
        cases hresult.symm.trans hother
        exact absurd hd hdecision
      · rw [hresult, extensionResult, if_neg hdecision, extensionAfter, if_neg hdecision]
        exact ⟨rfl, hupdated⟩
  | error error =>
    rw [hresult] at hexec
    refine Ends.mono (ends_of_failed hfaultless hexec rfl rfl
      (records_recoverExtension error hbegun hrow hplan rfl)) ?_
    rintro result j' calls ⟨rfl, hcalls, hupdated⟩
    have hstop : a.stop ≠ none := by
      rw [← Option.isSome_iff_ne_none]
      exact a.isSome_of_error hresult
    refine ⟨a, hfor, hfaultless, hcalls, .inl ⟨⟨0, .accepted, []⟩, fun h => absurd h hstop, ?_⟩⟩
    rw [hresult]
    exact ⟨rfl, hupdated⟩

/-- Replaying a known operation. -/
lemma exec_replayReserve (row : OperationRow) :
    Ends w (surroundings oracle noFaults) (replayReserve request ⟨row.state, row.responseJson⟩)
      fun result j' calls => Replays request w.state row result ∧ j' = w.state ∧ calls = [] := by
  unfold Ends replayReserve
  by_cases hunfinished : row.state ≠ .complete ∨ row.responseJson = none
  · rw [if_pos (by simpa using hunfinished),
      Procedure.exec_bind_error (Procedure.exec_throw _ _ _)]
    exact ⟨[], by simp, .unfinished hunfinished, rfl, rfl⟩
  · rw [if_neg (by simpa using hunfinished)]
    push Not at hunfinished
    rcases exec_decodeReserve (surroundings oracle noFaults) row.responseJson
      "stored reserve response has wrong type" w with
      ⟨response, hresponse, hdecode⟩ | ⟨hnone, error, herror, hdecode⟩
    swap
    · rw [Procedure.exec_bind_error hdecode]
      exact ⟨[], by simp, .unreadable error hunfinished.1 hnone herror, rfl, rfl⟩
    rw [Procedure.exec_bind_ok hdecode]
    by_cases hdecision : response.decision = .accepted
    swap
    · rw [if_neg hdecision, Procedure.exec_pure]
      exact ⟨[], by simp, .settled response hunfinished.1 hresponse hdecision, rfl, rfl⟩
    rw [if_pos hdecision]
    have htransact := exec_transact_noFaults oracle w
      (.acceptedAllocation request.key request.jobUid request.jobGid request.serviceIds)
    cases hallocation : w.state.acceptedAllocation request.key request.jobUid request.jobGid
      request.serviceIds with
    | error error =>
      rw [Transaction.apply, hallocation] at htransact
      rw [Procedure.exec_bind_error htransact]
      exact ⟨_, rfl, .denied response error hunfinished.1 hresponse hdecision hallocation, rfl, rfl⟩
    | ok stored =>
      rw [Transaction.apply, hallocation] at htransact
      rw [Procedure.exec_bind_ok htransact]
      cases stored with
      | none =>
        exact ⟨_, rfl, .gone response hunfinished.1 hresponse hdecision hallocation, rfl, rfl⟩
      | some stored =>
        dsimp only
        rcases exec_decodeReserve (surroundings oracle noFaults) (some stored)
          "stored allocation response has wrong type" ⟨w.state, w.trace ++ [⟨.transaction
            (.acceptedAllocation request.key request.jobUid request.jobGid request.serviceIds),
            .ok (some stored)⟩]⟩ with ⟨now, hnow, hdecode⟩ | ⟨hnow, error, herror, hdecode⟩
        · rw [Procedure.exec_bind_ok hdecode]
          exact ⟨_, rfl, .current response now stored hunfinished.1 hresponse hdecision hallocation
            hnow, rfl, rfl⟩
        · rw [Procedure.exec_bind_error hdecode]
          exact ⟨_, rfl, .garbled response stored error hunfinished.1 hresponse hdecision
            hallocation hnow herror, rfl, rfl⟩

/-- Reusing the outcome an allocation already has. -/
lemma exec_reuseAllocation {plan : AllocationPlan} {stored : Json}
    (hplan : plan.existingResponse = some stored)
    (hoperation : w.state.operation (request.reserveKey senderUid) =
      some (begunRow (request.fingerprint sha256))) :
    Ends w (surroundings oracle noFaults) (reuseAllocation request senderUid plan)
      fun result j' calls => calls = [] ∧
        ((∃ response, storedReserve (some stored) = some response ∧
          result = .ok { response with requestId := request.requestId } ∧
          j' = w.state.putOperation (request.reserveKey senderUid)
            ⟨request.fingerprint sha256, .complete,
              some (responseToDict (.reserve { response with requestId := request.requestId }))⟩) ∨
        ∃ error, storedReserve (some stored) = none ∧
          (∀ response, some stored = some (responseToDict response) →
            error = journalError "stored allocation response has wrong type") ∧
          result = .error error ∧ j' = w.state) := by
  unfold Ends reuseAllocation
  rw [hplan]
  rcases exec_decodeReserve (surroundings oracle noFaults) (some stored)
    "stored allocation response has wrong type" w with
    ⟨response, hresponse, hdecode⟩ | ⟨hnone, error, herror, hdecode⟩
  · rw [Procedure.exec_bind_ok hdecode,
      Procedure.exec_bind_ok (exec_completeOperation _ _ hoperation _ (by simp)),
      Procedure.exec_pure]
    exact ⟨_, rfl, rfl, .inl ⟨response, hresponse, rfl, rfl⟩⟩
  · rw [Procedure.exec_bind_error hdecode]
    exact ⟨[], by simp, rfl, .inr ⟨error, hnone, herror, rfl, rfl⟩⟩

/-- What `_reserve` does once its operation has begun. -/
lemma exec_beginReserve (job : VerifiedJob) (j : Journal) (hservices : request.serviceIds ≠ [])
    (hbegin : j.MayBegin (request.reserveKey senderUid) (request.fingerprint sha256))
    (hw : w.state = request.begun sha256 senderUid j) :
    Ends w (surroundings oracle noFaults) (beginReserve sha256 request senderUid job)
      (Reserves sha256 request senderUid j) := by
  have htransact := exec_transact_noFaults oracle w
    (.beginAllocation request.key request.jobUid request.jobGid request.serviceIds
      (sha256 (allocationDocument request)) (sha256 (reservationDocument request)))
  have hplanned : Transaction.apply w.state (.beginAllocation request.key request.jobUid
      request.jobGid request.serviceIds (sha256 (allocationDocument request))
      (sha256 (reservationDocument request))) =
      (request.beginAllocation sha256 j).map fun planned =>
        (planned.1, planned.2.putOperation (request.reserveKey senderUid)
          (begunRow (request.fingerprint sha256))) := by
    rw [hw]
    exact beginAllocation_putOperation _ _
  unfold beginReserve
  cases hbegun : request.beginAllocation sha256 j with
  | error error =>
    rw [hplanned, hbegun] at htransact
    refine Ends.of_exec (Procedure.exec_bind_error htransact _) rfl ?_
    rw [hw]
    exact .refused error hbegin hbegun
  | ok planned =>
    obtain ⟨plan, j'⟩ := planned
    rw [hplanned, hbegun] at htransact
    refine Ends.bind htransact rfl rfl ?_
    dsimp only
    cases plans_of_beginAllocation hbegun with
    | fresh h =>
      rw [if_neg (by simpa using hservices)]
      refine Ends.mono (exec_attemptReserve_fresh oracle sha256 request senderUid _ job (by simp)
        (by simp)) ?_
      rintro result j' calls ⟨a, hfor, hfaultless, rfl, rfl, hj⟩
      rw [sorted_eq_self (sorted_pairwise _)] at hfor
      exact .attempted job a hbegin h hfor hfaultless j' hj.of_put
    | covered row stored h hcovered =>
      rw [if_pos rfl]
      refine Ends.mono (exec_reuseAllocation oracle sha256 request senderUid _ rfl (by simp)) ?_
      rintro result j' calls ⟨rfl, ⟨response, hresponse, rfl, rfl⟩ |
        ⟨error, hnone, herror, rfl, rfl⟩⟩
      · exact .reused row stored response hbegin (.inl ⟨h, hcovered⟩) hresponse
      · exact .misread row stored error hbegin (.inl ⟨h, hcovered⟩) hnone herror
    | extended row stored h hmissing =>
      have hself : sorted (request.missing row) = request.missing row :=
        sorted_eq_self ((sorted_pairwise _).sublist List.filter_sublist)
      rw [if_neg hmissing]
      refine Ends.mono (exec_attemptReserve_extension oracle sha256 request senderUid _ job hmissing
        (by simp) (by simp)) ?_
      rintro result j' calls ⟨a, hfor, hfaultless, rfl, ⟨previous, hprevious, rfl, hj⟩ |
        ⟨error, hstop, hprevious, herror, rfl, hj⟩⟩
      · rw [hself] at hfor
        exact .extended job a row stored previous hbegin h hmissing hprevious hfor hfaultless j'
          hj.of_put
      · rw [hself] at hfor
        exact .stranded job a row stored error hbegin h hmissing hstop hprevious herror hfor j'
          hj.of_put
    | recalled row stored h =>
      rw [if_pos rfl]
      refine Ends.mono (exec_reuseAllocation oracle sha256 request senderUid _ rfl (by simp)) ?_
      rintro result j' calls ⟨rfl, ⟨response, hresponse, rfl, rfl⟩ |
        ⟨error, hnone, herror, rfl, rfl⟩⟩
      · exact .reused row stored response hbegin (.inr h) hresponse
      · exact .misread row stored error hbegin (.inr h) hnone herror

/-- A request that the verifier does not let through ends there. -/
lemma exec_reserveTry_unverified {failure : VerifierFailure}
    (hfailure : oracle w.trace.length (.verifyReserve request senderUid) = .error failure) :
    Procedure.exec (surroundings oracle noFaults) (reserveTry sha256 request senderUid) w =
      (.error failure.error,
        ⟨w.state, w.trace ++ [⟨.call (.verifyReserve request senderUid), .error failure⟩]⟩) := by
  have hverify := exec_invoke oracle noFaults w (.verifyReserve request senderUid)
    (Except.mapError VerifierFailure.error)
  rw [hfailure] at hverify
  exact Procedure.exec_bind_error hverify _

/-- Every run of the body of `_reserve` for a verified request ends in one of the listed ways. -/
theorem exec_reserveTry (hservices : request.serviceIds ≠ []) {job : VerifiedJob}
    (hjob : oracle w.trace.length (.verifyReserve request senderUid) = .ok job) :
    Ends w (surroundings oracle noFaults) (reserveTry sha256 request senderUid)
      (Reserves sha256 request senderUid w.state) := by
  have hverify := exec_invoke oracle noFaults w (.verifyReserve request senderUid)
    (Except.mapError VerifierFailure.error)
  rw [hjob] at hverify
  refine Ends.bind hverify rfl rfl ?_
  have htransact := exec_transact_noFaults oracle
    ⟨w.state, w.trace ++ [⟨.call (.verifyReserve request senderUid), .ok job⟩]⟩
    (.beginOperation (request.reserveKey senderUid) (request.fingerprint sha256))
  rw [Transaction.apply] at htransact
  rcases beginOperation_cases (request.reserveKey senderUid) (request.fingerprint sha256)
    w.state with ⟨row, hrow, hne, hbegin⟩ | ⟨row, hrow, heq, hstate, hbegin⟩ | ⟨hmay, hbegin⟩
  · rw [hbegin] at htransact
    exact Ends.of_exec (Procedure.exec_bind_error htransact _) rfl (.conflicting row hrow hne)
  · rw [hbegin] at htransact
    refine Ends.bind htransact rfl rfl ?_
    refine Ends.mono (exec_replayReserve oracle request _ row) ?_
    rintro result j' calls ⟨hreplay, rfl, rfl⟩
    exact .replayed row result hrow heq hstate hreplay
  · rw [hbegin] at htransact
    refine Ends.bind htransact rfl rfl ?_
    exact exec_beginReserve oracle sha256 request senderUid _ job w.state hservices hmay rfl

end Executing

end QfwSlurm
