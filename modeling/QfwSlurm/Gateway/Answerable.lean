import QfwSlurm.Gateway.WellFormed
import QfwSlurm.Gateway.Operations
import QfwSlurm.Gateway.Lookups
import QfwSlurm.Gateway.Authorization
import QfwSlurm.Gateway.Polls

/-!
# Every answer can be sent, while there is room

An answer of the gateway is put on the wire by `encode_response`, which refuses an admission or
release response with more than 32 results.  A request names at most 32 services, but the journal
accumulates them: an extension is answered with the combined set, and a release with every row that
has a reservation id, those of earlier attempts included.

In a run of well-formed steps that leave room for the results (`Step.HasRoom`), every answer can be
sent (`encodes_every_answer`).  The invariant is `Answerable`: whatever the journal may answer with
again, and every row it may report on, fits the wire.
-/

namespace QfwSlurm

open Interaction

/-! ### The invariant -/

/-- The operation a response concludes. -/
def Response.operation : Response → Option Operation
  | .evaluate _ => some .evaluate
  | .reserve _ => some .reserve
  | .release _ => some .release
  | _ => none

/-- A complete operation has a response of its kind that can be sent. -/
def OperationRow.Answers (operation : Operation) (row : OperationRow) : Prop :=
  row.state = .complete → ∃ response, row.responseJson = some (responseToDict response) ∧
    response.operation = some operation ∧ response.Sendable

/-- A stored reserve response can be sent. -/
def AllocationRow.Answers (row : AllocationRow) : Prop :=
  ∀ response, row.responseJson = some (responseToDict (.reserve response)) → response.Sendable true

/-- What the journal may answer with, and every row it may report on, fits the wire. -/
structure Answerable (j : Journal) : Prop where
  rows : ∀ key s r, j.reservation key s = some r → RowFits (s, r)
  jobs : ∀ key row, j.allocation key = some row → Positive 64 key.canonicalJobId
  allocations : ∀ key row, j.allocation key = some row → row.Answers
  operations : ∀ key row, j.operation key = some row → row.Answers key.operation

lemma answerable_empty : Answerable Journal.empty where
  rows := by simp
  jobs := by simp
  allocations := by simp
  operations := by simp

section Writes

variable {j j' : Journal} {operationKey : OperationKey} {operation : OperationRow}
  {key : AllocationKey} {allocation : AllocationRow} {writes : List (String × ReservationRow)}

/-- An operation row that answers keeps the invariant. -/
lemma Answerable.putOperation (h : Answerable j) (hrow : operation.Answers operationKey.operation) :
    Answerable (j.putOperation operationKey operation) := by
  refine ⟨h.rows, h.jobs, h.allocations, fun k row hk => ?_⟩
  rw [Journal.operation_putOperation] at hk
  split_ifs at hk with heq
  · cases hk
    exact heq ▸ hrow
  · exact h.operations k row hk

/-- The row of an operation that has begun does not answer yet. -/
lemma answers_begunRow (operation : Operation) (fingerprint : String) :
    (begunRow fingerprint).Answers operation := by
  intro hcomplete
  cases hcomplete

/-- An allocation row that answers keeps the invariant. -/
lemma Answerable.putAllocation (h : Answerable j) (hrow : allocation.Answers)
    (hjob : Positive 64 key.canonicalJobId) : Answerable (j.putAllocation key allocation) := by
  refine ⟨h.rows, fun k row hk => ?_, fun k row hk => ?_, h.operations⟩
  · rw [Journal.allocation_putAllocation] at hk
    split_ifs at hk with heq
    · exact heq ▸ hjob
    · exact h.jobs k row hk
  · rw [Journal.allocation_putAllocation] at hk
    split_ifs at hk
    · cases hk
      exact hrow
    · exact h.allocations k row hk

/-- Rows that fit keep the invariant. -/
lemma Answerable.writeAll (h : Answerable j) (key : AllocationKey)
    (hwrites : ∀ write ∈ writes, RowFits write) : Answerable (j.writeAll key writes) := by
  refine ⟨fun k s r hr => ?_, fun k row hk => ?_, fun k row hk => ?_, fun k row hk => ?_⟩
  · rw [Journal.reservation_writeAll] at hr
    split_ifs at hr
    · cases hwritten : written writes s with
      | none =>
        rw [hwritten, Option.none_or] at hr
        exact h.rows k s r hr
      | some new =>
        rw [hwritten, Option.some_or] at hr
        cases hr
        exact hwrites _ (mem_of_written hwritten)
    · exact h.rows k s r hr
  · rw [Journal.allocation_writeAll] at hk
    exact h.jobs k row hk
  · rw [Journal.allocation_writeAll] at hk
    exact h.allocations k row hk
  · rw [Journal.operation_writeAll] at hk
    exact h.operations k row hk

/-- Only what is looked up matters. -/
lemma Answerable.congr (h : Answerable j) (hoperation : ∀ k, j'.operation k = j.operation k)
    (hallocation : ∀ k, j'.allocation k = j.allocation k)
    (hreservation : ∀ k s, j'.reservation k s = j.reservation k s) : Answerable j' where
  rows := by simpa only [hreservation] using h.rows
  jobs := by simpa only [hallocation] using h.jobs
  allocations := by simpa only [hallocation] using h.allocations
  operations := by simpa only [hoperation] using h.operations

/-- An update of an operation, an allocation and its rows keeps the invariant. -/
lemma Answerable.updated (h : Answerable j)
    (hj : Updated j operationKey operation key allocation writes j')
    (hoperation : operation.Answers operationKey.operation) (hallocation : allocation.Answers)
    (hjob : Positive 64 key.canonicalJobId) (hwrites : ∀ write ∈ writes, RowFits write) :
    Answerable j' := by
  refine (((h.writeAll key hwrites).putAllocation hallocation hjob).putOperation hoperation).congr
    (fun k => ?_) (fun k => ?_) fun k s => ?_
  · rw [hj.operation_eq, Journal.operation_putOperation, Journal.operation_putAllocation,
      Journal.operation_writeAll]
  · rw [hj.allocation_eq, Journal.allocation_putOperation, Journal.allocation_putAllocation,
      Journal.allocation_writeAll]
  · rw [hj.reservation_eq, Journal.reservation_putOperation, Journal.reservation_putAllocation,
      Journal.reservation_writeAll]

end Writes

/-! ### What the journal answers with -/

section Stored

variable {j : Journal} {key : AllocationKey} {row : AllocationRow}

/-- A stored response that is read as one of a reserve can be sent. -/
lemma Answerable.sendable_of_stored (h : Answerable j) (hrow : j.allocation key = some row)
    (hsettled : row.Settled) {response : ReserveResponse}
    (hread : storedReserve row.responseJson = some response) : response.Sendable true := by
  have hanswer (other : ReserveResponse)
      (hother : row.responseJson = some (responseToDict (.reserve other))) :
      response.Sendable true := by
    rw [hother, storedReserve_reserve] at hread
    cases hread
    exact h.allocations key row hrow response hother
  unfold AllocationRow.Settled at hsettled
  split at hsettled
  case h_1 | h_2 | h_3 =>
    obtain ⟨other, -, hother⟩ := hsettled
    exact hanswer other hother
  case h_4 =>
    obtain ⟨other, hother⟩ := hsettled
    rw [hother, storedReserve_error] at hread
    cases hread
  case h_5 | h_6 =>
    obtain ⟨other, hother⟩ := hsettled
    rw [hother, storedReserve_release] at hread
    cases hread
  case h_7 =>
    rw [hsettled] at hread
    cases hread
  case h_8 | h_9 => exact hsettled.elim

/-- A stored response of a settled allocation is one the gateway wrote. -/
lemma AllocationRow.Settled.exists_response (hsettled : row.Settled) {stored : Json}
    (hstored : row.responseJson = some stored) :
    ∃ response, some stored = some (responseToDict response) := by
  unfold AllocationRow.Settled at hsettled
  rw [hstored] at hsettled
  split at hsettled
  case h_1 | h_2 | h_3 =>
    obtain ⟨response, -, hresponse⟩ := hsettled
    exact ⟨_, hresponse⟩
  case h_4 | h_5 | h_6 =>
    obtain ⟨response, hresponse⟩ := hsettled
    exact ⟨_, hresponse⟩
  case h_7 => cases hsettled
  case h_8 | h_9 => exact hsettled.elim

end Stored

/-- The answer to another request with the same content. -/
lemma ReserveResponse.Sendable.reply {response : ReserveResponse} {reserve : Bool}
    (h : response.Sendable reserve) {requestId : ℤ} (hid : Positive 64 requestId) :
    ({ response with requestId := requestId } : ReserveResponse).Sendable reserve :=
  ⟨hid, h.count, h.distinct, h.results, h.agrees⟩

/-! ### Reserve requests -/

section Reserve

variable {sha256 : Document → String} {request : ReserveRequest} {senderUid : ℤ}
  {j j' : Journal} {calls : List Event}

/-- The operation of a presentable outcome answers. -/
lemma answers_operationAfter {result : Except PyError ReserveResponse}
    (h : Presentable (ReserveResponse.Sendable true) result) :
    (operationAfter sha256 request result).Answers .reserve := by
  intro hcomplete
  cases result with
  | ok response => exact ⟨.reserve response, rfl, rfl, h⟩
  | error error =>
    simp only [operationAfter, operationOutcome] at hcomplete
    split_ifs at hcomplete

/-- The allocation of a presentable outcome answers. -/
lemma answers_allocationAfter {result : Except PyError ReserveResponse}
    (h : Presentable (ReserveResponse.Sendable true) result) :
    (allocationAfter sha256 request result).Answers := by
  intro response hresponse
  cases result with
  | ok value =>
    cases responseToDict_injective (Option.some.inj hresponse)
    exact h
  | error error =>
    obtain ⟨failure, hfailure⟩ := operationError_eq "reserve" request.requestId error
    simp only [allocationAfter, allocationOutcome, failureJson, hfailure] at hresponse
    split_ifs at hresponse
    cases responseToDict_injective (Option.some.inj hresponse)

/-- The allocation of a presentable extension answers. -/
lemma answers_extensionAfter {row : AllocationRow} {stored : Json} (hrow : row.Answers)
    (hstored : row.responseJson = some stored) {result : Except PyError ReserveResponse}
    (h : Presentable (ReserveResponse.Sendable true) result) :
    (extensionAfter sha256 request row stored result).Answers := by
  intro response hresponse
  cases result with
  | error error => exact hrow response (hstored.trans hresponse)
  | ok value =>
    unfold extensionAfter at hresponse
    dsimp only at hresponse
    split_ifs at hresponse
    · cases responseToDict_injective (Option.some.inj hresponse)
      exact h
    · exact hrow response (hstored.trans hresponse)

/-- The texts of `begin_allocation` are plain. -/
lemma BeginRefusal.plain {error : PyError} (h : BeginRefusal error) : Plain error.message := by
  cases h with
  | changed serviceId =>
    have hopening : Plain "accepted workload changed for " := by decide
    exact hopening.append (plain_reprText serviceId).noNul
  | _ => decide +kernel

/-- The texts of `accepted_allocation` are plain. -/
lemma plain_of_acceptedAllocation {key : AllocationKey} {jobUid jobGid : ℤ}
    {serviceIds : List String} {error : PyError}
    (h : j.acceptedAllocation key jobUid jobGid serviceIds = .error error) :
    Plain error.message := by
  unfold Journal.acceptedAllocation at h
  split at h
  · cases h
  · split_ifs at h
    · cases h
      decide
    · cases h
      decide

lemma plain_conflict : Plain "request ID reused with different content" := by decide

lemma plain_reserveRecovery : Plain "reserve operation requires recovery" := by decide

lemma plain_releaseRecovery : Plain "release operation requires recovery" := by decide

lemma plain_evaluateRecovery : Plain "evaluate operation requires recovery" := by decide

/-- What a known operation answers is presentable. -/
lemma Replays.presentable (hj : Answerable j) (hreachable : Reachable sha256 j)
    (hid : Positive 64 request.requestId) {row : OperationRow}
    (hrow : j.operation (request.reserveKey senderUid) = some row)
    {result : Except PyError ReserveResponse} (h : Replays request j row result) :
    Presentable (ReserveResponse.Sendable true) result := by
  have hstored (hcomplete : row.state = .complete) : ∃ response : ReserveResponse,
      storedReserve row.responseJson = some response ∧ response.Sendable true := by
    obtain ⟨response, hresponse, hkind, hsendable⟩ := hj.operations _ row hrow hcomplete
    cases response with
    | reserve response => exact ⟨response, by rw [hresponse, storedReserve_reserve], hsendable⟩
    | _ => cases hkind
  have hstored_eq {response : ReserveResponse} (hcomplete : row.state = .complete)
      (hread : storedReserve row.responseJson = some response) : response.Sendable true := by
    obtain ⟨other, hother, hsendable⟩ := hstored hcomplete
    cases hread.symm.trans hother
    exact hsendable
  cases h with
  | unfinished h => exact plain_reserveRecovery
  | unreadable error hstate h herror =>
    obtain ⟨response, hresponse, -⟩ := hstored hstate
    cases h.symm.trans hresponse
  | settled response hstate h hdecision => exact hstored_eq hstate h
  | denied response error hstate h hdecision hallocation =>
    exact plain_of_acceptedAllocation hallocation
  | gone response hstate h hdecision hallocation => exact hstored_eq hstate h
  | current response now stored hstate h hdecision hallocation hnow =>
    obtain ⟨allocation, hallocation, -, hresponse, -⟩ := accepted_of_some hallocation
    rw [← hresponse] at hnow
    exact (hj.sendable_of_stored hallocation (settled_of_reachable hreachable hallocation)
      hnow).reply hid
  | garbled response stored error hstate h hdecision hallocation hnow herror =>
    obtain ⟨allocation, hallocation, haccepted, hresponse, -⟩ := accepted_of_some hallocation
    rw [← hresponse] at hnow
    exact absurd hnow
      (storedReserve_of_settled (settled_of_reachable hreachable hallocation) (.inl haccepted))

/-- The combined answer of an extension can be sent when the set has room for it. -/
lemma sendable_mergeExtension {row : AllocationRow} {stored : Json}
    {previous response : ReserveResponse} (hset : AcceptedSet j request.key row)
    (hstored : row.responseJson = some stored) (hread : storedReserve (some stored) = some previous)
    (hprevious : previous.Sendable true) (hresponse : response.Sendable true)
    (haccepted : response.decision = .accepted)
    (hservices : response.results.map ServiceResult.serviceId = request.missing row)
    (hroom : (row.serviceSet ++ request.missing row).length ≤ maxServices)
    (hid : Positive 64 request.requestId) :
    (mergeExtension request previous response).Sendable true := by
  obtain ⟨value, other, hvalue, hother, hdecision, hpairs⟩ := hset.storedResponse
  cases hstored.symm.trans hvalue
  cases hread.symm.trans hother
  have hnames : previous.results.map ServiceResult.serviceId = row.serviceSet := by
    have hfirst := congrArg (List.map Prod.fst) hpairs
    simpa [List.map_map, Function.comp_def, ServiceResult.pair] using hfirst
  have hall : (previous.results ++ response.results).map ServiceResult.serviceId =
      row.serviceSet ++ request.missing row := by
    rw [List.map_append, hnames, hservices]
  have hperm := List.perm_insertionSort
    (fun a b : ServiceResult => a.serviceId ≤ b.serviceId) (previous.results ++ response.results)
  refine ⟨hid, ⟨?_, ?_⟩, ?_, fun item hitem => ?_, fun decision hmem => ?_⟩
  · rw [mergeExtension, hperm.length_eq, List.length_append]
    exact Nat.add_pos_left hprevious.count.1 _
  · rw [mergeExtension, hperm.length_eq, ← List.length_map (f := ServiceResult.serviceId), hall]
    exact hroom
  · refine (hperm.map ServiceResult.serviceId).nodup_iff.mpr ?_
    rw [hall, List.nodup_append]
    refine ⟨hset.nodup, hservices ▸ hresponse.distinct, ?_⟩
    rintro s hs _ ht rfl
    exact of_decide_eq_true (List.mem_filter.mp ht).2 hs
  · rcases List.mem_append.mp (hperm.mem_iff.mp hitem) with hitem | hitem
    · exact hprevious.results item hitem
    · exact hresponse.results item hitem
  · obtain ⟨item, hitem, rfl⟩ := List.mem_map.mp hmem
    rcases List.mem_append.mp (hperm.mem_iff.mp hitem) with hitem | hitem
    · have hagrees := hprevious.agrees
      rw [hdecision] at hagrees
      exact hagrees _ (List.mem_map_of_mem hitem)
    · have hagrees := hresponse.agrees
      rw [haccepted] at hagrees
      exact hagrees _ (List.mem_map_of_mem hitem)

lemma AnsweredWell.of_adapterCalls {events : List Event} (h : AnsweredWell (adapterCalls events)) :
    AnsweredWell events := by
  intro event hevent
  exact h event (List.mem_filter.mpr ⟨hevent, (List.mem_filter.mp hevent).2⟩)

lemma plain_wrongType : Plain "stored allocation response has wrong type" := by decide

/-- A request with room for its answer is answered presentably and keeps the invariant. -/
theorem Reserves.answers (hj : Answerable j) (hreachable : Reachable sha256 j)
    (hrequest : request.Sendable) (hcalls : AnsweredWell calls)
    (hroom : ∀ row, j.allocation request.key = some row → row.state = .accepted →
      (row.serviceSet ++ request.missing row).length ≤ maxServices)
    {result : Except PyError ReserveResponse}
    (h : Reserves sha256 request senderUid j result j' calls) :
    Answerable j' ∧ Presentable (ReserveResponse.Sendable true) result := by
  have hbegun : Answerable (request.begun sha256 senderUid j) :=
    hj.putOperation (answers_begunRow _ _)
  have hsettled {row : AllocationRow} (hrow : j.allocation request.key = some row) : row.Settled :=
    settled_of_reachable hreachable hrow
  cases h with
  | conflicting row hrow hne => exact ⟨hj, plain_conflict⟩
  | replayed row result hrow hfingerprint hstate h =>
    exact ⟨hj, h.presentable hj hreachable hrequest.requestId hrow⟩
  | refused error hbegin h => exact ⟨hbegun, (refusal_of_beginAllocation h).plain⟩
  | reused row stored response hbegin hplan h =>
    have hsendable : response.Sendable true := by
      rcases hplan with ⟨hextends, -⟩ | hrecalls
      · rw [← hextends.response_eq] at h
        exact hj.sendable_of_stored hextends.allocation_eq (hsettled hextends.allocation_eq) h
      · rw [← hrecalls.response_eq] at h
        exact hj.sendable_of_stored hrecalls.allocation_eq (hsettled hrecalls.allocation_eq) h
    have hreply := hsendable.reply hrequest.requestId
    exact ⟨hbegun.putOperation fun _ => ⟨_, rfl, rfl, hreply⟩, hreply⟩
  | misread row stored error hbegin hplan h herror =>
    have hstored : ∃ response, some stored = some (responseToDict response) := by
      rcases hplan with ⟨hextends, -⟩ | hrecalls
      · exact (hsettled hextends.allocation_eq).exists_response hextends.response_eq
      · exact (hsettled hrecalls.allocation_eq).exists_response hrecalls.response_eq
    obtain ⟨response, hresponse⟩ := hstored
    rw [herror response hresponse]
    exact ⟨hbegun, plain_wrongType⟩
  | attempted job a hbegin hrestart hfor hfaultless j' hj' =>
    have hperm := sorted_perm request.serviceIds
    have hfits : ∀ s ∈ sorted request.serviceIds, TextFits s maxServiceId :=
      fun s hs => hrequest.services s (mem_sorted.mp hs)
    have hpresentable := Attempt.presentable hfor hfaultless hcalls.of_adapterCalls
      (hperm.nodup_iff.mpr hrequest.distinct) (hperm.length_eq ▸ hrequest.count) hfits
      hrequest.requestId
    exact ⟨hj.updated hj' (answers_operationAfter hpresentable)
      (answers_allocationAfter hpresentable) hrequest.canonicalJobId
      (Attempt.rowFits_of_mem_writes hfor hfaultless hfits), hpresentable⟩
  | extended job a row stored previous hbegin hextends hmissing hprevious hfor hfaultless j' hj' =>
    have hsublist : (request.missing row).Sublist (sorted request.serviceIds) :=
      List.filter_sublist
    have hfits : ∀ s ∈ request.missing row, TextFits s maxServiceId :=
      fun s hs => hrequest.services s (mem_sorted.mp (hsublist.subset hs))
    have hlength : (request.missing row).length ≤ maxServices :=
      hsublist.length_le.trans ((sorted_perm request.serviceIds).length_eq ▸ hrequest.count.2)
    have hattempt := Attempt.presentable hfor hfaultless hcalls.of_adapterCalls
      (missing_facts hrequest.distinct row).1 ⟨List.length_pos_iff.mpr hmissing, hlength⟩ hfits
      hrequest.requestId
    have hpresentable : Presentable (ReserveResponse.Sendable true)
        (extensionResult request previous (a.result request.requestId)) := by
      by_cases hstop : a.stop = none
      · have hread := hprevious hstop
        have hstored := hextends.response_eq
        have hsendable := hj.sendable_of_stored hextends.allocation_eq
          (hsettled hextends.allocation_eq) (hstored ▸ hread)
        simp only [Attempt.For, hstop] at hfor
        have hset := (sound_of_reachable hreachable request.key).accepted row
          hextends.allocation_eq hextends.state_eq
        rw [Attempt.result, hstop] at hattempt ⊢
        refine sendable_mergeExtension hset hstored hread hsendable hattempt rfl ?_
          (hroom row hextends.allocation_eq hextends.state_eq) hrequest.requestId
        rw [List.map_map]
        exact hfor
      · rw [extensionResult_of_stop hfor hstop]
        exact hattempt
    exact ⟨hj.updated hj' (answers_operationAfter hpresentable)
      (answers_extensionAfter (hj.allocations _ row hextends.allocation_eq) hextends.response_eq
        hpresentable) hrequest.canonicalJobId
      (Attempt.rowFits_of_mem_writes hfor hfaultless hfits), hpresentable⟩
  | stranded job a row stored error hbegin hextends hmissing hstop hprevious herror hfor j' hj' =>
    rw [← hextends.response_eq] at hprevious
    exact absurd hprevious
      (storedReserve_of_settled (hsettled hextends.allocation_eq) (.inl hextends.state_eq))

end Reserve

/-! ### Releases -/

section Release

variable {sha256 : Document → String} {request : ReleaseRequest} {senderUid : ℤ}
  {j j' : Journal} {calls : List Event}

lemma plain_disappeared : Plain "allocation disappeared before completion" := by decide

/-- The allocation of a pass has no stored reserve response. -/
lemma answers_releasedRow (unresolved : ReservationState → Bool) (row : AllocationRow)
    (response : ReleaseResponse) : (releasedRow unresolved row response).Answers := by
  intro other hother
  cases responseToDict_injective (Option.some.inj hother)

/-- The rows a pass writes fit. -/
lemma Passes.rowFits_of_mem_writes {key : AllocationKey} {visits : List Visit}
    (h : Passes (j.reservations key) visits) (hj : Answerable j) :
    ∀ write ∈ visits.flatMap Visit.writes, RowFits write := by
  intro write hwrite
  obtain ⟨v, hv, hwrite⟩ := List.mem_flatMap.mp hwrite
  exact Visit.rowFits_of_mem_writes (h.rowFits (hj.rows key) hv) write hwrite

/-- What a known release answers is presentable. -/
lemma ReplaysRelease.presentable (hj : Answerable j) {row : OperationRow}
    (hrow : j.operation (request.operationKey senderUid) = some row)
    {result : Except PyError ReleaseResponse} (h : ReplaysRelease row result) :
    Presentable ReleaseResponse.Sendable result := by
  cases h with
  | unfinished h => exact plain_releaseRecovery
  | unreadable error hstate h =>
    obtain ⟨response, hresponse, hkind, -⟩ := hj.operations _ row hrow hstate
    cases response with
    | release response => exact absurd hresponse (h response)
    | _ => cases hkind
  | stored value response hstate hvalue h =>
    obtain ⟨other, hother, -, hsendable⟩ := hj.operations _ row hrow hstate
    cases hvalue.symm.trans hother
    rw [responseFromDict_toDict] at h
    cases h
    exact hsendable

/-- A release with room for its answer keeps the invariant, and what it returns can be sent. -/
theorem Releases.answers (hj : Answerable j) (hrequest : request.Sendable)
    (hcalls : AnsweredWell calls)
    (hroom : ((j.reservations request.key).filter (·.reservationId ≠ none)).length ≤ maxServices)
    {result : Except PyError ReleaseResponse}
    (h : Releases sha256 request senderUid j result j' calls) :
    Answerable j' ∧ (Presentable ReleaseResponse.Sendable result ∨
      j.MayBegin (request.operationKey senderUid) (request.fingerprint sha256) ∧
        ∃ error, result = .error error) := by
  cases h with
  | conflicting row hrow hne => exact ⟨hj, .inl plain_conflict⟩
  | replayed row result hrow hfingerprint hstate h => exact ⟨hj, .inl (h.presentable hj hrow)⟩
  | unverified failure hbegin =>
    exact ⟨hj.putOperation (answers_begunRow _ _), .inr ⟨hbegin, _, rfl⟩⟩
  | unknown visits hbegin hpass hallocation j' hj' =>
    have hbegun : Answerable (j.putOperation (request.operationKey senderUid)
        (begunRow (request.fingerprint sha256))) := hj.putOperation (answers_begunRow _ _)
    rw [hj']
    exact ⟨hbegun.writeAll request.key (hpass.rowFits_of_mem_writes hj), .inl plain_disappeared⟩
  | released row visits hbegin hpass hallocation j' hj' =>
    have hsendable := hpass.sendable hcalls (hj.rows request.key) hrequest.requestId hroom
    exact ⟨hj.updated hj' (fun _ => ⟨_, rfl, rfl, hsendable⟩) (answers_releasedRow _ _ _)
      hrequest.canonicalJobId (hpass.rowFits_of_mem_writes hj), .inl hsendable⟩

/-- A `retry_release` keeps the invariant. -/
lemma Retries.answerable (hj : Answerable j) {result : Except PyError ReleaseResponse}
    (h : Retries request j result j' calls) : Answerable j' := by
  cases h with
  | unknown visits hpass hallocation j' hj' =>
    rw [hj']
    exact hj.writeAll request.key (hpass.rowFits_of_mem_writes hj)
  | retried row visits hpass hallocation j' hj' =>
    rw [hj']
    exact (hj.writeAll request.key (hpass.rowFits_of_mem_writes hj)).putAllocation
      (answers_releasedRow _ _ _) (hj.jobs request.key row hallocation)

end Release

/-! ### Evaluations -/

section Evaluate

variable {sha256 : Document → String} {request : ReserveRequest} {senderUid : ℤ}
  {job : VerifiedJob} {j j' : Journal} {calls : List Event}

/-- What a known evaluation answers is presentable. -/
lemma ReplaysEvaluate.presentable (hj : Answerable j) {row : OperationRow}
    (hrow : j.operation (request.operationKey .evaluate senderUid) = some row)
    {result : Except PyError EvaluateResponse} (h : ReplaysEvaluate row result) :
    Presentable (fun response => response.toReserveResponse.Sendable false) result := by
  cases h with
  | unfinished h => exact plain_evaluateRecovery
  | unreadable error hstate h =>
    obtain ⟨response, hresponse, hkind, -⟩ := hj.operations _ row hrow hstate
    cases response with
    | evaluate response => exact absurd hresponse (h response)
    | _ => cases hkind
  | stored value response hstate hvalue h =>
    obtain ⟨other, hother, -, hsendable⟩ := hj.operations _ row hrow hstate
    cases hvalue.symm.trans hother
    rw [responseFromDict_toDict] at h
    cases h
    exact hsendable

/-- An evaluation is answered presentably and keeps the invariant. -/
theorem Polls.answers (hj : Answerable j) (hrequest : request.Sendable)
    (hcalls : AnsweredWell calls) {result : Except PyError EvaluateResponse}
    (h : Polls sha256 request senderUid job j result j' calls) :
    Answerable j' ∧
      Presentable (fun response => response.toReserveResponse.Sendable false) result := by
  cases h with
  | conflicting row hrow hne => exact ⟨hj, plain_conflict⟩
  | replayed row result hrow hfingerprint hstate h => exact ⟨hj, h.presentable hj hrow⟩
  | evaluated outcome calls hbegin h =>
    have hpresentable := h.presentable_response hcalls hrequest
    refine ⟨(hj.putOperation (answers_begunRow _ _)).putOperation fun hcomplete => ?_, hpresentable⟩
    cases outcome with
    | error error => cases hcomplete
    | ok results => exact ⟨.evaluate (evaluateResponse request results), rfl, rfl, hpresentable⟩

end Evaluate

/-! ### Lookups -/

section Lookup

variable {j : Journal}

lemma plain_notAccepted (state : String) :
    Plain s!"allocation state is {reprText state}, not accepted" := by
  have hopening : Plain "allocation state is " := by decide
  have hending : '\x00' ∉ ", not accepted".toList := by decide +kernel
  exact (hopening.append (plain_reprText state).noNul).append hending

/-- The texts of `reservation_context` are plain. -/
lemma plain_of_reservationContext {key : AllocationKey} {jobUid jobGid : ℤ} {error : PyError}
    (h : j.reservationContext key jobUid jobGid = .error error) : Plain error.message := by
  unfold Journal.reservationContext at h
  split at h
  · cases h
    decide +kernel
  · next row hrow =>
    split_ifs at h with hidentity hreleased hstate
    · cases h
      decide +kernel
    · cases h
      decide +kernel
    · cases h
      exact plain_notAccepted row.state.text
    · unfold Journal.checkContext at h
      dsimp only at h
      split_ifs at h <;> cases h <;> decide +kernel

/-- Reservations that are the services and ids of results that can be sent. -/
lemma sendable_of_pairs {requestId canonicalJobId : ℤ} {reservations : List Reservation}
    {response : ReserveResponse} (hresponse : response.Sendable true)
    (hpairs : reservations.map (fun item => (item.serviceId, some item.reservationId)) =
      response.results.map ServiceResult.pair)
    (hid : Positive 64 requestId) (hjob : Positive 64 canonicalJobId) :
    (GetReservationsResponse.mk requestId canonicalJobId reservations).Sendable where
  requestId := hid
  canonicalJobId := hjob
  count := by
    have hlength : reservations.length = response.results.length := by
      simpa using congrArg List.length hpairs
    exact hlength ▸ hresponse.count
  distinct := by
    have hnames : reservations.map Reservation.serviceId =
        response.results.map ServiceResult.serviceId := by
      simpa [List.map_map, Function.comp_def, ServiceResult.pair] using
        congrArg (List.map Prod.fst) hpairs
    exact hnames ▸ hresponse.distinct
  reservations := by
    intro item hitem
    have hmem : (item.serviceId, some item.reservationId) ∈
        response.results.map ServiceResult.pair :=
      hpairs ▸ List.mem_map_of_mem hitem
    obtain ⟨result, hresult, heq⟩ := List.mem_map.mp hmem
    have hsendable := hresponse.results result hresult
    obtain ⟨hservice, hreservation⟩ := Prod.mk.inj heq
    exact ⟨hservice ▸ hsendable.serviceId, hsendable.reservationId _ hreservation⟩

/-- The answer to a lookup can be sent. -/
theorem sendable_lookup (sha256 : Document → String) (hj : Answerable j)
    (hreachable : Reachable sha256 j) {request : GetReservationsRequest}
    (hrequest : request.Sendable) (senderUid : ℤ) {oracle : Oracle} (horacle : oracle.WellFormed) :
    (serve sha256 j (.getReservations request) senderUid oracle).1.Sendable := by
  rcases serve_lookup_cases sha256 j request senderUid oracle with
    ⟨failure, hfailure, hresponse⟩ | ⟨job, error, hcontext, hresponse⟩ |
    ⟨job, records, -, hcontext, hresponse⟩
  · have hplain := horacle 0 (.verifyLookup request senderUid)
    rw [hfailure] at hplain
    rw [hresponse]
    exact sendable_lookupError hrequest.requestId hplain
  · rw [hresponse]
    exact sendable_lookupError hrequest.requestId (plain_of_reservationContext hcontext)
  · obtain ⟨row, stored, response, hrow, -, hstored, hread, -, hpairs, hrecords⟩ :=
      (sound_of_reachable hreachable _).guarded.context hcontext
    have hstoredReserve : storedReserve row.responseJson = some response := by
      rw [hstored]
      simp [storedReserve, hread, Response.asReserve]
    have hids := pairs_of_records fun item hitem => by
      obtain ⟨-, -, -, -, hid⟩ := hrecords item hitem
      exact hid
    rw [hresponse]
    exact sendable_of_pairs
      (hj.sendable_of_stored hrow (settled_of_reachable hreachable hrow) hstoredReserve)
      (hids.trans hpairs) hrequest.requestId (hj.jobs _ row hrow)

end Lookup

/-! ### Steps -/

/-- The request is one `decode_request` can return, and the surroundings answer well. -/
def Step.WellFormed : Step → Prop
  | .handle request _ _ oracle =>
    (CodecMessage.ofRequest request).WithinBounds ∧ oracle.WellFormed
  | .retry _ oracle => oracle.WellFormed

/-- The answer has room for the results: the set that an accepted one would be extended to has at
most 32 services, and at most 32 rows with a reservation id are released. -/
def Step.HasRoom (j : Journal) : Step → Prop
  | .handle (.reserve request) _ _ _ =>
    ∀ row ∈ j.allocation request.key, row.state = .accepted →
      (row.serviceSet ++ request.missing row).length ≤ maxServices
  | .handle (.release request) _ _ _ =>
    ((j.reservations request.key).filter (·.reservationId ≠ none)).length ≤ maxServices
  | _ => True

instance (j : Journal) (step : Step) : Decidable (step.HasRoom j) := by
  unfold Step.HasRoom
  split <;> infer_instance

section Steps

variable {sha256 : Document → String} {j : Journal} (hj : Answerable j)
  (hreachable : Reachable sha256 j)

include hj hreachable in
/-- A reserve request with room for its answer. -/
lemma serve_reserve_answers {request : ReserveRequest} (valid : (Request.reserve request).Valid)
    (hrequest : request.Sendable) {senderUid : ℤ} {oracle : Oracle} (horacle : oracle.WellFormed)
    (hroom : (Step.handle (.reserve request) valid senderUid oracle).HasRoom j) :
    Answerable (serve sha256 j (.reserve request) senderUid oracle).2.state ∧
      (serve sha256 j (.reserve request) senderUid oracle).1.Sendable := by
  have hanswers : Answerable (serve sha256 j (.reserve request) senderUid oracle).2.state ∧
      Presentable (ReserveResponse.Sendable true)
        (reserveResult sha256 j request senderUid oracle) := by
    cases hverdict : oracle 0 (.verifyReserve request senderUid) with
    | ok job =>
      refine (reserves_serve sha256 j valid hverdict).answers hj hreachable hrequest ?_ hroom
      intro event hevent
      exact horacle.answers _ _ event (List.mem_filter.mp hevent).1
    | error failure =>
      have hplain := horacle 0 (.verifyReserve request senderUid)
      rw [hverdict] at hplain
      obtain ⟨hresult, hworld⟩ := serve_unverified sha256 j hverdict
      rw [hresult, hworld]
      exact ⟨hj, hplain⟩
  refine ⟨hanswers.1, ?_⟩
  rw [serve_reserve_response]
  cases hresult : reserveResult sha256 j request senderUid oracle with
  | ok response =>
    rw [hresult] at hanswers
    exact hanswers.2
  | error error =>
    rw [hresult] at hanswers
    exact sendable_operationError hrequest.requestId hanswers.2 (by decide)

include hj in
/-- An evaluate request. -/
lemma serve_evaluate_answers {request : EvaluateRequest}
    (hrequest : request.toReserveRequest.Sendable) {senderUid : ℤ} {oracle : Oracle}
    (horacle : oracle.WellFormed) :
    Answerable (serve sha256 j (.evaluate request) senderUid oracle).2.state ∧
      (serve sha256 j (.evaluate request) senderUid oracle).1.Sendable := by
  cases hverdict : oracle 0 (.verifyReserve request.toReserveRequest senderUid) with
  | error failure =>
    have hplain := horacle 0 (.verifyReserve request.toReserveRequest senderUid)
    rw [hverdict] at hplain
    rw [evaluate_unverified hverdict]
    exact ⟨hj, sendable_operationError hrequest.requestId hplain (by decide)⟩
  | ok job =>
    have hcalls : AnsweredWell (adapterCalls
        (serve sha256 j (.evaluate request) senderUid oracle).2.trace) :=
      fun event hevent => horacle.answers _ _ event (List.mem_filter.mp hevent).1
    obtain ⟨hnext, hpresentable⟩ := (polls_serve hverdict).answers hj hrequest hcalls
    refine ⟨hnext, ?_⟩
    rw [serve_evaluate_response]
    cases hresult : evaluateResult sha256 j request senderUid oracle with
    | ok response =>
      rw [hresult] at hpresentable
      exact hpresentable
    | error error =>
      rw [hresult] at hpresentable
      exact sendable_operationError hrequest.requestId hpresentable (by decide)

include hj in
/-- A release request with room for its answer. -/
lemma serve_release_answers {request : ReleaseRequest} (valid : (Request.release request).Valid)
    (hrequest : request.Sendable) {senderUid : ℤ} {oracle : Oracle} (horacle : oracle.WellFormed)
    (hroom : (Step.handle (.release request) valid senderUid oracle).HasRoom j) :
    Answerable (serve sha256 j (.release request) senderUid oracle).2.state ∧
      (serve sha256 j (.release request) senderUid oracle).1.Sendable := by
  by_cases hunverified : j.MayBegin (request.operationKey senderUid) (request.fingerprint sha256) ∧
      ∃ failure, oracle 2 (request.verification senderUid j) = .error failure
  · obtain ⟨hbegin, failure, hfailure⟩ := hunverified
    have hplain := horacle 2 (request.verification senderUid j)
    rw [hfailure] at hplain
    obtain ⟨hresponse, hstate, -⟩ := serve_release_unverified hbegin hfailure
    rw [hresponse, hstate]
    exact ⟨hj.putOperation (answers_begunRow _ _), sendable_releaseError hrequest.requestId hplain⟩
  have hcalls : AnsweredWell (adapterCalls (Procedure.exec (surroundings oracle noFaults)
      (releaseTry sha256 request senderUid) ⟨j, []⟩).2.trace) :=
    fun event hevent => horacle.answers _ _ event (List.mem_filter.mp hevent).1
  have hend := (exec_releaseTry oracle sha256 request senderUid ⟨j, []⟩).of_nil
  obtain ⟨hnext, hresult⟩ := hend.answers hj hrequest hcalls hroom
  have hpresentable : Presentable ReleaseResponse.Sendable (Procedure.exec
      (surroundings oracle noFaults) (releaseTry sha256 request senderUid) ⟨j, []⟩).1 := by
    rcases hresult with hresult | ⟨hbegin, error, herror⟩
    · exact hresult
    · -- the request is verified, so the allocation is missing
      cases hverdict : oracle 2 (request.verification senderUid j) with
      | error failure => exact absurd ⟨hbegin, failure, hverdict⟩ hunverified
      | ok job =>
        have hverified := (exec_releaseTry_verified oracle sha256 request senderUid ⟨j, []⟩ hbegin
          hverdict).of_nil
        rw [herror, hverified.2 error herror]
        exact plain_disappeared
  rw [serve, handle, release, run_answer]
  refine ⟨hnext, ?_⟩
  revert hpresentable
  cases (Procedure.exec (surroundings oracle noFaults) (releaseTry sha256 request senderUid)
    ⟨j, []⟩).1 with
  | ok response => exact id
  | error error => exact fun hplain => sendable_releaseError hrequest.requestId hplain

include hj hreachable in
/-- A well-formed step with room for its answer keeps the invariant. -/
theorem Step.answerable {step : Step} (hstep : step.WellFormed) (hroom : step.HasRoom j) :
    Answerable (step.next sha256 j) := by
  match step, hstep, hroom with
  | .handle (.evaluate request) _ _ _, hstep, _ =>
    exact (serve_evaluate_answers hj hstep.1.2 hstep.2).1
  | .handle (.reserve request) valid _ _, hstep, hroom =>
    exact (serve_reserve_answers hj hreachable valid hstep.1.2 hstep.2 hroom).1
  | .handle (.release request) valid _ _, hstep, hroom =>
    exact (serve_release_answers hj valid hstep.1 hstep.2 hroom).1
  | .handle (.getReservations request) _ senderUid oracle, _, _ =>
    rw [Step.next, Step.world, (lookup_serve sha256 j request senderUid oracle).1]
    exact hj
  | .retry request oracle, _, _ =>
    obtain ⟨result, h⟩ := retries_step sha256 j request oracle
    exact h.answerable hj

include hj hreachable in
/-- The answer to a well-formed request with room for it can be sent. -/
theorem sendable_serve {request : Request} {valid : request.Valid} {senderUid : ℤ} {oracle : Oracle}
    (hstep : (Step.handle request valid senderUid oracle).WellFormed)
    (hroom : (Step.handle request valid senderUid oracle).HasRoom j) :
    (serve sha256 j request senderUid oracle).1.Sendable := by
  cases request with
  | evaluate request => exact (serve_evaluate_answers hj hstep.1.2 hstep.2).2
  | reserve request => exact (serve_reserve_answers hj hreachable valid hstep.1.2 hstep.2 hroom).2
  | release request => exact (serve_release_answers hj valid hstep.1 hstep.2 hroom).2
  | getReservations request => exact sendable_lookup sha256 hj hreachable hstep.1 senderUid hstep.2

end Steps

/-! ### Runs -/

/-- A run of well-formed steps with room for their answers leaves a journal whose answers can be
sent. -/
theorem answerable_journalAfter (sha256 : Document → String) {steps : List Step}
    (h : Meets (Step.next sha256) (fun j step => step.WellFormed ∧ step.HasRoom j) Journal.empty
      steps) : Answerable (journalAfter sha256 Journal.empty steps) := by
  refine (after_invariant_of_meets (Step.next sha256)
    (fun j => Reachable sha256 j ∧ Answerable j) (fun j step hj hstep => ?_)
    ⟨⟨[], rfl⟩, answerable_empty⟩ h).2
  exact ⟨hj.1.step step, Step.answerable hj.2 hj.1 hstep.1 hstep.2⟩

/-- In a run from an empty journal whose steps are well formed and have room for their answers,
`encode_response` accepts every answer. -/
theorem encodes_every_answer (sha256 : Document → String) (steps : List Step) (request : Request)
    (valid : request.Valid) (senderUid : ℤ) (oracle : Oracle)
    (h : Meets (Step.next sha256) (fun j step => step.WellFormed ∧ step.HasRoom j) Journal.empty
      (steps ++ [Step.handle request valid senderUid oracle]))
    (correlationId : ℤ) (hcorrelation : Positive 64 correlationId) :
    ∃ bytes, encodeResponse (serve sha256 (journalAfter sha256 Journal.empty steps) request
      senderUid oracle).1 correlationId = .ok bytes := by
  obtain ⟨hstep, hroom⟩ := Meets.last _ h
  exact encodeResponse_ok_iff.mpr
    ⟨sendable_serve (answerable_journalAfter sha256 (Meets.of_append _ h)) ⟨steps, rfl⟩ hstep hroom,
      hcorrelation⟩

/-- The services of a full set. -/
def sampleServices : List String :=
  (List.range 32).map fun n => String.singleton (Char.ofNat (65 + n))

lemma obliging_wellFormed : obliging.WellFormed := by
  intro n c
  cases c with
  | resolve serviceId => exact ⟨by decide +kernel, by decide⟩
  | evaluate binding request job => exact ⟨by decide, nofun, nofun, nofun, nofun⟩
  | reserve binding request job => exact ⟨by decide, nofun, nofun, nofun, nofun⟩
  | _ => trivial

lemma sendable_sampleReserve (requestId : ℤ) (serviceIds : List String)
    (h : (Request.reserve (sampleReserve requestId serviceIds)).Valid) (senderUid : ℤ) :
    (Step.handle (.reserve (sampleReserve requestId serviceIds)) h senderUid obliging).WellFormed :=
  ⟨⟨h.1, validateReserveRequest_eq_ok_iff.mp h.2⟩, obliging_wellFormed⟩

lemma valid_sampleComponents : (Request.reserve (sampleReserve 1 ["qpm-a"])).Valid ∧
    (Request.reserve (sampleReserve 2 ["qpm-b"])).Valid := by
  decide +kernel

/-- Two components of a job extend one set, and the combined answer is encoded. -/
theorem encodes_every_answer_sample :
    ∃ bytes, encodeResponse (serve sampleDigest (journalAfter sampleDigest Journal.empty
      [.handle _ valid_sampleComponents.1 1000 obliging])
      (.reserve (sampleReserve 2 ["qpm-b"])) 1000 obliging).1 9 = .ok bytes := by
  refine encodes_every_answer sampleDigest [.handle _ valid_sampleComponents.1 1000 obliging] _
    valid_sampleComponents.2 1000 obliging
    ⟨⟨sendable_sampleReserve _ _ _ _, by decide⟩, ⟨sendable_sampleReserve _ _ _ _, ?_⟩, trivial⟩
    9 (by decide)
  decide +kernel

/-- Thirty-two services are reserved, and one more by another component: the combined answer has 33
results, and `encode_response` refuses it. -/
theorem combined_answer_refused :
    ∃ (valid : (Request.reserve (sampleReserve 1 sampleServices)).Valid)
      (more : (Request.reserve (sampleReserve 2 ["qpm"])).Valid),
      (Step.handle _ valid 1000 obliging).WellFormed ∧
      (Step.handle _ more 1000 obliging).WellFormed ∧
      ∃ error, encodeResponse (serve sampleDigest (journalAfter sampleDigest Journal.empty
        [.handle _ valid 1000 obliging]) (.reserve (sampleReserve 2 ["qpm"])) 1000 obliging).1 9 =
          .error error := by
  refine ⟨by decide +kernel, by decide +kernel, sendable_sampleReserve _ _ _ _,
    sendable_sampleReserve _ _ _ _, protocolError "reserve response result count is invalid", ?_⟩
  decide +kernel

end QfwSlurm
