import QfwSlurm.Gateway.Answered
import QfwSlurm.Gateway.Polls

/-!
# Stored answers and the requests they are for

A repeated request is answered from the journal, by its fingerprint.  As long as the digest tells
the request from the other ones of a run, what the journal holds under its fingerprints is about
this request: an accepted answer names all its services, one that was not accepted names no others
(`answersFor_journalAfter`), and a stored evaluation is one of exactly its services
(`evaluatedFor_journalAfter`).
-/

namespace QfwSlurm

open Interaction

/-! ### Requests told apart -/

/-- The digest tells the documents of the other request from those of this one. -/
structure FingerprintsApart (sha256 : Document → String) (request other : ReserveRequest) :
    Prop where
  request_eq : sha256 (.request other) = sha256 (.request request) → other = request
  allocation_eq : sha256 (allocationDocument other) = sha256 (allocationDocument request) →
    allocationDocument other = allocationDocument request

/-- The evaluate or reserve request of a step. -/
def Step.admission : Step → Option ReserveRequest
  | .handle (.evaluate request) _ _ _ => some request.toReserveRequest
  | .handle (.reserve request) _ _ _ => some request
  | _ => none

/-- The digest tells the request from every evaluate or reserve request of the step. -/
def Step.ToldFrom (sha256 : Document → String) (request : ReserveRequest) (step : Step) : Prop :=
  ∀ other, step.admission = some other → FingerprintsApart sha256 request other

lemma FingerprintsApart.mem_iff {sha256 : Document → String} {request other : ReserveRequest}
    (h : FingerprintsApart sha256 request other)
    (hdigest : sha256 (allocationDocument other) = sha256 (allocationDocument request))
    {s : String} : s ∈ other.serviceIds ↔ s ∈ request.serviceIds := by
  have hsorted : sorted other.serviceIds = sorted request.serviceIds :=
    (Document.allocation.inj (h.allocation_eq hdigest)).2.2.2.2.2
  rw [← mem_sorted, hsorted, mem_sorted]

/-! ### Answers to a reserve request -/

/-- The services that a response names. -/
def ReserveResponse.names (response : ReserveResponse) : List String :=
  response.results.map ServiceResult.serviceId

/-- The response answers the request: it names all requested services if it is accepted, and no
others if it is not. -/
structure AnswersTo (request : ReserveRequest) (response : ReserveResponse) : Prop where
  accepted : response.decision = .accepted → ∀ s ∈ request.serviceIds, s ∈ response.names
  declined : response.decision ≠ .accepted → ∀ s ∈ response.names, s ∈ request.serviceIds

/-- What the journal holds under the fingerprints of the request answers the request. -/
structure AnswersFor (sha256 : Document → String) (request : ReserveRequest) (j : Journal) :
    Prop where
  operation : ∀ k row response, k.operation = .reserve → j.operation k = some row →
    row.fingerprint = request.fingerprint sha256 →
    storedReserve row.responseJson = some response → AnswersTo request response
  allocation : ∀ key row response, j.allocation key = some row →
    row.requestFingerprint = sha256 (allocationDocument request) →
    storedReserve row.responseJson = some response → response.decision ≠ .accepted →
    ∀ s ∈ response.names, s ∈ request.serviceIds

section Attempts

variable {request : ReserveRequest} {a : Attempt} {serviceIds : List String} {requestId : ℤ}
  {response : ReserveResponse}

/-- An attempt answers for the services up to the one that stopped it. -/
lemma Attempt.names_prefix (hfor : a.For serviceIds) (h : a.result requestId = .ok response) :
    response.names <+: serviceIds ∧
      (response.decision = .accepted → response.names = serviceIds) := by
  cases hstop : a.stop with
  | none =>
    simp only [Attempt.For, hstop] at hfor
    rw [Attempt.result, hstop] at h
    cases h
    have hnames : ReserveResponse.names ⟨requestId, .accepted, a.grants.map Grant.result⟩ =
        serviceIds := by
      rw [ReserveResponse.names, List.map_map, ← hfor]
      rfl
    exact ⟨hnames ▸ List.prefix_rfl, fun _ => hnames⟩
  | some stop =>
    have hdecision : response.decision ≠ .accepted := by
      intro haccepted
      cases hstop.symm.trans ((Attempt.accepted_iff hfor requestId).mp ⟨response, h, haccepted⟩)
    refine ⟨?_, fun haccepted => absurd haccepted hdecision⟩
    simp only [Attempt.For, hstop] at hfor
    obtain ⟨⟨rest, hrest⟩, -⟩ := hfor
    simp only [Attempt.result, hstop, Stop.result] at h
    split_ifs at h
    cases hc : stop.contact with
    | answered qpm reply =>
      rw [hc] at h
      cases h
      refine ⟨rest, ?_⟩
      rw [hrest, ReserveResponse.names, List.map_append, List.map_map, List.append_assoc]
      rfl
    | _ => simp [Contact.conclusion, Contact.outcome, hc] at h

/-- An attempt at the services of a request answers the request. -/
lemma Attempt.answersTo (hfor : a.For (sorted request.serviceIds))
    (h : a.result requestId = .ok response) : AnswersTo request response where
  accepted := by
    intro hdecision s hs
    rw [(Attempt.names_prefix hfor h).2 hdecision]
    exact mem_sorted.mpr hs
  declined := by
    intro _ s hs
    exact mem_sorted.mp ((Attempt.names_prefix hfor h).1.subset hs)

/-- An attempt at the services that a set lacks answers the request together with the set. -/
lemma Attempt.answersTo_extension {row : AllocationRow} {previous : ReserveResponse}
    (hfor : a.For (request.missing row))
    (hprevious : a.stop = none → previous.names = row.serviceSet)
    (h : extensionResult request previous (a.result requestId) = .ok response) :
    AnswersTo request response := by
  cases hresult : a.result requestId with
  | error error =>
    rw [hresult] at h
    cases h
  | ok answer =>
    rw [hresult, extensionResult] at h
    obtain ⟨hstart, hall⟩ := Attempt.names_prefix hfor hresult
    split_ifs at h with hdecision
    · cases h
      have hstop := (Attempt.accepted_iff hfor requestId).mp ⟨answer, hresult, hdecision⟩
      refine ⟨fun _ s hs => ?_, fun hnot => absurd rfl hnot⟩
      have hmem : s ∈ previous.names ++ answer.names := by
        rw [hprevious hstop, hall hdecision, List.mem_append]
        by_cases hset : s ∈ row.serviceSet
        · exact .inl hset
        · exact .inr (List.mem_filter.mpr ⟨mem_sorted.mpr hs, by simpa using hset⟩)
      have hperm := (List.perm_insertionSort
        (fun a b : ServiceResult => a.serviceId ≤ b.serviceId)
        (previous.results ++ answer.results)).map ServiceResult.serviceId
      rw [List.map_append] at hperm
      exact hperm.mem_iff.mpr hmem
    · cases h
      refine ⟨fun haccepted => absurd haccepted hdecision, fun _ s hs => ?_⟩
      exact mem_sorted.mp (List.mem_filter.mp (hstart.subset hs)).1

end Attempts

section Stored

variable {sha256 : Document → String} {request other : ReserveRequest} {j j' : Journal}
  {calls : List Event}

/-- The stored response of an accepted set names the set. -/
lemma AcceptedSet.names_eq {key : AllocationKey} {row : AllocationRow} (h : AcceptedSet j key row)
    {response : ReserveResponse} (hread : storedReserve row.responseJson = some response) :
    response.names = row.serviceSet := by
  obtain ⟨stored, found, hstored, hfound, -, hpairs⟩ := h.storedResponse
  obtain rfl : found = response := Option.some.inj (hfound.symm.trans (hstored ▸ hread))
  have hnames := congrArg (List.map Prod.fst) hpairs
  rw [List.map_map, List.map_map] at hnames
  exact hnames.trans (List.map_id _)

/-- What a first attempt leaves in the allocation is about the request of the attempt. -/
lemma names_of_allocationAfter {a : Attempt} (hfor : a.For (sorted other.serviceIds))
    {response : ReserveResponse}
    (hread : storedReserve (allocationAfter sha256 other (a.result other.requestId)).responseJson =
      some response) : ∀ s ∈ response.names, s ∈ other.serviceIds := by
  cases hresult : a.result other.requestId with
  | ok answer =>
    rw [hresult, allocationAfter, allocationOutcome, storedReserve_reserve] at hread
    cases hread
    intro s hs
    exact mem_sorted.mp ((Attempt.names_prefix hfor hresult).1.subset hs)
  | error error =>
    obtain ⟨failure, hfailure⟩ := operationError_eq "reserve" other.requestId error
    by_cases hclass : error.errorClass = .rollbackIncomplete
    · simp [hresult, allocationAfter, allocationOutcome, hclass, storedReserve] at hread
    · simp [hresult, allocationAfter, allocationOutcome, hclass, failureJson, hfailure] at hread

/-- What is left in the operation is what was returned. -/
lemma answersTo_operationAfter {result : Except PyError ReserveResponse}
    (hresult : ∀ response, result = .ok response → AnswersTo other response)
    {response : ReserveResponse}
    (hread : storedReserve (operationAfter sha256 other result).responseJson = some response) :
    AnswersTo other response := by
  cases result with
  | ok answer =>
    rw [operationAfter, operationOutcome, storedReserve_reserve] at hread
    exact Option.some.inj hread ▸ hresult answer rfl
  | error error =>
    obtain ⟨failure, hfailure⟩ := operationError_eq "reserve" other.requestId error
    by_cases hclass : error.errorClass = .rollbackIncomplete
    · simp [operationAfter, operationOutcome, hclass, storedReserve] at hread
    · simp [operationAfter, operationOutcome, hclass, failureJson, hfailure] at hread

/-- An extension leaves an accepted response in the allocation. -/
lemma decision_of_extensionAfter {row : AllocationRow} {stored : Json}
    (hstored : ∀ response, storedReserve (some stored) = some response →
      response.decision = .accepted)
    (result : Except PyError ReserveResponse) {response : ReserveResponse}
    (hread : storedReserve (extensionAfter sha256 other row stored result).responseJson =
      some response) : response.decision = .accepted := by
  cases result with
  | error error => exact hstored response hread
  | ok answer =>
    rw [extensionAfter] at hread
    split_ifs at hread with hdecision
    · rw [storedReserve_reserve] at hread
      exact Option.some.inj hread ▸ hdecision
    · exact hstored response hread

/-- The response of an accepted allocation is accepted. -/
lemma decision_of_accepted {row : AllocationRow} (hrow : row.Settled)
    (hstate : row.state = .accepted) {response : ReserveResponse}
    (hread : storedReserve row.responseJson = some response) : response.decision = .accepted := by
  simp only [AllocationRow.Settled, hstate] at hrow
  obtain ⟨found, hfound, hstored⟩ := hrow
  rw [hstored, storedReserve_reserve] at hread
  exact Option.some.inj hread ▸ hfound

/-- A reserve request is answered, unless it is a repeated one about an accepted set. -/
lemma Reserves.answersTo {senderUid : ℤ} (hreachable : Reachable sha256 j)
    (hj : AnswersFor sha256 request j) {result : Except PyError ReserveResponse}
    (h : Reserves sha256 request senderUid j result j' calls)
    (hset : ∀ row, j.allocation request.key = some row → row.state = .accepted →
      j.MayBegin (request.reserveKey senderUid) (request.fingerprint sha256))
    {response : ReserveResponse} (hresult : result = .ok response) :
    AnswersTo request response := by
  have hsound := sound_of_reachable hreachable request.key
  cases h with
  | replayed row result hrow hfingerprint hstate h =>
    cases h with
    | settled stored hcomplete hread hd =>
      cases hresult
      exact hj.operation _ _ _ rfl hrow hfingerprint hread
    | gone stored hcomplete hread hd hallocation =>
      cases hresult
      exact hj.operation _ _ _ rfl hrow hfingerprint hread
    | current stored now value hcomplete hread hd hallocation hnow =>
      obtain ⟨allocation, hallocation, haccepted, -⟩ := accepted_of_some hallocation
      exact absurd (hset allocation hallocation haccepted row hrow).2 hstate
    | _ => cases hresult
  | reused row stored answer hbegin hplan hread =>
    cases hresult
    rcases hplan with ⟨hextends, hmissing⟩ | hrecalls
    · have haccepted := hsound.accepted row hextends.allocation_eq hextends.state_eq
      have hsettled := settled_of_reachable hreachable hextends.allocation_eq
      rw [← hextends.response_eq] at hread
      refine ⟨fun _ s hs => ?_, fun hnot => ?_⟩
      · have hnames : s ∈ answer.names := by
          rw [haccepted.names_eq hread]
          by_contra hset
          have hlacks : s ∈ request.missing row :=
            List.mem_filter.mpr ⟨mem_sorted.mpr hs, by simpa using hset⟩
          rw [hmissing] at hlacks
          cases hlacks
        exact hnames
      · exact absurd (decision_of_accepted hsettled hextends.state_eq hread) hnot
    · have hsettled := settled_of_reachable hreachable hrecalls.allocation_eq
      have hdecision := hrecalls.decision_eq hsettled hread
      rw [← hrecalls.response_eq] at hread
      have hnames := hj.allocation _ _ _ hrecalls.allocation_eq hrecalls.fingerprint_eq hread
        (by rw [hdecision]; decide)
      refine ⟨fun haccepted => ?_, fun _ => hnames⟩
      cases hdecision.symm.trans haccepted
  | attempted job a hbegin hrestart hfor hfaultless j' hj' => exact Attempt.answersTo hfor hresult
  | extended job a row stored previous hbegin hextends hmissing hprevious hfor hfaultless j' hj' =>
    refine Attempt.answersTo_extension hfor (fun hstop => ?_) hresult
    exact (hsound.accepted row hextends.allocation_eq hextends.state_eq).names_eq
      (hextends.response_eq ▸ hprevious hstop)
  | _ => cases hresult

/-- A reserve request leaves in its operation what it was answered. -/
lemma Reserves.operation_answersTo {senderUid : ℤ} (hreachable : Reachable sha256 j)
    (hj : AnswersFor sha256 request j) {result : Except PyError ReserveResponse}
    (h : Reserves sha256 request senderUid j result j' calls)
    {row : OperationRow} (hrow : j'.operation (request.reserveKey senderUid) = some row)
    (hfingerprint : row.fingerprint = request.fingerprint sha256) {response : ReserveResponse}
    (hread : storedReserve row.responseJson = some response) : AnswersTo request response := by
  by_cases hbegin : j.MayBegin (request.reserveKey senderUid) (request.fingerprint sha256)
  swap
  · rw [(h.eq_of_not_mayBegin hbegin).1] at hrow
    exact hj.operation _ _ _ rfl hrow hfingerprint hread
  have hanswers : ∀ response, result = .ok response → AnswersTo request response :=
    fun response hresult => h.answersTo hreachable hj (fun _ _ _ => hbegin) hresult
  cases h with
  | conflicting other hother hne => exact absurd (hbegin other hother).1 hne
  | replayed other result hother hsame hstate h => exact absurd (hbegin other hother).2 hstate
  | reused old stored answer hbegin hplan h =>
    rw [Journal.operation_putOperation_self] at hrow
    cases hrow
    rw [storedReserve_reserve] at hread
    exact hanswers response (congrArg Except.ok (Option.some.inj hread))
  | attempted job a hbegin hrestart hfor hfaultless j' hj' =>
    rw [hj'.operation_eq, if_pos rfl] at hrow
    cases hrow
    exact answersTo_operationAfter hanswers hread
  | extended job a old stored previous hbegin hextends hm hp hfor hfaultless j' hj' =>
    rw [hj'.operation_eq, if_pos rfl] at hrow
    cases hrow
    exact answersTo_operationAfter hanswers hread
  | stranded job a old stored error hbegin hextends hm hs hp he hfor j' hj' =>
    rw [hj'.operation_eq, if_pos rfl] at hrow
    cases hrow
    cases hread
  | _ =>
    rw [ReserveRequest.begun, Journal.operation_putOperation_self] at hrow
    cases hrow
    cases hread

/-- A reserve request that is told apart leaves in its allocation what is about this request. -/
lemma Reserves.allocation_names {senderUid : ℤ} (hreachable : Reachable sha256 j)
    (hapart : FingerprintsApart sha256 request other) (hj : AnswersFor sha256 request j)
    {result : Except PyError ReserveResponse}
    (h : Reserves sha256 other senderUid j result j' calls) {row : AllocationRow}
    (hrow : j'.allocation other.key = some row)
    (hfingerprint : row.requestFingerprint = sha256 (allocationDocument request))
    {response : ReserveResponse} (hread : storedReserve row.responseJson = some response)
    (hdecision : response.decision ≠ .accepted) : ∀ s ∈ response.names, s ∈ request.serviceIds := by
  cases h with
  | attempted job a hbegin hrestart hfor hfaultless j' hj' =>
    rw [hj'.allocation_eq, if_pos rfl] at hrow
    cases hrow
    intro s hs
    exact (hapart.mem_iff hfingerprint).mp (names_of_allocationAfter hfor hread s hs)
  | extended job a old stored previous hbegin hextends hm hp hfor hfaultless j' hj' =>
    rw [hj'.allocation_eq, if_pos rfl] at hrow
    cases hrow
    refine absurd (decision_of_extensionAfter (fun found hfound => ?_) _ hread) hdecision
    exact decision_of_accepted (settled_of_reachable hreachable hextends.allocation_eq)
      hextends.state_eq (hextends.response_eq ▸ hfound)
  | stranded job a old stored error hbegin hextends hm hstop hprevious he hfor j' hj' =>
    have hsettled := settled_of_reachable hreachable hextends.allocation_eq
    refine absurd ?_ (storedReserve_of_settled hsettled (.inl hextends.state_eq))
    rw [hextends.response_eq, hprevious]
  | _ => exact hj.allocation _ _ _ hrow hfingerprint hread hdecision

/-- A row with another fingerprint was there before. -/
lemma Reserves.operation_of_fingerprint_ne {senderUid : ℤ}
    {result : Except PyError ReserveResponse}
    (h : Reserves sha256 other senderUid j result j' calls) {row : OperationRow}
    (hrow : j'.operation (other.reserveKey senderUid) = some row)
    (hne : row.fingerprint ≠ other.fingerprint sha256) :
    j.operation (other.reserveKey senderUid) = some row := by
  cases h with
  | conflicting old hold hdiffers => exact hrow
  | replayed old result hold hfingerprint hstate h => exact hrow
  | attempted job a hbegin hrestart hfor hfaultless j' hj' =>
    rw [hj'.operation_eq, if_pos rfl] at hrow
    cases hrow
    exact absurd rfl hne
  | extended job a old stored previous hbegin hextends hm hp hfor hfaultless j' hj' =>
    rw [hj'.operation_eq, if_pos rfl] at hrow
    cases hrow
    exact absurd rfl hne
  | stranded job a old stored error hbegin hextends hm hs hp he hfor j' hj' =>
    rw [hj'.operation_eq, if_pos rfl] at hrow
    cases hrow
    exact absurd rfl hne
  | reused old stored answer hbegin hplan h =>
    rw [Journal.operation_putOperation_self] at hrow
    cases hrow
    exact absurd rfl hne
  | _ =>
    rw [ReserveRequest.begun, Journal.operation_putOperation_self] at hrow
    cases hrow
    exact absurd rfl hne

/-- A pass leaves a release response in the allocation. -/
lemma storedReserve_releasedRow (unresolved : ReservationState → Bool) (row : AllocationRow)
    (response : ReleaseResponse) :
    storedReserve (releasedRow unresolved row response).responseJson = none :=
  storedReserve_release response

/-- A release request leaves the allocation as it was, or without an answer to a reserve. -/
lemma Releases.storedReserve_allocation {released : ReleaseRequest} {senderUid : ℤ}
    {result : Except PyError ReleaseResponse}
    (h : Releases sha256 released senderUid j result j' calls) {row : AllocationRow}
    (hrow : j'.allocation released.key = some row) :
    j.allocation released.key = some row ∨ storedReserve row.responseJson = none := by
  cases h with
  | unknown visits hbegin hpass hallocation j' hj' =>
    rw [hj', Journal.allocation_writeAll, Journal.allocation_putOperation, hallocation] at hrow
    cases hrow
  | released old visits hbegin hpass hallocation j' hj' =>
    rw [hj'.allocation_eq, if_pos rfl] at hrow
    cases hrow
    exact .inr (storedReserve_releasedRow _ _ _)
  | _ => exact .inl hrow

/-- So does a `retry_release`. -/
lemma Retries.storedReserve_allocation {released : ReleaseRequest}
    {result : Except PyError ReleaseResponse} (h : Retries released j result j' calls)
    {row : AllocationRow} (hrow : j'.allocation released.key = some row) :
    j.allocation released.key = some row ∨ storedReserve row.responseJson = none := by
  cases h with
  | unknown visits hpass hallocation j' hj' =>
    rw [hj', Journal.allocation_writeAll, hallocation] at hrow
    cases hrow
  | retried old visits hpass hallocation j' hj' =>
    rw [hj', Journal.allocation_putAllocation, if_pos rfl] at hrow
    cases hrow
    exact .inr (storedReserve_releasedRow _ _ _)

/-- The rows of allocations stay about the request. -/
lemma AnswersFor.allocation_step (hreachable : Reachable sha256 j)
    (hj : AnswersFor sha256 request j) {step : Step} (hstep : step.ToldFrom sha256 request)
    {key : AllocationKey} {row : AllocationRow}
    (hrow : (step.next sha256 j).allocation key = some row)
    (hfingerprint : row.requestFingerprint = sha256 (allocationDocument request))
    {response : ReserveResponse} (hread : storedReserve row.responseJson = some response)
    (hdecision : response.decision ≠ .accepted) :
    ∀ s ∈ response.names, s ∈ request.serviceIds := by
  have hkept (h : j.allocation key = some row ∨ storedReserve row.responseJson = none) :
      ∀ s ∈ response.names, s ∈ request.serviceIds := by
    rcases h with hold | hnone
    · exact hj.allocation _ _ _ hold hfingerprint hread hdecision
    · cases hnone.symm.trans hread
  by_cases hk : step.key = some key
  swap
  · rw [(step.sameRows hk).allocation_eq] at hrow
    exact hkept (.inl hrow)
  cases step with
  | handle received valid senderUid oracle =>
    cases received with
    | evaluate other => cases hk
    | getReservations other => cases hk
    | reserve other =>
      obtain rfl := Option.some.inj hk
      rcases serve_reserve_cases sha256 j valid senderUid oracle with ⟨-, -, hstate, -⟩ | h
      · rw [Step.next, Step.world, hstate] at hrow
        exact hkept (.inl hrow)
      · exact h.allocation_names hreachable (hstep other rfl) hj hrow hfingerprint hread hdecision
    | release other =>
      obtain rfl := Option.some.inj hk
      obtain ⟨result, h⟩ := releases_serve sha256 j other senderUid oracle
      exact hkept (h.storedReserve_allocation hrow)
  | retry other oracle =>
    obtain rfl := Option.some.inj hk
    obtain ⟨result, h⟩ := retries_step sha256 j other oracle
    exact hkept (h.storedReserve_allocation hrow)

/-- A step whose request is told apart keeps the journal about the request. -/
lemma AnswersFor.step (hreachable : Reachable sha256 j) (hj : AnswersFor sha256 request j)
    {step : Step} (hstep : step.ToldFrom sha256 request) :
    AnswersFor sha256 request (step.next sha256 j) where
  operation := by
    intro k row response hk hrow hfingerprint hread
    by_cases hwritten : step.operationKey = some k
    swap
    · rw [step.operation_of_ne hwritten] at hrow
      exact hj.operation k row response hk hrow hfingerprint hread
    obtain ⟨other, valid, senderUid, oracle, rfl, rfl⟩ := Step.eq_of_operationKey hwritten hk
    rw [Step.next, Step.world] at hrow
    rcases serve_reserve_cases sha256 j valid senderUid oracle with ⟨-, -, hstate, -⟩ | h
    · rw [hstate] at hrow
      exact hj.operation _ _ _ hk hrow hfingerprint hread
    · by_cases hsame : sha256 (.request other) = sha256 (.request request)
      · obtain rfl := (hstep other rfl).request_eq hsame
        exact h.operation_answersTo hreachable hj hrow hfingerprint hread
      · have hold := h.operation_of_fingerprint_ne hrow fun heq =>
          hsame (heq.symm.trans hfingerprint)
        exact hj.operation _ _ _ hk hold hfingerprint hread
  allocation := by
    intro key row response hrow hfingerprint hread hdecision
    exact hj.allocation_step hreachable hstep hrow hfingerprint hread hdecision

end Stored

/-- In a run whose requests are told apart from this one, the journal stays about it. -/
theorem answersFor_journalAfter {sha256 : Document → String} {request : ReserveRequest}
    {steps : List Step} (hsteps : ∀ step ∈ steps, step.ToldFrom sha256 request) :
    AnswersFor sha256 request (journalAfter sha256 Journal.empty steps) := by
  have hstart : Reachable sha256 Journal.empty ∧ AnswersFor sha256 request Journal.empty :=
    ⟨⟨[], rfl⟩, fun _ _ _ _ h => by simp at h, fun _ _ _ h => by simp at h⟩
  exact (after_invariant_of_meets (Step.next sha256)
    (fun j => Reachable sha256 j ∧ AnswersFor sha256 request j)
    (fun j step hj hstep => ⟨hj.1.step step, hj.2.step hj.1 hstep⟩) hstart
    (Meets.of_mem (Step.next sha256) hsteps _)).2

/-! ### Combined answers that are repeated -/

/-- The request repeats an operation that extended an accepted set.  The set is gone, and the stored
answer, which is the combined one, names a service that is not requested. -/
structure RepeatsCombined (sha256 : Document → String) (request : ReserveRequest) (senderUid : ℤ)
    (j : Journal) (answer : ReserveResponse) : Prop where
  repeated : repeatedAnswer sha256 request senderUid j = some answer
  accepted : answer.decision = .accepted
  combined : ∃ s ∈ answer.names, s ∉ request.serviceIds
  gone : j.acceptedAllocation request.key request.jobUid request.jobGid request.serviceIds =
    .ok none

section Repeated

variable {sha256 : Document → String} {request : ReserveRequest} {j j' : Journal} {senderUid : ℤ}
  {calls : List Event}

/-- The row behind a repeated answer. -/
lemma exists_of_repeatedAnswer {answer : ReserveResponse}
    (h : repeatedAnswer sha256 request senderUid j = some answer) :
    ∃ row, j.operation (request.reserveKey senderUid) = some row ∧
      (row.fingerprint = request.fingerprint sha256 ∧ row.state = .complete) ∧
      storedReserve row.responseJson = some answer := by
  obtain ⟨row, hrow, hfound⟩ := Option.bind_eq_some_iff.mp h
  split_ifs at hfound with hsame
  exact ⟨row, hrow, hsame, hfound⟩

/-- Such a request is answered with the combined answer. -/
lemma RepeatsCombined.result_eq {answer : ReserveResponse}
    (hrepeats : RepeatsCombined sha256 request senderUid j answer)
    {result : Except PyError ReserveResponse}
    (h : Reserves sha256 request senderUid j result j' calls) : result = .ok answer := by
  obtain ⟨row, hrow, ⟨hsame, hcomplete⟩, hread⟩ := exists_of_repeatedAnswer hrepeats.repeated
  have hnot : ¬ j.MayBegin (request.reserveKey senderUid) (request.fingerprint sha256) := by
    intro hbegin
    cases hcomplete.symm.trans (hbegin row hrow).2
  cases h with
  | conflicting other hother hne =>
    cases hrow.symm.trans hother
    exact absurd hsame hne
  | replayed other result hother hfingerprint hstate h =>
    cases hrow.symm.trans hother
    cases h with
    | unfinished h =>
      rcases h with h | h
      · exact absurd hcomplete h
      · rw [h] at hread
        cases hread
    | unreadable error _ h _ => cases hread.symm.trans h
    | settled response _ h hdecision =>
      cases hread.symm.trans h
      exact absurd hrepeats.accepted hdecision
    | denied response error _ h _ hallocation => cases hrepeats.gone.symm.trans hallocation
    | gone response _ h _ _ =>
      cases hread.symm.trans h
      rfl
    | current response now stored _ h _ hallocation _ =>
      cases hrepeats.gone.symm.trans hallocation
    | garbled response stored error _ h _ hallocation _ _ =>
      cases hrepeats.gone.symm.trans hallocation
  | refused error hbegin h => exact absurd hbegin hnot
  | reused row stored response hbegin hplan h => exact absurd hbegin hnot
  | misread row stored error hbegin hplan h herror => exact absurd hbegin hnot
  | attempted job a hbegin hrestart hfor hfaultless j' hj => exact absurd hbegin hnot
  | extended job a row stored previous hbegin hextends hm hp hfor hfaultless j' hj =>
    exact absurd hbegin hnot
  | stranded job a row stored error hbegin hextends hm hs hp he hfor j' hj =>
    exact absurd hbegin hnot

/-- While no set is accepted, the one accepted answer that names more than the request is a combined
answer that is repeated. -/
lemma Reserves.names_or_repeats (hreachable : Reachable sha256 j)
    (hset : ∀ row, j.allocation request.key = some row → row.state ≠ .accepted)
    {result : Except PyError ReserveResponse}
    (h : Reserves sha256 request senderUid j result j' calls) {response : ReserveResponse}
    (hresult : result = .ok response) (hdecision : response.decision = .accepted) :
    (∀ s ∈ response.names, s ∈ request.serviceIds) ∨
      RepeatsCombined sha256 request senderUid j response := by
  cases h with
  | replayed row result hrow hfingerprint hstate h =>
    cases h with
    | settled stored hcomplete hread hd =>
      cases hresult
      exact absurd hdecision hd
    | gone stored hcomplete hread hd hallocation =>
      cases hresult
      have hrepeated : repeatedAnswer sha256 request senderUid j = some response := by
        rw [repeatedAnswer, hrow, Option.bind_some, if_pos ⟨hfingerprint, hcomplete⟩, hread]
      by_cases hnames : ∀ s ∈ response.names, s ∈ request.serviceIds
      · exact .inl hnames
      · push Not at hnames
        exact .inr ⟨hrepeated, hd, hnames, hallocation⟩
    | current stored now value hcomplete hread hd hallocation hnow =>
      obtain ⟨allocation, hallocation, haccepted, -⟩ := accepted_of_some hallocation
      exact absurd haccepted (hset allocation hallocation)
    | _ => cases hresult
  | reused row stored answer hbegin hplan hread =>
    cases hresult
    rcases hplan with ⟨hextends, -⟩ | hrecalls
    · exact absurd hextends.state_eq (hset row hextends.allocation_eq)
    · have hsettled := settled_of_reachable hreachable hrecalls.allocation_eq
      cases (hrecalls.decision_eq hsettled hread).symm.trans hdecision
  | attempted job a hbegin hrestart hfor hfaultless j' hj =>
    refine .inl fun s hs => ?_
    exact mem_sorted.mp ((Attempt.names_prefix hfor hresult).1.subset hs)
  | extended job a row stored previous hbegin hextends hm hp hfor hfaultless j' hj =>
    exact absurd hextends.state_eq (hset row hextends.allocation_eq)
  | _ => cases hresult

end Repeated

/-! ### Answers to an evaluation -/

/-- The response is an evaluation of the services of the request. -/
structure IsEvaluationOf (request : ReserveRequest) (response : EvaluateResponse) : Prop where
  requestId : response.requestId = request.requestId
  names : response.toReserveResponse.names = sorted request.serviceIds
  decision : response.decision = combinedDecision response.results

/-- The evaluations that the journal holds under the fingerprint of the request are about it. -/
def EvaluatedFor (sha256 : Document → String) (request : ReserveRequest) (j : Journal) : Prop :=
  ∀ k row value response, k.operation = .evaluate → j.operation k = some row →
    row.fingerprint = request.fingerprint sha256 → row.responseJson = some value →
    responseFromDict value = .ok (.evaluate response) → IsEvaluationOf request response

section Evaluated

variable {sha256 : Document → String} {request other : ReserveRequest} {j j' : Journal}
  {senderUid : ℤ} {job : VerifiedJob} {calls : List Event}

/-- The loop over the services makes one result of each. -/
lemma Estimates.map_serviceId {serviceIds : List String}
    {outcome : Except PyError (List ServiceResult)}
    (h : Estimates request job serviceIds outcome calls) {results : List ServiceResult}
    (houtcome : outcome = .ok results) : results.map ServiceResult.serviceId = serviceIds := by
  induction h generalizing results with
  | done =>
    cases houtcome
    rfl
  | answered s rest qpm admission hid result calls hrest ih =>
    cases result with
    | error error => cases houtcome
    | ok more =>
      cases houtcome
      rw [List.map_cons, ih rfl]
      rfl
  | _ => cases houtcome

/-- The response that the loop leads to is an evaluation of the services. -/
lemma Estimates.isEvaluationOf {outcome : Except PyError (List ServiceResult)}
    (h : Estimates request job (sorted request.serviceIds) outcome calls)
    {response : EvaluateResponse}
    (hresponse : outcome.map (evaluateResponse request) = .ok response) :
    IsEvaluationOf request response := by
  cases outcome with
  | error error => cases hresponse
  | ok results =>
    cases hresponse
    exact ⟨rfl, h.map_serviceId rfl, rfl⟩

/-- A verified evaluation returns one of the services of the request. -/
lemma Polls.isEvaluationOf (hj : EvaluatedFor sha256 request j)
    {result : Except PyError EvaluateResponse}
    (h : Polls sha256 request senderUid job j result j' calls) {response : EvaluateResponse}
    (hresult : result = .ok response) : IsEvaluationOf request response := by
  cases h with
  | conflicting row hrow hne => cases hresult
  | replayed row result hrow hfingerprint hstate h =>
    cases h with
    | stored value answer hcomplete hvalue hread =>
      cases hresult
      exact hj _ _ _ _ rfl hrow hfingerprint hvalue hread
    | _ => cases hresult
  | evaluated outcome calls hbegin h => exact h.isEvaluationOf hresult

/-- What a verified evaluation leaves in its operation, if it is not what was there. -/
lemma Polls.operation_cases {result : Except PyError EvaluateResponse}
    (h : Polls sha256 request senderUid job j result j' calls) {row : OperationRow}
    (hrow : j'.operation (request.operationKey .evaluate senderUid) = some row) :
    j.operation (request.operationKey .evaluate senderUid) = some row ∨
      row.fingerprint = request.fingerprint sha256 ∧
        row.responseJson = some (evaluationOutcome request result).2 := by
  cases h with
  | conflicting old hold hne => exact .inl hrow
  | replayed old result hold hfingerprint hstate h => exact .inl hrow
  | evaluated outcome calls hbegin h =>
    rw [Journal.operation_putOperation_self] at hrow
    cases hrow
    exact .inr ⟨rfl, rfl⟩

/-- A stored outcome that is an evaluation was returned. -/
lemma result_of_evaluationOutcome {result : Except PyError EvaluateResponse}
    {response : EvaluateResponse}
    (hread : responseFromDict (evaluationOutcome request result).2 = .ok (.evaluate response)) :
    result = .ok response := by
  cases result with
  | ok answer =>
    rw [evaluationOutcome, responseFromDict_toDict] at hread
    cases hread
    rfl
  | error error =>
    obtain ⟨failure, hfailure⟩ := operationError_eq "evaluate" request.requestId error
    rw [evaluationOutcome, hfailure, responseFromDict_toDict] at hread
    cases hread

/-- An evaluation is not verified and does nothing, or ends in one of the ways `Polls` lists. -/
lemma serve_evaluate_cases (sha256 : Document → String) (j : Journal) (request : EvaluateRequest)
    (senderUid : ℤ) (oracle : Oracle) :
    (∃ failure : VerifierFailure,
      (serve sha256 j (.evaluate request) senderUid oracle).1 =
        operationError "evaluate" request.requestId failure.error ∧
      (serve sha256 j (.evaluate request) senderUid oracle).2.state = j ∧
      adapterCalls (serve sha256 j (.evaluate request) senderUid oracle).2.trace = []) ∨
    ∃ job, Polls sha256 request.toReserveRequest senderUid job j
      (evaluateResult sha256 j request senderUid oracle)
      (serve sha256 j (.evaluate request) senderUid oracle).2.state
      (adapterCalls (serve sha256 j (.evaluate request) senderUid oracle).2.trace) := by
  cases hverdict : oracle 0 (.verifyReserve request.toReserveRequest senderUid) with
  | ok job => exact .inr ⟨job, polls_serve hverdict⟩
  | error failure =>
    rw [evaluate_unverified hverdict]
    exact .inl ⟨failure, rfl, rfl, rfl⟩

/-- The only steps that write the row of an evaluation are evaluate requests. -/
lemma Step.eq_of_evaluateKey {step : Step} {k : OperationKey}
    (hstep : step.operationKey = some k) (hk : k.operation = .evaluate) :
    ∃ request valid senderUid oracle, step = .handle (.evaluate request) valid senderUid oracle ∧
      request.evaluateKey senderUid = k := by
  cases step with
  | handle request valid senderUid oracle =>
    cases request with
    | evaluate request => exact ⟨request, valid, senderUid, oracle, rfl, Option.some.inj hstep⟩
    | reserve request =>
      cases hstep
      cases hk
    | release request =>
      cases hstep
      cases hk
    | getReservations request => cases hstep
  | retry request oracle => cases hstep

/-- A step whose request is told apart keeps the evaluations about the request. -/
lemma EvaluatedFor.step (hj : EvaluatedFor sha256 request j) {step : Step}
    (hstep : step.ToldFrom sha256 request) : EvaluatedFor sha256 request (step.next sha256 j) := by
  intro k row value response hk hrow hfingerprint hvalue hread
  by_cases hwritten : step.operationKey = some k
  swap
  · rw [step.operation_of_ne hwritten] at hrow
    exact hj k row value response hk hrow hfingerprint hvalue hread
  obtain ⟨other, valid, senderUid, oracle, rfl, rfl⟩ := Step.eq_of_evaluateKey hwritten hk
  rw [Step.next, Step.world] at hrow
  rcases serve_evaluate_cases sha256 j other senderUid oracle with ⟨-, -, hstate, -⟩ | ⟨job, h⟩
  · rw [hstate] at hrow
    exact hj _ _ _ _ hk hrow hfingerprint hvalue hread
  · rcases h.operation_cases hrow with hold | ⟨hsame, hresponse⟩
    · exact hj _ _ _ _ hk hold hfingerprint hvalue hread
    · have hother := (hstep _ rfl).request_eq (hsame.symm.trans hfingerprint)
      rw [hresponse] at hvalue
      rw [← Option.some.inj hvalue] at hread
      have hresult := result_of_evaluationOutcome hread
      rw [hother] at h
      exact h.isEvaluationOf hj hresult

end Evaluated

/-- In a run whose requests are told apart from this one, the stored evaluations stay about it. -/
theorem evaluatedFor_journalAfter {sha256 : Document → String} {request : ReserveRequest}
    {steps : List Step} (hsteps : ∀ step ∈ steps, step.ToldFrom sha256 request) :
    EvaluatedFor sha256 request (journalAfter sha256 Journal.empty steps) :=
  after_invariant_of_meets (Step.next sha256) (EvaluatedFor sha256 request)
    (fun _ _ hj hstep => hj.step hstep) (fun _ _ _ _ _ h => by simp at h)
    (Meets.of_mem (Step.next sha256) hsteps _)

end QfwSlurm
