import QfwSlurm.Gateway.Footprint
import QfwSlurm.Gateway.Operations

/-!
# Polling an evaluation

A provider repeats an evaluation under one request id until it is decided.  Once the first poll has
begun, the operation is either open, that is `retryable`, or settled with the response of the poll
that was accepted or rejected.  Requests of any kind may come in between: those under another key
leave the operation alone, and one with other content under the same key is a conflict.

Neither an evaluation nor a lookup writes to the allocations or the reservations, even when journal
calls fail.
-/

namespace QfwSlurm

open Interaction

/-! ### Tables that are left alone -/

/-- The two journals have the same allocations and reservations. -/
def SameTables (j j' : Journal) : Prop :=
  j'.allocations = j.allocations ∧ j'.reservationRows = j.reservationRows

/-- The transaction does not write to the allocations or the reservations. -/
def Transaction.SparesTables : Transaction → Prop
  | .beginOperation _ _ | .completeOperation _ _ _ | .acceptedAllocation _ _ _ _
  | .reservations _ | .reservationContext _ _ _ | .allocationStatus _ => True
  | _ => False

/-- The question does not either. -/
def Query.SparesTables : Query → Prop
  | .transaction t => t.SparesTables
  | .call _ => True

section Tables

variable (oracle : Oracle) (faults : Faults)

/-- Such a transaction keeps the two tables. -/
lemma Transaction.SparesTables.apply {t : Transaction} (h : t.SparesTables) {j j' : Journal}
    {result : t.Result} (happly : t.apply j = .ok (result, j')) : SameTables j j' := by
  cases t with
  | beginOperation key fingerprint =>
    simp only [Transaction.apply, Journal.beginOperation] at happly
    split at happly
    · split_ifs at happly <;> cases happly <;> exact ⟨rfl, rfl⟩
    · cases happly
      exact ⟨rfl, rfl⟩
  | completeOperation key response state =>
    simp only [Transaction.apply, Journal.completeOperation] at happly
    split_ifs at happly
    split at happly
    · cases happly
    · cases happly
      exact ⟨rfl, rfl⟩
  | acceptedAllocation key jobUid jobGid serviceIds =>
    simp only [Transaction.apply, Journal.read] at happly
    cases hread : j.acceptedAllocation key jobUid jobGid serviceIds <;> rw [hread] at happly <;>
      cases happly
    exact ⟨rfl, rfl⟩
  | reservations key =>
    cases happly
    exact ⟨rfl, rfl⟩
  | reservationContext key jobUid jobGid =>
    simp only [Transaction.apply, Journal.read] at happly
    cases hread : j.reservationContext key jobUid jobGid <;> rw [hread] at happly <;> cases happly
    exact ⟨rfl, rfl⟩
  | allocationStatus key =>
    cases happly
    exact ⟨rfl, rfl⟩
  | _ => exact h.elim

/-- A program that asks such questions alone keeps the two tables, whatever it is answered and
whichever journal calls fail. -/
lemma sameTables_of_asks {α : Type} {p : Program Query Answer α} (hp : p.Asks Query.SparesTables)
    (w : GatewayWorld) : SameTables w.state (p.run (surroundings oracle faults) w).2.state := by
  refine Program.run_invariant (fun j => ⟨rfl, rfl⟩)
    (fun h h' => ⟨h'.1.trans h.1, h'.2.trans h.2⟩) (surroundings oracle faults) ?_ hp w
  intro q w hq
  cases q with
  | call c => exact ⟨rfl, rfl⟩
  | transaction t =>
    simp only [surroundings]
    cases faults w.trace.length t with
    | some fault => exact ⟨rfl, rfl⟩
    | none =>
      cases happly : t.apply w.state with
      | error error => exact ⟨rfl, rfl⟩
      | ok applied => exact Transaction.SparesTables.apply hq happly

/-- An evaluation keeps the two tables. -/
lemma sameTables_evaluate (sha256 : Document → String) (request : EvaluateRequest) (senderUid : ℤ)
    (w : GatewayWorld) :
    SameTables w.state ((handle sha256 (.evaluate request) senderUid).run
      (surroundings oracle faults) w).2.state := by
  refine sameTables_of_asks oracle faults (asks_answer ?_ _ _) w
  refine (within_evaluateTry (K := fun _ => True) (L := fun _ => False) sha256 senderUid
    request.toReserveRequest trivial).mono fun q hq => ?_
  cases q with
  | call c => trivial
  | transaction t => cases t <;> trivial

/-- A lookup keeps the two tables. -/
lemma sameTables_lookup (sha256 : Document → String) (request : GetReservationsRequest)
    (senderUid : ℤ) (w : GatewayWorld) :
    SameTables w.state ((handle sha256 (.getReservations request) senderUid).run
      (surroundings oracle faults) w).2.state := by
  refine sameTables_of_asks oracle faults (asks_answer ?_ _ _) w
  exact .bind ⟨trivial, fun _ => trivial⟩ fun job => .bind ⟨trivial, fun _ => trivial⟩ fun _ =>
    trivial

end Tables

/-! ### Polls -/

section Polling

variable (sha256 : Document → String)

/-- What the body of `_evaluate` returned or raised. -/
def evaluateResult (j : Journal) (request : EvaluateRequest) (senderUid : ℤ) (oracle : Oracle) :
    Except PyError EvaluateResponse :=
  (Procedure.exec (surroundings oracle noFaults)
    (evaluateTry sha256 request.toReserveRequest senderUid) ⟨j, []⟩).1

/-- What a step ends with if it is a verified poll of the request. -/
def Step.poll (request : EvaluateRequest) (senderUid : ℤ) (j : Journal) :
    Step → Option (Except PyError EvaluateResponse)
  | .handle (.evaluate other) _ otherUid oracle =>
    if other = request ∧ otherUid = senderUid then
      match oracle 0 (.verifyReserve other.toReserveRequest otherUid) with
      | .ok _ => some (evaluateResult sha256 j other otherUid oracle)
      | .error _ => none
    else none
  | _ => none

/-- What the verified polls of a run end with, in order. -/
def polls (request : EvaluateRequest) (senderUid : ℤ) :
    Journal → List Step → List (Except PyError EvaluateResponse)
  | _, [] => []
  | j, step :: steps =>
    (step.poll sha256 request senderUid j).toList ++
      polls request senderUid (step.next sha256 j) steps

/-- The poll was neither accepted nor rejected. -/
def Undecided : Except PyError EvaluateResponse → Prop
  | .ok response => response.decision = .delayed
  | .error _ => True

/-- The digest tells the request from the other evaluation requests of the run. -/
def Distinguishes (request : EvaluateRequest) (steps : List Step) : Prop :=
  ∀ step ∈ steps, ∀ other valid otherUid oracle,
    step = .handle (.evaluate other) valid otherUid oracle →
    sha256 (.request other.toReserveRequest) = sha256 (.request request.toReserveRequest) →
    other = request

/-- The operation of an evaluation request. -/
abbrev EvaluateRequest.evaluateKey (request : EvaluateRequest) (senderUid : ℤ) : OperationKey :=
  request.toReserveRequest.operationKey .evaluate senderUid

/-- The operation may be repeated. -/
def IsOpen (request : EvaluateRequest) (senderUid : ℤ) (j : Journal) : Prop :=
  ∃ row, j.operation (request.evaluateKey senderUid) = some row ∧
    row.fingerprint = sha256 (.request request.toReserveRequest) ∧ row.state = .retryable

/-- The operation is complete with the response. -/
def IsSettled (request : EvaluateRequest) (senderUid : ℤ) (response : EvaluateResponse)
    (j : Journal) : Prop :=
  j.operation (request.evaluateKey senderUid) =
    some ⟨sha256 (.request request.toReserveRequest), .complete,
      some (responseToDict (.evaluate response))⟩

/-- Where polling stands once it has begun, with the results so far. -/
inductive PollPhase (request : EvaluateRequest) (senderUid : ℤ) (j : Journal)
    (results : List (Except PyError EvaluateResponse)) : Prop
  /-- No poll was decided. -/
  | undecided (hresults : ∀ result ∈ results, Undecided result)
      (hopen : IsOpen sha256 request senderUid j)
  /-- A poll was decided, and its response is the answer from then on. -/
  | decided (response : EvaluateResponse) (hdecision : response.decision ≠ .delayed)
      (hmem : .ok response ∈ results)
      (hresults : ∀ result ∈ results, Undecided result ∨ result = .ok response)
      (hsettled : IsSettled sha256 request senderUid response j)

variable {sha256} {request : EvaluateRequest} {senderUid : ℤ} {j j' : Journal}
  {results : List (Except PyError EvaluateResponse)} {calls : List Event}

/-- The response to an evaluation request. -/
lemma serve_evaluate_response (oracle : Oracle) :
    (serve sha256 j (.evaluate request) senderUid oracle).1 =
      match evaluateResult sha256 j request senderUid oracle with
      | .ok response => .evaluate response
      | .error error => operationError "evaluate" request.requestId error := by
  rw [serve, handle, evaluate, run_answer, ← evaluateResult]
  cases evaluateResult sha256 j request senderUid oracle <;> rfl

/-- A verified poll ends in one of the ways `Polls` lists. -/
lemma polls_serve {oracle : Oracle} {job : VerifiedJob}
    (hjob : oracle 0 (.verifyReserve request.toReserveRequest senderUid) = .ok job) :
    Polls sha256 request.toReserveRequest senderUid job j
      (evaluateResult sha256 j request senderUid oracle)
      (serve sha256 j (.evaluate request) senderUid oracle).2.state
      (adapterCalls (serve sha256 j (.evaluate request) senderUid oracle).2.trace) := by
  rw [serve, handle, evaluate, run_answer]
  exact (exec_evaluateTry_verified oracle sha256 request.toReserveRequest senderUid ⟨j, []⟩
    hjob).of_nil

/-- A request that is not verified is answered with the verifier's failure and changes nothing. -/
lemma evaluate_unverified {oracle : Oracle} {failure : VerifierFailure}
    (hfailure : oracle 0 (.verifyReserve request.toReserveRequest senderUid) = .error failure) :
    serve sha256 j (.evaluate request) senderUid oracle =
      (operationError "evaluate" request.requestId failure.error,
        ⟨j, [⟨.call (.verifyReserve request.toReserveRequest senderUid), .error failure⟩]⟩) := by
  have hverify := exec_invoke oracle noFaults ⟨j, []⟩
    (.verifyReserve request.toReserveRequest senderUid) (Except.mapError VerifierFailure.error)
  rw [List.length_nil, hfailure] at hverify
  have hexec : Procedure.exec (surroundings oracle noFaults)
      (evaluateTry sha256 request.toReserveRequest senderUid) ⟨j, []⟩ =
      (.error failure.error,
        ⟨j, [⟨.call (.verifyReserve request.toReserveRequest senderUid), .error failure⟩]⟩) :=
    Procedure.exec_bind_error hverify _
  rw [serve, handle, evaluate, run_answer, hexec]

lemma PollPhase.congr (h : PollPhase sha256 request senderUid j results)
    (hoperation : j'.operation (request.evaluateKey senderUid) =
      j.operation (request.evaluateKey senderUid)) :
    PollPhase sha256 request senderUid j' results := by
  cases h with
  | undecided hresults hopen =>
    refine .undecided hresults ?_
    rw [IsOpen, hoperation]
    exact hopen
  | decided response hdecision hmem hresults hsettled =>
    exact .decided response hdecision hmem hresults (hoperation.trans hsettled)

/-- A poll of an open operation asks the QPMs. -/
lemma Polls.of_mayBegin {job : VerifiedJob} {result : Except PyError EvaluateResponse}
    (hbegin : j.MayBegin (request.evaluateKey senderUid)
      (sha256 (.request request.toReserveRequest)))
    (h : Polls sha256 request.toReserveRequest senderUid job j result j' calls) :
    ∃ outcome, result = outcome.map (evaluateResponse request.toReserveRequest) ∧
      Estimates request.toReserveRequest job (sorted request.serviceIds) outcome calls ∧
      j'.operation (request.evaluateKey senderUid) =
        some ⟨sha256 (.request request.toReserveRequest),
          (evaluationOutcome request.toReserveRequest result).1,
          some (evaluationOutcome request.toReserveRequest result).2⟩ := by
  cases h with
  | conflicting row hrow hne => exact absurd (hbegin row hrow).1 hne
  | replayed row result hrow hfingerprint hstate h => exact absurd (hbegin row hrow).2 hstate
  | evaluated outcome calls hbegin h =>
    exact ⟨outcome, rfl, h, Journal.operation_putOperation_self _ _ _⟩

lemma IsOpen.mayBegin (h : IsOpen sha256 request senderUid j) :
    j.MayBegin (request.evaluateKey senderUid) (sha256 (.request request.toReserveRequest)) := by
  obtain ⟨row, hrow, hfingerprint, hstate⟩ := h
  intro other hother
  cases hrow.symm.trans hother
  exact ⟨hfingerprint, hstate⟩

/-- A poll of a settled operation returns its response. -/
lemma Polls.of_settled {job : VerifiedJob} {result : Except PyError EvaluateResponse}
    {response : EvaluateResponse} (hsettled : IsSettled sha256 request senderUid response j)
    (h : Polls sha256 request.toReserveRequest senderUid job j result j' calls) :
    result = .ok response ∧ j' = j ∧ calls = [] := by
  cases h with
  | conflicting row hrow hne =>
    cases hsettled.symm.trans hrow
    exact absurd rfl hne
  | replayed row result hrow hfingerprint hstate h =>
    cases hsettled.symm.trans hrow
    refine ⟨?_, rfl, rfl⟩
    cases h with
    | unfinished h => rcases h with h | h <;> simp at h
    | unreadable error hstate h => exact absurd rfl (h response)
    | stored value other hstate hvalue h =>
      cases hvalue
      rw [responseFromDict_toDict] at h
      cases h
      rfl
  | evaluated outcome calls hbegin h =>
    have hretryable := (hbegin _ hsettled).2
    cases hretryable

/-- What a poll of an operation that may begin leads to. -/
lemma PollPhase.of_poll {job : VerifiedJob} {result : Except PyError EvaluateResponse}
    (hresults : ∀ result ∈ results, Undecided result)
    (hbegin : j.MayBegin (request.evaluateKey senderUid)
      (sha256 (.request request.toReserveRequest)))
    (h : Polls sha256 request.toReserveRequest senderUid job j result j' calls) :
    PollPhase sha256 request senderUid j' (results ++ [result]) := by
  obtain ⟨outcome, -, -, hoperation⟩ := h.of_mayBegin hbegin
  have hall (hundecided : Undecided result) : ∀ other ∈ results ++ [result], Undecided other := by
    intro other hother
    rcases List.mem_append.mp hother with hother | hother
    · exact hresults other hother
    · rw [List.mem_singleton.mp hother]
      exact hundecided
  cases result with
  | error error => exact .undecided (hall trivial) ⟨_, hoperation, rfl, rfl⟩
  | ok response =>
    by_cases hdelayed : response.decision = .delayed
    · refine .undecided (hall hdelayed) ⟨_, hoperation, rfl, ?_⟩
      simp [evaluationOutcome, hdelayed]
    · refine .decided response hdelayed (by simp) ?_ ?_
      · intro other hother
        rcases List.mem_append.mp hother with hother | hother
        · exact .inl (hresults other hother)
        · exact .inr (List.mem_singleton.mp hother)
      · rw [IsSettled, hoperation]
        simp [evaluationOutcome, hdelayed]

/-- A verified poll leads from phase to phase. -/
lemma PollPhase.poll {job : VerifiedJob} {result : Except PyError EvaluateResponse}
    (h : PollPhase sha256 request senderUid j results)
    (hpolls : Polls sha256 request.toReserveRequest senderUid job j result j' calls) :
    PollPhase sha256 request senderUid j' (results ++ [result]) := by
  cases h with
  | undecided hresults hopen => exact .of_poll hresults hopen.mayBegin hpolls
  | decided response hdecision hmem hresults hsettled =>
    obtain ⟨rfl, rfl, -⟩ := hpolls.of_settled hsettled
    refine .decided response hdecision (by simp) ?_ hsettled
    intro other hother
    rcases List.mem_append.mp hother with hother | hother
    · exact hresults other hother
    · exact .inr (List.mem_singleton.mp hother)

/-- An evaluation with other content under the same key is a conflict. -/
lemma Polls.of_other {job : VerifiedJob} {result : Except PyError EvaluateResponse}
    {other : EvaluateRequest} {row : OperationRow}
    (hrow : j.operation (other.evaluateKey senderUid) = some row)
    (hne : row.fingerprint ≠ sha256 (.request other.toReserveRequest))
    (h : Polls sha256 other.toReserveRequest senderUid job j result j' calls) : j' = j := by
  cases h with
  | conflicting row hrow hne => rfl
  | replayed row result hrow hfingerprint hstate h => rfl
  | evaluated outcome calls hbegin h => exact absurd (hbegin row hrow).1 hne

/-- Once begun, the operation has a row of the request. -/
lemma PollPhase.row (h : PollPhase sha256 request senderUid j results) :
    ∃ row, j.operation (request.evaluateKey senderUid) = some row ∧
      row.fingerprint = sha256 (.request request.toReserveRequest) := by
  cases h with
  | undecided hresults hopen =>
    obtain ⟨row, hrow, hfingerprint, -⟩ := hopen
    exact ⟨row, hrow, hfingerprint⟩
  | decided response hdecision hmem hresults hsettled => exact ⟨_, hsettled, rfl⟩

/-- Every step leads from phase to phase. -/
lemma PollPhase.step (h : PollPhase sha256 request senderUid j results) (step : Step)
    (hdistinct : Distinguishes sha256 request [step]) :
    PollPhase sha256 request senderUid (step.next sha256 j)
      (results ++ (step.poll sha256 request senderUid j).toList) := by
  by_cases hkey : step.operationKey = some (request.evaluateKey senderUid)
  swap
  · -- a step under another key
    have hpoll : step.poll sha256 request senderUid j = none := by
      cases step with
      | retry other oracle => rfl
      | handle other valid otherUid oracle =>
        cases other with
        | evaluate other =>
          rw [Step.poll, if_neg]
          rintro ⟨rfl, rfl⟩
          exact hkey rfl
        | _ => rfl
    rw [hpoll, Option.toList_none, List.append_nil]
    exact h.congr (step.operation_of_ne hkey)
  cases step with
  | retry other oracle => cases hkey
  | handle other valid otherUid oracle =>
    cases other with
    | reserve other =>
      have hoperation := congrArg OperationKey.operation (Option.some.inj hkey)
      cases hoperation
    | release other =>
      have hoperation := congrArg OperationKey.operation (Option.some.inj hkey)
      cases hoperation
    | getReservations other => cases hkey
    | evaluate other =>
      have hkeys : other.evaluateKey otherUid = request.evaluateKey senderUid :=
        Option.some.inj hkey
      have huid : otherUid = senderUid := congrArg OperationKey.senderUid hkeys
      subst huid
      cases hverdict : oracle 0 (.verifyReserve other.toReserveRequest otherUid) with
      | error failure =>
        have hpoll : (Step.handle (.evaluate other) valid otherUid oracle).poll sha256 request
            otherUid j = none := by
          rw [Step.poll]
          split_ifs
          · rw [hverdict]
          · rfl
        rw [hpoll, Option.toList_none, List.append_nil, Step.next, Step.world,
          evaluate_unverified hverdict]
        exact h
      | ok job =>
        by_cases hsame : other = request
        · subst hsame
          rw [Step.poll, if_pos ⟨rfl, rfl⟩, hverdict, Option.toList_some]
          exact h.poll (polls_serve hverdict)
        · obtain ⟨row, hrow, hfingerprint⟩ := h.row
          have hne : row.fingerprint ≠ sha256 (.request other.toReserveRequest) := fun heq =>
            hsame (hdistinct _ (List.mem_singleton_self _) other valid otherUid oracle rfl
              (heq.symm.trans hfingerprint))
          rw [Step.poll, if_neg fun heq => hsame heq.1, Option.toList_none, List.append_nil,
            Step.next, Step.world,
            (polls_serve hverdict).of_other (by rw [hkeys]; exact hrow) hne]
          exact h

/-- So does every run. -/
lemma PollPhase.run (h : PollPhase sha256 request senderUid j results) (steps : List Step)
    (hdistinct : Distinguishes sha256 request steps) :
    PollPhase sha256 request senderUid (journalAfter sha256 j steps)
      (results ++ polls sha256 request senderUid j steps) := by
  induction steps generalizing j results with
  | nil =>
    rw [polls, List.append_nil]
    exact h
  | cons step steps ih =>
    rw [polls, ← List.append_assoc]
    refine ih (h.step step fun other hother => ?_) fun other hother => ?_
    · rw [List.mem_singleton.mp hother]
      exact hdistinct step List.mem_cons_self
    · exact hdistinct other (List.mem_cons_of_mem step hother)

/-- The same of a run that begins with a verified poll, or is empty. -/
lemma pollPhase_of_run (hbegin : j.MayBegin (request.evaluateKey senderUid)
      (sha256 (.request request.toReserveRequest)))
    {steps : List Step} (hdistinct : Distinguishes sha256 request steps)
    (hfirst : ∀ step rest, steps = step :: rest →
      (step.poll sha256 request senderUid j).isSome = true) :
    steps = [] ∨ PollPhase sha256 request senderUid (journalAfter sha256 j steps)
      (polls sha256 request senderUid j steps) := by
  cases steps with
  | nil => exact .inl rfl
  | cons step rest =>
    refine .inr ?_
    have hpoll := hfirst step rest rfl
    cases step with
    | retry other oracle => cases hpoll
    | handle other valid otherUid oracle =>
      cases other with
      | evaluate other =>
        by_cases hsame : other = request ∧ otherUid = senderUid
        swap
        · rw [Step.poll, if_neg hsame] at hpoll
          cases hpoll
        obtain ⟨rfl, rfl⟩ := hsame
        cases hverdict : oracle 0 (.verifyReserve other.toReserveRequest otherUid) with
        | error failure =>
          rw [Step.poll, if_pos ⟨rfl, rfl⟩, hverdict] at hpoll
          cases hpoll
        | ok job =>
          have hphase := PollPhase.of_poll (fun _ h => absurd h List.not_mem_nil) hbegin
            (polls_serve hverdict)
          rw [polls, Step.poll, if_pos ⟨rfl, rfl⟩, hverdict, Option.toList_some]
          exact hphase.run rest fun step hstep => hdistinct step (List.mem_cons_of_mem _ hstep)
      | _ => cases hpoll

/-- After such a run the operation may still begin, no poll being decided, or it is settled. -/
lemma open_or_settled (hbegin : j.MayBegin (request.evaluateKey senderUid)
      (sha256 (.request request.toReserveRequest)))
    {steps : List Step} (hdistinct : Distinguishes sha256 request steps)
    (hfirst : ∀ step rest, steps = step :: rest →
      (step.poll sha256 request senderUid j).isSome = true) :
    ((journalAfter sha256 j steps).MayBegin (request.evaluateKey senderUid)
        (sha256 (.request request.toReserveRequest)) ∧
      ∀ result ∈ polls sha256 request senderUid j steps, Undecided result) ∨
    ∃ response : EvaluateResponse, response.decision ≠ .delayed ∧
      .ok response ∈ polls sha256 request senderUid j steps ∧
      (∀ result ∈ polls sha256 request senderUid j steps,
        Undecided result ∨ result = .ok response) ∧
      IsSettled sha256 request senderUid response (journalAfter sha256 j steps) := by
  rcases pollPhase_of_run hbegin hdistinct hfirst with rfl | hphase
  · exact .inl ⟨hbegin, fun result h => nomatch h⟩
  cases hphase with
  | undecided hresults hopen => exact .inl ⟨hopen.mayBegin, hresults⟩
  | decided response hdecision hmem hresults hsettled =>
    exact .inr ⟨response, hdecision, hmem, hresults, hsettled⟩

/-- The loop over at least one service contacts one. -/
lemma Estimates.contacted_ne_nil {job : VerifiedJob} {serviceIds : List String}
    {outcome : Except PyError (List ServiceResult)} (hservices : serviceIds ≠ [])
    (h : Estimates request.toReserveRequest job serviceIds outcome calls) :
    contacted calls ≠ [] := by
  cases h with
  | done => exact absurd rfl hservices
  | unresolved s rest failure => exact List.cons_ne_nil _ _
  | unanswered s rest qpm failure => exact List.cons_ne_nil _ _
  | misled s rest qpm admission h => exact List.cons_ne_nil _ _
  | answered s rest qpm admission h result calls hrest => exact List.cons_ne_nil _ _

end Polling

/-- Polls of one evaluation, from the first one that finds the operation absent or retryable, with
any requests in between.  A poll asks the services in order up to the first that fails, as long as
no earlier one was decided, and unless it is decided itself it leaves the operation retryable.  Once
a poll was decided, every later one returns its response and calls no QPM.  Evaluations and lookups
never touch the allocations and the reservations. -/
theorem polls_until_decided (sha256 : Document → String) (j : Journal) (request : EvaluateRequest)
    (valid : (Request.evaluate request).Valid) (senderUid : ℤ)
    (hbegin : j.MayBegin (request.evaluateKey senderUid)
      (sha256 (.request request.toReserveRequest)))
    (steps : List Step) (hdistinct : Distinguishes sha256 request steps)
    (hfirst : ∀ step rest, steps = step :: rest →
      (step.poll sha256 request senderUid j).isSome = true) :
    (∀ (oracle : Oracle) (job : VerifiedJob),
      oracle 0 (.verifyReserve request.toReserveRequest senderUid) = .ok job →
      ((∀ result ∈ polls sha256 request senderUid j steps, Undecided result) →
        contacted (serve sha256 (journalAfter sha256 j steps) (.evaluate request) senderUid
          oracle).2.trace ≠ [] ∧
        ∃ outcome, evaluateResult sha256 (journalAfter sha256 j steps) request senderUid oracle =
            outcome.map (evaluateResponse request.toReserveRequest) ∧
          Estimates request.toReserveRequest job (sorted request.serviceIds) outcome
            (adapterCalls (serve sha256 (journalAfter sha256 j steps) (.evaluate request) senderUid
              oracle).2.trace)) ∧
      (∀ response, .ok response ∈ polls sha256 request senderUid j steps →
        response.decision ≠ .delayed →
        adapterCalls (serve sha256 (journalAfter sha256 j steps) (.evaluate request) senderUid
            oracle).2.trace = [] ∧
          (serve sha256 (journalAfter sha256 j steps) (.evaluate request) senderUid oracle).1 =
            .evaluate response) ∧
      (Undecided (evaluateResult sha256 (journalAfter sha256 j steps) request senderUid oracle) →
        IsOpen sha256 request senderUid
          (serve sha256 (journalAfter sha256 j steps) (.evaluate request) senderUid
            oracle).2.state)) ∧
    (∀ (other : EvaluateRequest) (otherUid : ℤ) (oracle : Oracle) (faults : Faults)
      (w : GatewayWorld), SameTables w.state ((handle sha256 (.evaluate other) otherUid).run
        (surroundings oracle faults) w).2.state) ∧
    ∀ (other : GetReservationsRequest) (otherUid : ℤ) (oracle : Oracle) (faults : Faults)
      (w : GatewayWorld), SameTables w.state ((handle sha256 (.getReservations other) otherUid).run
        (surroundings oracle faults) w).2.state := by
  refine ⟨fun oracle job hjob => ?_, fun other otherUid oracle faults w =>
    sameTables_evaluate oracle faults sha256 other otherUid w, fun other otherUid oracle faults w =>
    sameTables_lookup oracle faults sha256 other otherUid w⟩
  have hservices : sorted request.serviceIds ≠ [] := by
    have hne : request.serviceIds ≠ [] := (services_of_valid valid).1
    simpa using hne
  have hpolls : Polls sha256 request.toReserveRequest senderUid job (journalAfter sha256 j steps)
      _ _ _ := polls_serve hjob
  rw [serve_evaluate_response]
  rcases open_or_settled hbegin hdistinct hfirst with
    ⟨hmay, hresults⟩ | ⟨response, hdecision, hmem, hresults, hsettled⟩
  · obtain ⟨outcome, hresult, hestimates, hoperation⟩ := hpolls.of_mayBegin hmay
    refine ⟨fun _ => ⟨?_, outcome, hresult, hestimates⟩, fun response hmem hdecision => ?_,
      fun hundecided => ⟨_, hoperation, rfl, ?_⟩⟩
    · rw [← contacted_adapterCalls]
      exact hestimates.contacted_ne_nil hservices
    · exact absurd (hresults _ hmem) hdecision
    · cases hend : evaluateResult sha256 (journalAfter sha256 j steps) request senderUid oracle with
      | error error => rfl
      | ok response =>
        rw [hend] at hundecided
        simp [evaluationOutcome, show response.decision = .delayed from hundecided]
  · obtain ⟨hresult, -, hcalls⟩ := hpolls.of_settled hsettled
    refine ⟨fun hall => absurd (hall _ hmem) hdecision, fun other hother hnot => ?_, fun h => ?_⟩
    · refine ⟨hcalls, ?_⟩
      rcases hresults _ hother with hundecided | heq
      · exact absurd hundecided hnot
      · cases heq
        rw [hresult]
    · rw [hresult] at h
      exact absurd h hdecision

/-- An evaluation of one service is accepted; polled again, it calls no QPM. -/
theorem polls_until_decided_accepted :
    adapterCalls (serve sampleDigest
      (journalAfter sampleDigest Journal.empty
        [.handle (.evaluate ⟨sampleReserve 1 ["qpm-a"]⟩) (by decide) 1000 obliging])
      (.evaluate ⟨sampleReserve 1 ["qpm-a"]⟩) 1000 obliging).2.trace = [] := by
  have h := polls_until_decided sampleDigest Journal.empty ⟨sampleReserve 1 ["qpm-a"]⟩ (by decide)
    1000 (fun row hrow => nomatch hrow)
    [.handle (.evaluate ⟨sampleReserve 1 ["qpm-a"]⟩) (by decide) 1000 obliging]
    (by
      intro step hstep other valid otherUid oracle heq _
      rw [List.mem_singleton.mp hstep] at heq
      cases heq
      rfl)
    (by
      rintro step rest heq
      cases heq
      decide)
  exact ((h.1 obliging sampleJob rfl).2.1 _ (List.mem_cons_self) (by decide)).1

/-- A request id that was used for another evaluation stays refused: the poll is verified and calls
no QPM. -/
theorem poll_refused_after_reuse :
    ∃ response, (serve sampleDigest
        (journalAfter sampleDigest Journal.empty
          [.handle (.evaluate ⟨sampleReserve 1 ["qpm-b"]⟩) (by decide) 1000 obliging])
        (.evaluate ⟨sampleReserve 1 ["qpm-a"]⟩) 1000 obliging).1 = .error response ∧
      response.errorCode = .requestConflict ∧
      adapterCalls (serve sampleDigest
        (journalAfter sampleDigest Journal.empty
          [.handle (.evaluate ⟨sampleReserve 1 ["qpm-b"]⟩) (by decide) 1000 obliging])
        (.evaluate ⟨sampleReserve 1 ["qpm-a"]⟩) 1000 obliging).2.trace = [] := by
  refine ⟨_, rfl, rfl, ?_⟩
  decide

end QfwSlurm
