import QfwSlurm.Gateway.Footprint
import QfwSlurm.Gateway.Outcomes

/-!
# Refused verifications

A handler puts one question to the Slurm verifier and then never comes back to it.  An evaluation, a
reserve and a lookup ask it before anything else, so a refusal leaves no trace behind.  A release
journals its operation first; a refused release stays behind as a started operation, and the same
release is not processed again once the verifier would let it through.
-/

namespace QfwSlurm

open Interaction

/-! ### Questions to the verifier -/

/-- The question goes to the verifier. -/
def Query.isVerification : Query → Bool
  | .call c => c.isVerification
  | .transaction _ => false

/-- The verifier was asked and raised `SlurmVerificationError`. -/
def Event.refused : Event → Bool
  | ⟨.call (.verifyReserve _ _), .error (.refused _)⟩ => true
  | ⟨.call (.verifyRelease _ _ _), .error (.refused _)⟩ => true
  | ⟨.call (.verifyLookup _ _), .error (.refused _)⟩ => true
  | _ => false

/-- Only the verifier refuses. -/
lemma Event.isVerification_of_refused {event : Event} (h : event.refused = true) :
    event.1.isVerification = true := by
  obtain ⟨q, answer⟩ := event
  cases q with
  | transaction t => cases h
  | call c =>
    cases c with
    | verifyReserve request senderUid => rfl
    | verifyRelease request senderUid expectedUid => rfl
    | verifyLookup request senderUid => rfl
    | _ => cases h

/-- The procedure does not ask the verifier. -/
abbrev Unverifying {ε α : Type} (x : Procedure Query Answer ε α) : Prop :=
  Procedure.Asks (fun q => q.isVerification = false) x

/-- What a procedure that does not ask the verifier adds to the trace holds no refusal. -/
lemma Unverifying.trace {ε α : Type} {x : Procedure Query Answer ε α} (hx : Unverifying x)
    (E : Environment Journal Query Answer) (w : GatewayWorld) :
    ∃ events, (Procedure.exec E x w).2.trace = w.trace ++ events ∧
      ∀ event ∈ events, Event.refused event = false := by
  obtain ⟨events, htrace, hevents⟩ := Program.run_trace_asks E hx w
  refine ⟨events, htrace, fun event hevent => Bool.eq_false_iff.mpr fun hrefused => ?_⟩
  have hverification := Event.isVerification_of_refused hrefused
  rw [hevents event hevent] at hverification
  cases hverification

/-- A procedure whose questions lie in a footprint without the verifier does not ask it. -/
lemma Within.unverifying {ε α : Type} {K : OperationKey → Prop} {L : AllocationKey → Prop}
    {x : Procedure Query Answer ε α} (hx : Within K L False x) : Unverifying x := by
  refine hx.mono fun q hq => ?_
  cases q with
  | transaction t => rfl
  | call c => cases c <;> first | rfl | exact hq.elim

/-! ### One verification -/

/-- The procedure asks the verifier once: it returns the job, or raises the failure. -/
def Verifies (x : Gateway VerifiedJob) : Prop :=
  ∀ oracle w, ∃ (event : Event) (verdict : Except VerifierFailure VerifiedJob),
    Procedure.exec (surroundings oracle noFaults) x w =
      (verdict.mapError VerifierFailure.error, ⟨w.state, w.trace ++ [event]⟩) ∧
    event.isAdapter = false ∧
    (event.refused = true → ∃ message, verdict = .error (.refused message))

lemma verifies_verifyReserve (request : ReserveRequest) (senderUid : ℤ) :
    Verifies (verifyReserve request senderUid) := by
  intro oracle w
  refine ⟨_, _, exec_invoke oracle noFaults w _ _, rfl, ?_⟩
  generalize oracle w.trace.length (.verifyReserve request senderUid) = verdict
  rcases verdict with (message | message) | job <;> simp [Event.refused]

lemma verifies_verifyRelease (request : ReleaseRequest) (senderUid : ℤ) (expectedUid : Option ℤ) :
    Verifies (verifyRelease request senderUid expectedUid) := by
  intro oracle w
  refine ⟨_, _, exec_invoke oracle noFaults w _ _, rfl, ?_⟩
  generalize oracle w.trace.length (.verifyRelease request senderUid expectedUid) = verdict
  rcases verdict with (message | message) | job <;> simp [Event.refused]

lemma verifies_verifyLookup (request : GetReservationsRequest) (senderUid : ℤ) :
    Verifies (verifyLookup request senderUid) := by
  intro oracle w
  refine ⟨_, _, exec_invoke oracle noFaults w _ _, rfl, ?_⟩
  generalize oracle w.trace.length (.verifyLookup request senderUid) = verdict
  rcases verdict with (message | message) | job <;> simp [Event.refused]

/-- A procedure that asks the verifier once, first, ends there when it is refused. -/
lemma exec_of_refused {α : Type} {oracle : Oracle} {x : Gateway VerifiedJob} (hx : Verifies x)
    {rest : VerifiedJob → Gateway α} (hrest : ∀ job, Unverifying (rest job)) {w : GatewayWorld}
    (hw : ∀ event ∈ w.trace, Event.refused event = false)
    (h : ∃ event ∈ (Procedure.exec (surroundings oracle noFaults) (x >>= rest) w).2.trace,
      Event.refused event = true) :
    ∃ (event : Event) (message : String), event.isAdapter = false ∧
      Procedure.exec (surroundings oracle noFaults) (x >>= rest) w =
        (.error ⟨.slurmVerificationError, message⟩, ⟨w.state, w.trace ++ [event]⟩) := by
  obtain ⟨event, verdict, hexec, hadapter, hrefused⟩ := hx oracle w
  have hprior (other : Event) (hother : other ∈ w.trace ++ [event])
      (h : other.refused = true) : event.refused = true := by
    rcases List.mem_append.mp hother with hother | hother
    · rw [hw other hother] at h
      cases h
    · rwa [← List.mem_singleton.mp hother]
  obtain ⟨other, hother, hotherRefused⟩ := h
  cases verdict with
  | error failure =>
    have hexec' := Procedure.exec_bind_error hexec rest
    rw [hexec'] at hother
    obtain ⟨message, hmessage⟩ := hrefused (hprior other hother hotherRefused)
    cases hmessage
    exact ⟨event, message, hadapter, hexec'⟩
  | ok job =>
    exfalso
    rw [Procedure.exec_bind_ok hexec rest] at hother
    obtain ⟨events, htrace, hevents⟩ :=
      (hrest job).trace (surroundings oracle noFaults) ⟨w.state, w.trace ++ [event]⟩
    rw [htrace] at hother
    rcases List.mem_append.mp hother with hother | hother
    · obtain ⟨message, hmessage⟩ := hrefused (hprior other hother hotherRefused)
      cases hmessage
    · rw [hevents other hother] at hotherRefused
      cases hotherRefused

/-- A procedure that is refused leaves the journal as it is from there on. -/
lemma state_of_refused {α : Type} {oracle : Oracle} {x : Gateway VerifiedJob} (hx : Verifies x)
    {rest : VerifiedJob → Gateway α} (hrest : ∀ job, Unverifying (rest job)) {w : GatewayWorld}
    (hw : ∀ event ∈ w.trace, Event.refused event = false)
    (h : ∃ event ∈ (Procedure.exec (surroundings oracle noFaults) (x >>= rest) w).2.trace,
      Event.refused event = true) :
    (Procedure.exec (surroundings oracle noFaults) (x >>= rest) w).2.state = w.state := by
  obtain ⟨event, message, -, hexec⟩ := exec_of_refused hx hrest hw h
  rw [hexec]

/-! ### What a refusal does -/

section Refusals

variable (sha256 : Document → String) (j : Journal) (request : Request) (senderUid : ℤ)
  (oracle : Oracle)

/-- The verifier refused the request while it was handled. -/
def Refused : Prop :=
  ∃ event ∈ (serve sha256 j request senderUid oracle).2.trace, Event.refused event = true

/-- The request is answered with an authorization error, no QPM is called and the journal is left
as it was; whatever happens later, a repeat of the request is processed as if there had been no
first try. -/
structure Unaffected : Prop where
  unauthorized : ∃ response : ErrorResponse, response.errorCode = .unauthorized ∧
    (serve sha256 j request senderUid oracle).1 = .error response
  no_calls : adapterCalls (serve sha256 j request senderUid oracle).2.trace = []
  journal_eq : (serve sha256 j request senderUid oracle).2.state = j
  later : ∀ steps oracle',
    serve sha256 (journalAfter sha256 (serve sha256 j request senderUid oracle).2.state steps)
      request senderUid oracle' =
    serve sha256 (journalAfter sha256 j steps) request senderUid oracle'

variable {sha256 j request senderUid oracle}

/-- A handler that asks the verifier before anything else. -/
lemma unaffected_of_first {α : Type} {x : Gateway VerifiedJob} (hx : Verifies x)
    {rest : VerifiedJob → Gateway α} (hrest : ∀ job, Unverifying (rest job))
    {respond : α → Response} {fail : PyError → Response}
    (hhandle : handle sha256 request senderUid = answer (x >>= rest) respond fail)
    (hfail : ∀ message, ∃ response : ErrorResponse, response.errorCode = .unauthorized ∧
      fail ⟨.slurmVerificationError, message⟩ = .error response)
    (hrefused : Refused sha256 j request senderUid oracle) :
    Unaffected sha256 j request senderUid oracle := by
  have hserve : serve sha256 j request senderUid oracle =
      (answer (x >>= rest) respond fail).run (surroundings oracle noFaults) ⟨j, []⟩ := by
    rw [serve, hhandle]
  rw [run_answer] at hserve
  unfold Refused at hrefused
  rw [hserve] at hrefused
  obtain ⟨event, message, hadapter, hexec⟩ := exec_of_refused hx hrest (by simp) hrefused
  rw [hexec] at hserve
  obtain ⟨response, hcode, hresponse⟩ := hfail message
  have hstate : (serve sha256 j request senderUid oracle).2.state = j := by rw [hserve]
  refine ⟨⟨response, hcode, by rw [hserve]; exact hresponse⟩, ?_, hstate, ?_⟩
  · rw [hserve]
    simp [adapterCalls, hadapter]
  · intro steps oracle'
    rw [hstate]

/-- A refused release leaves a started operation behind. -/
lemma operation_of_refused_release {release : ReleaseRequest}
    (hrefused : Refused sha256 j (.release release) senderUid oracle) :
    (serve sha256 j (.release release) senderUid oracle).2.state.operation
        (release.operationKey senderUid) = some (begunRow (release.fingerprint sha256)) ∧
      j.MayBegin (release.operationKey senderUid) (release.fingerprint sha256) := by
  have hserve : (serve sha256 j (.release release) senderUid oracle).2 =
      (Procedure.exec (surroundings oracle noFaults) (releaseTry sha256 release senderUid)
        ⟨j, []⟩).2 := by
    rw [serve, handle, QfwSlurm.release, run_answer]
  unfold Refused at hrefused
  rw [hserve] at hrefused ⊢
  have htransact := exec_transact_noFaults oracle ⟨j, []⟩
    (.beginOperation (release.operationKey senderUid) (release.fingerprint sha256))
  rw [Transaction.apply] at htransact
  unfold releaseTry at hrefused ⊢
  rcases beginOperation_cases (release.operationKey senderUid) (release.fingerprint sha256) j with
    ⟨row, hrow, hne, hbegin⟩ | ⟨row, hrow, heq, hstate, hbegin⟩ | ⟨hmay, hbegin⟩
  · rw [hbegin] at htransact
    rw [Procedure.exec_bind_error htransact] at hrefused
    simp [Event.refused] at hrefused
  · exfalso
    rw [hbegin] at htransact
    rw [Procedure.exec_bind_ok htransact] at hrefused
    have hreplay : Unverifying (replayRelease ⟨row.state, row.responseJson⟩) :=
      asks_replayRelease _
    obtain ⟨events, htrace, hevents⟩ := hreplay.trace
        (surroundings oracle noFaults) ⟨j, [] ++ [⟨.transaction (.beginOperation
          (release.operationKey senderUid) (release.fingerprint sha256)),
          .ok (some ⟨row.state, row.responseJson⟩)⟩]⟩
    obtain ⟨event, hevent, hrefused⟩ := hrefused
    rw [htrace] at hevent
    rcases List.mem_append.mp hevent with hevent | hevent
    · rw [List.mem_singleton.mp hevent] at hrefused
      cases hrefused
    · rw [hevents event hevent] at hrefused
      cases hrefused
  · rw [hbegin] at htransact
    rw [Procedure.exec_bind_ok htransact] at hrefused ⊢
    refine ⟨?_, hmay⟩
    have hstatus := exec_transact_noFaults oracle ⟨j.putOperation (release.operationKey senderUid)
      (begunRow (release.fingerprint sha256)), [] ++ [⟨.transaction (.beginOperation
        (release.operationKey senderUid) (release.fingerprint sha256)), .ok none⟩]⟩
      (.allocationStatus release.key)
    rw [Transaction.apply] at hstatus
    dsimp only at hrefused ⊢
    unfold attemptRelease at hrefused ⊢
    rw [Procedure.exec_bind_ok hstatus] at hrefused ⊢
    refine (congrArg (Journal.operation · _) (state_of_refused
      (verifies_verifyRelease release senderUid _) (fun job => ?_) ?_ hrefused)).trans ?_
    · exact (within_releasePass (K := fun _ => True) (L := fun _ => True) trivial
        trivial).unverifying
    · simp [Event.refused]
    · exact Journal.operation_putOperation_self _ _ _

/-- A refused verification has no effect exactly when the request is not a release. -/
theorem unaffected_iff (sha256 : Document → String) (j : Journal) (request : Request)
    (senderUid : ℤ) (oracle : Oracle) (hrefused : Refused sha256 j request senderUid oracle) :
    Unaffected sha256 j request senderUid oracle ↔ ∀ release, request ≠ .release release := by
  have hoperation (operation : String) (requestId : ℤ) (message : String) :
      ∃ response : ErrorResponse, response.errorCode = .unauthorized ∧
        operationError operation requestId ⟨.slurmVerificationError, message⟩ = .error response :=
    ⟨_, rfl, rfl⟩
  constructor
  · rintro h release rfl
    obtain ⟨hstarted, hmay⟩ := operation_of_refused_release hrefused
    rw [h.journal_eq] at hstarted
    have hstate := (hmay _ hstarted).2
    cases hstate
  · intro hrelease
    cases request with
    | evaluate request =>
      refine unaffected_of_first (verifies_verifyReserve request.toReserveRequest senderUid)
        (fun job => ?_) rfl (hoperation "evaluate" request.requestId) hrefused
      exact (within_evaluate (K := fun _ => True) (L := fun _ => True) sha256 trivial
        job).unverifying
    | reserve request =>
      refine unaffected_of_first (verifies_verifyReserve request senderUid)
        (fun job => ?_) rfl (hoperation "reserve" request.requestId) hrefused
      exact (within_reserve (K := fun _ => True) (L := fun _ => True) sha256 trivial trivial
        job).unverifying
    | getReservations request =>
      refine unaffected_of_first (verifies_verifyLookup request senderUid)
        (fun job => ?_) rfl (fun message => ⟨_, rfl, rfl⟩) hrefused
      exact .bind ⟨rfl, fun _ => trivial⟩ fun _ => trivial
    | release request => exact absurd rfl (hrelease request)

end Refusals

/-- The verifier refuses everything. -/
def refusing : Oracle := fun _ c =>
  match c with
  | .verifyReserve _ _ | .verifyRelease _ _ _ | .verifyLookup _ _ => .error (.refused "refused")
  | .resolve _ => .error (.adapter "unused")
  | .evaluate _ _ _ => .error (.adapter "unused")
  | .reserve _ _ _ => .error (.adapter "unused")
  | .release _ _ _ => .error (.adapter "unused")

/-- A refused reserve request. -/
theorem unaffected_iff_reserve :
    Unaffected sampleDigest Journal.empty (.reserve (sampleReserve 1 ["qpm-a"])) 1000 refusing :=
  (unaffected_iff sampleDigest Journal.empty (.reserve (sampleReserve 1 ["qpm-a"])) 1000 refusing
    ⟨⟨.call (.verifyReserve (sampleReserve 1 ["qpm-a"]) 1000), .error (.refused "refused")⟩,
      List.mem_singleton.mpr rfl, rfl⟩).mpr fun _ h => nomatch h

/-- A refused release of an accepted allocation: the release that follows it, which the verifier
lets through, is answered with an error instead of being processed. -/
theorem refused_release_affects :
    Refused sampleDigest sampleAccepted (.release (sampleRelease 2)) 1000 refusing ∧
      ¬ Unaffected sampleDigest sampleAccepted (.release (sampleRelease 2)) 1000 refusing := by
  have hthen : (serve sampleDigest (serve sampleDigest sampleAccepted (.release (sampleRelease 2))
      1000 refusing).2.state (.release (sampleRelease 2)) 1000 obliging).1 =
        .error ⟨.internal, some 2, some "release operation requires recovery"⟩ := by decide
  have hnow : (serve sampleDigest sampleAccepted (.release (sampleRelease 2)) 1000 obliging).1 =
      .release ⟨2, [⟨"qpm-a", 5, .released, none, none⟩]⟩ := by decide
  refine ⟨?_, fun h => ?_⟩
  · refine ⟨⟨.call (.verifyRelease (sampleRelease 2) 1000 (some 1000)),
      .error (.refused "refused")⟩, ?_, rfl⟩
    exact List.mem_of_getLast? rfl
  · have hsame := congrArg Prod.fst (h.later [] obliging)
    cases hthen.symm.trans (hsame.trans hnow)

end QfwSlurm
