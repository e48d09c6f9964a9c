import QfwSlurm.Gateway.Provenance
import QfwSlurm.Gateway.SlurmVerifier

/-!
# Who may act on an allocation

Requests arrive one after the other at a gateway whose verifier is the one of `slurm_verifier.py`;
`scontrol` prints what it likes, and the adapter answers what it likes.  A `Submission` is a request
with its sender and these answers, and `Warrants` says that its verification succeeded and what
Slurm reported then.

Ids are followed with `Effect`: the invariant `Traced` of a run says that every id in the journal
was granted to the allocation that it stands under, and that every stored response with ids is the
outcome of an earlier submission that had a warrant for their allocation.
-/

namespace QfwSlurm

open Interaction

/-- A request with its sender, what `scontrol` prints while it is processed, and the answers of the
adapter. -/
structure Submission where
  request : Request
  valid : request.Valid
  senderUid : ℤ
  slurm : ℕ → Scontrol
  adapter : Oracle

/-- The verification of a request, answered with a job. -/
def Event.Verifies (request : Request) (senderUid : ℤ) : Event → Prop
  | ⟨.call (.verifyReserve verified sender), .ok _⟩ =>
    (request = .reserve verified ∨ request = .evaluate ⟨verified⟩) ∧ sender = senderUid
  | ⟨.call (.verifyRelease verified sender _), .ok _⟩ =>
    request = .release verified ∧ sender = senderUid
  | ⟨.call (.verifyLookup verified sender), .ok _⟩ =>
    request = .getReservations verified ∧ sender = senderUid
  | _ => False

/-- The operation a request is journalled as, with the fingerprint of the request. -/
def Request.operation (sha256 : Document → String) (senderUid : ℤ) :
    Request → Option (OperationKey × String)
  | .evaluate request =>
    some (request.toReserveRequest.operationKey .evaluate senderUid,
      sha256 (.request request.toReserveRequest))
  | .reserve request => some (request.reserveKey senderUid, request.fingerprint sha256)
  | .release request => some (request.operationKey senderUid, request.fingerprint sha256)
  | .getReservations _ => none

section Submissions

variable (sha256 : Document → String) (verifier : SlurmVerifier) (j : Journal) (x : Submission)

/-- The step of a submission. -/
def Submission.step : Step :=
  .handle x.request x.valid x.senderUid (verifier.oracle x.slurm x.adapter)

/-- What a submission is answered. -/
def Submission.response : Response :=
  (serve sha256 j x.request x.senderUid (verifier.oracle x.slurm x.adapter)).1

/-- The submission was verified, and what Slurm reported then lets its sender act on the allocation
for the owner. -/
def Warrants (key : AllocationKey) (owner : ℤ) : Prop :=
  ∃ n event, ((x.step verifier).trace sha256 j)[n]? = some event ∧
    event.Verifies x.request x.senderUid ∧
    verifier.Authorizes (x.slurm n) x.request x.senderUid key owner

/-- The journal after a run of submissions. -/
abbrev journalOf (past : List Submission) : Journal :=
  journalAfter sha256 Journal.empty (past.map (Submission.step verifier))

/-- What a run of submissions asked and was answered. -/
abbrev historyOf (past : List Submission) : List Event :=
  runTrace sha256 Journal.empty (past.map (Submission.step verifier))

end Submissions

/-! ### One submission -/

/-- A statement that returned after one question stands in the trace with it. -/
lemma getElem?_trace_bind {α β : Type} {E : Environment Journal Query Answer} {x : Gateway β}
    {f : β → Gateway α} {b : β} {w w' : GatewayWorld} {event : Event}
    (h : Procedure.exec E x w = (.ok b, w')) (htrace : w'.trace = w.trace ++ [event]) :
    (Procedure.exec E (x >>= f) w).2.trace[w.trace.length]? = some event := by
  obtain ⟨events, hevents, -⟩ := Program.run_trace_answers (P := fun _ => True) E
    (fun _ _ => trivial) (ExceptT.run (f b)) w'
  rw [Procedure.exec_bind_ok h f, Procedure.exec, hevents, htrace]
  simp

section Verifications

variable {sha256 : Document → String} {verifier : SlurmVerifier} {j : Journal} {senderUid : ℤ}
  {slurm : ℕ → Scontrol} {adapter : Oracle} {job : VerifiedJob}

/-- The first question of a handler that begins with a call. -/
lemma getElem?_trace_invoke {α β : Type} {oracle : Oracle} {c : Call}
    {read : c.Answer → Except PyError β} {b : β} {rest : β → Gateway α} {answer : c.Answer}
    (hanswer : oracle 0 c = answer) (hread : read answer = .ok b) :
    (Procedure.exec (surroundings oracle noFaults) (invoke c read >>= rest) ⟨j, []⟩).2.trace[0]? =
      some ⟨.call c, answer⟩ := by
  have hinvoke := exec_invoke oracle noFaults ⟨j, []⟩ c read
  rw [List.length_nil, hanswer, hread] at hinvoke
  exact getElem?_trace_bind hinvoke rfl

/-- A verified evaluate request has a warrant for its allocation. -/
lemma warrants_evaluate {request : EvaluateRequest} (valid : (Request.evaluate request).Valid)
    (hjob : verifier.verifyReserve (slurm 0) request.toReserveRequest senderUid = .ok job) :
    Warrants sha256 verifier j ⟨.evaluate request, valid, senderUid, slurm, adapter⟩
      request.toReserveRequest.key request.jobUid := by
  refine ⟨0, ⟨.call (.verifyReserve request.toReserveRequest senderUid), .ok job⟩, ?_,
    ⟨.inr rfl, rfl⟩, SlurmVerifier.authorizes_of_verifyReserve hjob⟩
  change (serve sha256 j (.evaluate request) senderUid
    (verifier.oracle slurm adapter)).2.trace[0]? = _
  rw [serve, handle, evaluate, run_answer]
  exact getElem?_trace_invoke hjob rfl

/-- A verified reserve request has a warrant for its allocation. -/
lemma warrants_reserve {request : ReserveRequest} (valid : (Request.reserve request).Valid)
    (hjob : verifier.verifyReserve (slurm 0) request senderUid = .ok job) :
    Warrants sha256 verifier j ⟨.reserve request, valid, senderUid, slurm, adapter⟩
      request.key request.jobUid := by
  refine ⟨0, ⟨.call (.verifyReserve request senderUid), .ok job⟩, ?_, ⟨.inl rfl, rfl⟩,
    SlurmVerifier.authorizes_of_verifyReserve hjob⟩
  change (serve sha256 j (.reserve request) senderUid
    (verifier.oracle slurm adapter)).2.trace[0]? = _
  rw [serve, handle, reserve, run_answer]
  exact getElem?_trace_invoke hjob rfl

/-- A verified lookup has a warrant for the canonical allocation. -/
lemma warrants_lookup {request : GetReservationsRequest}
    (valid : (Request.getReservations request).Valid)
    (hjob : verifier.verifyLookup (slurm 0) request senderUid = .ok job) :
    Warrants sha256 verifier j ⟨.getReservations request, valid, senderUid, slurm, adapter⟩
      ⟨request.clusterName, job.canonicalJobId⟩ job.uid := by
  refine ⟨0, ⟨.call (.verifyLookup request senderUid), .ok job⟩, ?_, ⟨rfl, rfl⟩,
    SlurmVerifier.authorizes_of_verifyLookup hjob⟩
  change (serve sha256 j (.getReservations request) senderUid
    (verifier.oracle slurm adapter)).2.trace[0]? = _
  rw [serve, handle, getReservations, run_answer]
  exact getElem?_trace_invoke hjob rfl

lemma beginOperation_of_mayBegin {key : OperationKey} {fingerprint : String}
    (h : j.MayBegin key fingerprint) :
    j.beginOperation key fingerprint = .ok (none, j.putOperation key (begunRow fingerprint)) := by
  rcases beginOperation_cases key fingerprint j with ⟨row, hrow, hne, -⟩ |
    ⟨row, hrow, -, hstate, -⟩ | ⟨-, hbegin⟩
  · exact absurd (h row hrow).1 hne
  · exact absurd (h row hrow).2 hstate
  · exact hbegin

/-- The journal and the trace of a release that has begun and is about to be verified. -/
def ReleaseRequest.begunWorld (sha256 : Document → String) (request : ReleaseRequest)
    (senderUid : ℤ) (j : Journal) : GatewayWorld :=
  ⟨j.putOperation (request.operationKey senderUid) (begunRow (request.fingerprint sha256)),
    [⟨.transaction (.beginOperation (request.operationKey senderUid)
      (request.fingerprint sha256)), .ok none⟩,
    ⟨.transaction (.allocationStatus request.key), .ok (j.allocation request.key)⟩]⟩

/-- The verification of a release, with the owner on record. -/
abbrev ReleaseRequest.verification (request : ReleaseRequest) (senderUid : ℤ) (j : Journal) : Call :=
  .verifyRelease request senderUid ((j.allocation request.key).map AllocationRow.jobUid)

/-- A release that may begin asks the verifier third. -/
lemma exec_releaseTry_begun (oracle : Oracle) {request : ReleaseRequest}
    (hbegin : j.MayBegin (request.operationKey senderUid) (request.fingerprint sha256)) :
    ∃ rest : VerifiedJob → Gateway ReleaseResponse,
      Procedure.exec (surroundings oracle noFaults) (releaseTry sha256 request senderUid) ⟨j, []⟩ =
        Procedure.exec (surroundings oracle noFaults)
          (invoke (request.verification senderUid j) (Except.mapError VerifierFailure.error) >>= rest)
          (request.begunWorld sha256 senderUid j) := by
  have hbegun := exec_transact_noFaults oracle ⟨j, []⟩
    (.beginOperation (request.operationKey senderUid) (request.fingerprint sha256))
  rw [Transaction.apply, beginOperation_of_mayBegin hbegin] at hbegun
  have hstatus := exec_transact_noFaults oracle ⟨j.putOperation (request.operationKey senderUid)
    (begunRow (request.fingerprint sha256)), [] ++ [⟨.transaction (.beginOperation
      (request.operationKey senderUid) (request.fingerprint sha256)), .ok none⟩]⟩
    (.allocationStatus request.key)
  rw [Transaction.apply] at hstatus
  unfold releaseTry
  rw [Procedure.exec_bind_ok hbegun]
  dsimp only
  unfold attemptRelease
  rw [Procedure.exec_bind_ok hstatus]
  exact ⟨_, rfl⟩

/-- A release that is not verified has begun its operation, and nothing else. -/
lemma serve_release_unverified {oracle : Oracle} {request : ReleaseRequest}
    (hbegin : j.MayBegin (request.operationKey senderUid) (request.fingerprint sha256))
    {failure : VerifierFailure}
    (hfailure : oracle 2 (request.verification senderUid j) = .error failure) :
    (serve sha256 j (.release request) senderUid oracle).1 =
        releaseError request.requestId failure.error ∧
      (serve sha256 j (.release request) senderUid oracle).2.state =
        j.putOperation (request.operationKey senderUid) (begunRow (request.fingerprint sha256)) ∧
      adapterCalls (serve sha256 j (.release request) senderUid oracle).2.trace = [] := by
  obtain ⟨rest, hexec⟩ := exec_releaseTry_begun oracle hbegin
  have hverify := exec_invoke oracle noFaults (request.begunWorld sha256 senderUid j)
    (request.verification senderUid j) (Except.mapError VerifierFailure.error)
  rw [show (request.begunWorld sha256 senderUid j).trace.length = 2 from rfl, hfailure] at hverify
  rw [Procedure.exec_bind_error hverify] at hexec
  rw [serve, handle, release, run_answer, hexec]
  exact ⟨rfl, rfl, rfl⟩

/-- A verified release has a warrant for its allocation and the owner on record. -/
lemma warrants_release {request : ReleaseRequest} (valid : (Request.release request).Valid)
    (hbegin : j.MayBegin (request.operationKey senderUid) (request.fingerprint sha256))
    (hjob : verifier.verifyRelease (slurm 2) request senderUid
      ((j.allocation request.key).map AllocationRow.jobUid) = .ok job) :
    Warrants sha256 verifier j ⟨.release request, valid, senderUid, slurm, adapter⟩ request.key
        job.uid ∧
      ∀ owner, OwnedBy j request.key owner → owner = job.uid := by
  obtain ⟨hauthorizes, hexpected⟩ := SlurmVerifier.authorizes_of_verifyRelease hjob
  refine ⟨⟨2, ⟨.call (request.verification senderUid j), .ok job⟩, ?_, ⟨rfl, rfl⟩, hauthorizes⟩,
    fun owner howned => ?_⟩
  · obtain ⟨rest, hexec⟩ := exec_releaseTry_begun (verifier.oracle slurm adapter) hbegin
    have hverify := exec_invoke (verifier.oracle slurm adapter) noFaults
      (request.begunWorld sha256 senderUid j) (request.verification senderUid j)
      (Except.mapError VerifierFailure.error)
    have horacle : verifier.oracle slurm adapter 2 (request.verification senderUid j) = .ok job :=
      hjob
    rw [show (request.begunWorld sha256 senderUid j).trace.length = 2 from rfl, horacle] at hverify
    change (serve sha256 j (.release request) senderUid
      (verifier.oracle slurm adapter)).2.trace[2]? = _
    rw [serve, handle, release, run_answer, hexec]
    exact getElem?_trace_bind hverify rfl
  · obtain ⟨row, hrow, rfl⟩ := howned
    exact hexpected row.jobUid (by rw [hrow]; rfl)

end Verifications

section Effects

variable {sha256 : Document → String} {verifier : SlurmVerifier} {j : Journal}

/-- A submission has its effect under its warrants, and calls the QPMs with a warrant alone. -/
def Submission.Lawful (sha256 : Document → String) (verifier : SlurmVerifier) (j : Journal)
    (x : Submission) : Prop :=
  Effect j ((x.step verifier).next sha256 j) (adapterCalls ((x.step verifier).trace sha256 j))
      (Warrants sha256 verifier j x) (x.request.operation sha256 x.senderUid)
      (x.response sha256 verifier j).reservationIds ∧
    (adapterCalls ((x.step verifier).trace sha256 j) ≠ [] →
      ∃ key owner, Warrants sha256 verifier j x key owner)

/-- A submission that is answered with an error, changes nothing and calls no QPM is lawful. -/
lemma Submission.lawful_of_idle {x : Submission} {error : ErrorResponse}
    (hresponse : x.response sha256 verifier j = .error error)
    (hstate : (x.step verifier).next sha256 j = j)
    (hcalls : adapterCalls ((x.step verifier).trace sha256 j) = []) :
    x.Lawful sha256 verifier j := by
  unfold Submission.Lawful
  rw [hresponse, hstate, hcalls]
  exact ⟨Effect.of_eq rfl fun pair hpair => (nomatch hpair), fun h => absurd rfl h⟩

lemma Submission.lawful_evaluate (request : EvaluateRequest) (valid : (Request.evaluate request).Valid)
    (senderUid : ℤ) (slurm : ℕ → Scontrol) (adapter : Oracle) :
    Submission.Lawful sha256 verifier j ⟨.evaluate request, valid, senderUid, slurm, adapter⟩ := by
  cases hverdict : verifier.verifyReserve (slurm 0) request.toReserveRequest senderUid with
  | error failure =>
    have hserve : serve sha256 j (.evaluate request) senderUid (verifier.oracle slurm adapter) = _ :=
      evaluate_unverified hverdict
    obtain ⟨error, herror⟩ := operationError_eq "evaluate" request.requestId failure.error
    rw [herror] at hserve
    exact Submission.lawful_of_idle (congrArg Prod.fst hserve) (congrArg (·.2.state) hserve)
      (congrArg (fun served => adapterCalls served.2.trace) hserve)
  | ok job =>
    have hwarrant : Warrants sha256 verifier j
        ⟨.evaluate request, valid, senderUid, slurm, adapter⟩ request.toReserveRequest.key
        request.jobUid := warrants_evaluate valid hverdict
    refine ⟨?_, fun _ => ⟨_, _, hwarrant⟩⟩
    have hresponse : (Submission.response sha256 verifier j
        ⟨.evaluate request, valid, senderUid, slurm, adapter⟩).reservationIds = evaluatedIds
          (evaluateResult sha256 j request senderUid (verifier.oracle slurm adapter)) := by
      rw [Submission.response, serve_evaluate_response]
      cases evaluateResult sha256 j request senderUid (verifier.oracle slurm adapter) with
      | ok response => rfl
      | error error =>
        obtain ⟨failure, hfailure⟩ := operationError_eq "evaluate" request.requestId error
        simp only [hfailure]
        rfl
    rw [hresponse]
    exact (polls_serve hverdict).effect

lemma Submission.lawful_reserve (request : ReserveRequest) (valid : (Request.reserve request).Valid)
    (senderUid : ℤ) (slurm : ℕ → Scontrol) (adapter : Oracle) :
    Submission.Lawful sha256 verifier j ⟨.reserve request, valid, senderUid, slurm, adapter⟩ := by
  have hresponse : (Submission.response sha256 verifier j
      ⟨.reserve request, valid, senderUid, slurm, adapter⟩).reservationIds = resultIds
        (reserveResult sha256 j request senderUid (verifier.oracle slurm adapter)) := by
    rw [Submission.response, serve_reserve_response]
    cases reserveResult sha256 j request senderUid (verifier.oracle slurm adapter) with
    | ok response => rfl
    | error error =>
      obtain ⟨failure, hfailure⟩ := operationError_eq "reserve" request.requestId error
      simp only [hfailure]
      rfl
  cases hverdict : verifier.verifyReserve (slurm 0) request senderUid with
  | error failure =>
    have hserve : reserveResult sha256 j request senderUid (verifier.oracle slurm adapter) = _ ∧
        (serve sha256 j (.reserve request) senderUid (verifier.oracle slurm adapter)).2 = _ :=
      serve_unverified sha256 j hverdict
    obtain ⟨hresult, hworld⟩ := hserve
    obtain ⟨error, herror⟩ := operationError_eq "reserve" request.requestId failure.error
    refine Submission.lawful_of_idle (?_ : _ = Response.error error) (congrArg (·.state) hworld)
      (congrArg (fun world => adapterCalls world.trace) hworld)
    rw [Submission.response, serve_reserve_response, hresult]
    exact herror
  | ok job =>
    have hwarrant : Warrants sha256 verifier j
        ⟨.reserve request, valid, senderUid, slurm, adapter⟩ request.key request.jobUid :=
      warrants_reserve valid hverdict
    refine ⟨?_, fun _ => ⟨_, _, hwarrant⟩⟩
    rw [hresponse]
    exact (reserves_serve sha256 j valid hverdict).effect hwarrant

/-- What the body of `_release` returned or raised. -/
def releaseResult (sha256 : Document → String) (j : Journal) (request : ReleaseRequest)
    (senderUid : ℤ) (oracle : Oracle) : Except PyError ReleaseResponse :=
  (Procedure.exec (surroundings oracle noFaults) (releaseTry sha256 request senderUid) ⟨j, []⟩).1

@[simp] lemma reservationIds_releaseError (requestId : ℤ) (error : PyError) :
    (releaseError requestId error).reservationIds = [] := by
  unfold releaseError
  split
  · rfl
  · rfl
  · split_ifs
    · rfl
    · rfl

/-- A release whose operation is known calls no QPM. -/
lemma Releases.calls_of_not_mayBegin {request : ReleaseRequest} {senderUid : ℤ} {j' : Journal}
    {result : Except PyError ReleaseResponse} {calls : List Event}
    (h : Releases sha256 request senderUid j result j' calls)
    (hbegin : ¬ j.MayBegin (request.operationKey senderUid) (request.fingerprint sha256)) :
    calls = [] := by
  cases h with
  | unknown visits hmay => exact absurd hmay hbegin
  | released row visits hmay => exact absurd hmay hbegin
  | _ => rfl

lemma Submission.lawful_release (request : ReleaseRequest) (valid : (Request.release request).Valid)
    (senderUid : ℤ) (slurm : ℕ → Scontrol) (adapter : Oracle)
    (howned : ∀ key pair, Known j key pair → ∃ owner, OwnedBy j key owner) :
    Submission.Lawful sha256 verifier j ⟨.release request, valid, senderUid, slurm, adapter⟩ := by
  have hreleases : Releases sha256 request senderUid j
      (releaseResult sha256 j request senderUid (verifier.oracle slurm adapter))
      (serve sha256 j (.release request) senderUid (verifier.oracle slurm adapter)).2.state
      (adapterCalls
        (serve sha256 j (.release request) senderUid (verifier.oracle slurm adapter)).2.trace) := by
    rw [serve, handle, release, run_answer]
    exact (exec_releaseTry _ sha256 request senderUid ⟨j, []⟩).of_nil
  have hresponse : (Submission.response sha256 verifier j
      ⟨.release request, valid, senderUid, slurm, adapter⟩).reservationIds = releasedIds
        (releaseResult sha256 j request senderUid (verifier.oracle slurm adapter)) := by
    rw [Submission.response, serve, handle, release, run_answer, ← releaseResult]
    cases releaseResult sha256 j request senderUid (verifier.oracle slurm adapter) with
    | ok response => rfl
    | error error => exact reservationIds_releaseError request.requestId error
  by_cases hbegin : j.MayBegin (request.operationKey senderUid) (request.fingerprint sha256)
  · cases hverdict : verifier.verifyRelease (slurm 2) request senderUid
      ((j.allocation request.key).map AllocationRow.jobUid) with
    | error failure =>
      have hunverified : (serve sha256 j (.release request) senderUid
          (verifier.oracle slurm adapter)).1 = _ ∧ _ ∧ _ := serve_release_unverified hbegin hverdict
      obtain ⟨herror, hstate, hcalls⟩ := hunverified
      have hnext : (Submission.step verifier
          ⟨.release request, valid, senderUid, slurm, adapter⟩).next sha256 j = _ := hstate
      have htrace : adapterCalls ((Submission.step verifier
          ⟨.release request, valid, senderUid, slurm, adapter⟩).trace sha256 j) = [] := hcalls
      unfold Submission.Lawful
      rw [hnext, htrace, Submission.response, herror, reservationIds_releaseError]
      exact ⟨Effect.begun _ _, fun h => absurd rfl h⟩
    | ok job =>
      have hwarrants : Warrants sha256 verifier j
          ⟨.release request, valid, senderUid, slurm, adapter⟩ request.key job.uid ∧ _ :=
        warrants_release valid hbegin hverdict
      obtain ⟨hwarrant, howner⟩ := hwarrants
      refine ⟨?_, fun _ => ⟨_, _, hwarrant⟩⟩
      rw [hresponse]
      refine hreleases.effect (howned request.key) fun _ owner hown => ?_
      rw [howner owner hown]
      exact hwarrant
  · refine ⟨?_, fun hcalls => absurd (hreleases.calls_of_not_mayBegin hbegin) hcalls⟩
    rw [hresponse]
    exact hreleases.effect (howned request.key) fun h => absurd h hbegin

lemma Submission.lawful_lookup (request : GetReservationsRequest)
    (valid : (Request.getReservations request).Valid) (senderUid : ℤ) (slurm : ℕ → Scontrol)
    (adapter : Oracle) :
    Submission.Lawful sha256 verifier j
      ⟨.getReservations request, valid, senderUid, slurm, adapter⟩ := by
  obtain ⟨hstate, hcalls⟩ := lookup_serve sha256 j request senderUid (verifier.oracle slurm adapter)
  rcases serve_lookup sha256 j request senderUid (verifier.oracle slurm adapter) with
    ⟨error, herror⟩ | ⟨job, records, hjob, hcontext, hresponse⟩
  · exact Submission.lawful_of_idle herror hstate hcalls
  · have hwarrant : Warrants sha256 verifier j
        ⟨.getReservations request, valid, senderUid, slurm, adapter⟩
        ⟨request.clusterName, job.canonicalJobId⟩ job.uid := warrants_lookup valid hjob
    obtain ⟨howned, hknown⟩ := known_of_reservationContext hcontext
    have hnext : (Submission.step verifier
        ⟨.getReservations request, valid, senderUid, slurm, adapter⟩).next sha256 j = j := hstate
    have htrace : adapterCalls ((Submission.step verifier
        ⟨.getReservations request, valid, senderUid, slurm, adapter⟩).trace sha256 j) = [] := hcalls
    unfold Submission.Lawful
    rw [hnext, htrace]
    refine ⟨Effect.of_eq rfl fun pair hpair => ?_, fun h => absurd rfl h⟩
    rw [Submission.response, hresponse] at hpair
    obtain ⟨item, hitem, rfl⟩ := List.mem_map.mp hpair
    obtain ⟨record, hrecord, hitem⟩ := List.mem_filterMap.mp hitem
    obtain ⟨id, hid, rfl⟩ := Option.map_eq_some_iff.mp hitem
    exact .inl ⟨_, _, hwarrant, howned, .inl (hknown record hrecord id hid)⟩

/-- Every submission is lawful where the journal has an owner for every reservation. -/
theorem Submission.lawful (x : Submission)
    (howned : ∀ key pair, Known j key pair → ∃ owner, OwnedBy j key owner) :
    x.Lawful sha256 verifier j := by
  obtain ⟨request, valid, senderUid, slurm, adapter⟩ := x
  cases request with
  | evaluate request => exact Submission.lawful_evaluate request valid senderUid slurm adapter
  | reserve request => exact Submission.lawful_reserve request valid senderUid slurm adapter
  | release request => exact Submission.lawful_release request valid senderUid slurm adapter howned
  | getReservations request => exact Submission.lawful_lookup request valid senderUid slurm adapter

end Effects

/-! ### Runs of submissions -/

section Runs

variable (sha256 : Document → String) (verifier : SlurmVerifier)

/-- A submission of the run had a warrant for an allocation that the reservation was granted to, and
the allocation is the owner's. -/
def Vested (run : List Submission) (source : Submission → Prop) (pair : String × ℤ) : Prop :=
  ∃ before x after key owner, run = before ++ x :: after ∧ source x ∧
    Warrants sha256 verifier (journalOf sha256 verifier before) x key owner ∧
    OwnedBy (journalOf sha256 verifier run) key owner ∧
    GrantedTo (historyOf sha256 verifier run) key pair

/-- Every id in the journal was granted to the allocation it stands under, which has an owner; and
the ids of a stored response come from a submission of the same operation and fingerprint. -/
structure Traceable (past : List Submission) : Prop where
  known : ∀ key pair, Known (journalOf sha256 verifier past) key pair →
    GrantedTo (historyOf sha256 verifier past) key pair ∧
      ∃ owner, OwnedBy (journalOf sha256 verifier past) key owner
  operations : ∀ key row, (journalOf sha256 verifier past).operation key = some row →
    ∀ pair ∈ storedIds row.responseJson, Vested sha256 verifier past
      (fun x => x.request.operation sha256 x.senderUid = some (key, row.fingerprint)) pair

variable {sha256 verifier} {past : List Submission} {last : Submission}

lemma journalOf_concat :
    journalOf sha256 verifier (past ++ [last]) =
      (last.step verifier).next sha256 (journalOf sha256 verifier past) := by
  rw [journalOf, List.map_append]
  exact journalAfter_concat _ _ _

lemma historyOf_concat :
    historyOf sha256 verifier (past ++ [last]) = historyOf sha256 verifier past ++
      (last.step verifier).trace sha256 (journalOf sha256 verifier past) := by
  rw [historyOf, List.map_append]
  exact runTrace_concat _ _ _

/-- What a submission is entitled to is vested in it. -/
lemma Traceable.vested_of_entitled (h : Traceable sha256 verifier past) {pair : String × ℤ}
    {source : Submission → Prop} (hsource : source last)
    (hentitled : Entitled (journalOf sha256 verifier past)
      ((last.step verifier).next sha256 (journalOf sha256 verifier past))
      (adapterCalls ((last.step verifier).trace sha256 (journalOf sha256 verifier past)))
      (Warrants sha256 verifier (journalOf sha256 verifier past) last) pair) :
    Vested sha256 verifier (past ++ [last]) source pair := by
  obtain ⟨key, owner, hwarrant, howned, hpair⟩ := hentitled
  refine ⟨past, last, [], key, owner, rfl, hsource, hwarrant, by rwa [journalOf_concat], ?_⟩
  rw [historyOf_concat]
  rcases hpair with hknown | hgranted
  · exact (h.known key pair hknown).1.mono (List.subset_append_left _ _)
  · exact (hgranted.mono (List.filter_subset_self _)).mono (List.subset_append_right _ _)

/-- What was vested stays so. -/
lemma Vested.concat {source : Submission → Prop} {pair : String × ℤ}
    (h : Vested sha256 verifier past source pair)
    (howners : ∀ key owner, OwnedBy (journalOf sha256 verifier past) key owner →
      OwnedBy ((last.step verifier).next sha256 (journalOf sha256 verifier past)) key owner) :
    Vested sha256 verifier (past ++ [last]) source pair := by
  obtain ⟨before, x, after, key, owner, rfl, hsource, hwarrant, howned, hgranted⟩ := h
  refine ⟨before, x, after ++ [last], key, owner, by simp, hsource, hwarrant, ?_, ?_⟩
  · rw [journalOf_concat]
    exact howners key owner howned
  · rw [historyOf_concat]
    exact hgranted.mono (List.subset_append_left _ _)

/-- A run stays traceable. -/
lemma Traceable.concat (h : Traceable sha256 verifier past) :
    Traceable sha256 verifier (past ++ [last]) := by
  have hlawful : last.Lawful sha256 verifier (journalOf sha256 verifier past) :=
    last.lawful fun key pair hknown => (h.known key pair hknown).2
  obtain ⟨heffect, -⟩ := hlawful
  constructor
  · intro key pair hknown
    rw [journalOf_concat] at hknown ⊢
    rw [historyOf_concat]
    rcases heffect.known key pair hknown with hold | ⟨hgranted, owner, -, howned⟩
    · obtain ⟨hgranted, owner, howned⟩ := h.known key pair hold
      exact ⟨hgranted.mono (List.subset_append_left _ _), owner, heffect.owners key owner howned⟩
    · exact ⟨(hgranted.mono (List.filter_subset_self _)).mono (List.subset_append_right _ _), owner,
        howned⟩
  · intro key row hrow pair hpair
    rw [journalOf_concat] at hrow
    rcases heffect.operations key row hrow pair hpair with hold | ⟨hoperation, hentitled⟩
    · exact (h.operations key row hold pair hpair).concat heffect.owners
    · exact h.vested_of_entitled hoperation hentitled

/-- Every run is traceable. -/
theorem traceable (past : List Submission) : Traceable sha256 verifier past := by
  induction past using List.reverseRecOn with
  | nil =>
    refine ⟨fun key pair hknown => ?_, fun key row hrow => ?_⟩
    · rcases hknown with ⟨row, hrow, -⟩ | ⟨row, hrow, -⟩
      · cases hrow
      · cases hrow
    · cases hrow
  | append_singleton past last ih => exact ih.concat

/-- The document whose fingerprint stands for the content of a request. -/
def Request.document (request : Request) : Option Document := (Task.handle request 0).document

/-- The digest tells the contents of the requests of a run apart. -/
def TellsApart (sha256 : Document → String) (run : List Submission) : Prop :=
  ∀ d ∈ run.filterMap fun x => x.request.document,
    ∀ d' ∈ run.filterMap fun x => x.request.document, sha256 d = sha256 d' → d = d'

/-- One operation with one fingerprint belongs to one sender and, unless the digest takes two
documents for one, to one content. -/
lemma Request.eq_of_operation {request other : Request} {senderUid otherUid : ℤ}
    {operation : OperationKey × String}
    (h : request.operation sha256 senderUid = some operation)
    (h' : other.operation sha256 otherUid = some operation) :
    ∃ d d', request.document = some d ∧ other.document = some d' ∧ sha256 d = sha256 d' ∧
      (d = d' → senderUid = otherUid ∧ request = other) := by
  rw [← h] at h'
  cases request with
  | evaluate request =>
    cases other with
    | evaluate other =>
      obtain ⟨hkey, hdigest⟩ := Prod.mk.inj (Option.some.inj h')
      refine ⟨_, _, rfl, rfl, hdigest.symm, fun hd => ⟨congrArg OperationKey.senderUid hkey.symm, ?_⟩⟩
      obtain ⟨request⟩ := request
      obtain ⟨other⟩ := other
      rw [show request = other from Document.request.inj hd]
    | reserve other => cases congrArg OperationKey.operation (Prod.mk.inj (Option.some.inj h')).1
    | release other => cases congrArg OperationKey.operation (Prod.mk.inj (Option.some.inj h')).1
    | getReservations other => cases h'
  | reserve request =>
    cases other with
    | reserve other =>
      obtain ⟨hkey, hdigest⟩ := Prod.mk.inj (Option.some.inj h')
      refine ⟨_, _, rfl, rfl, hdigest.symm, fun hd => ⟨congrArg OperationKey.senderUid hkey.symm, ?_⟩⟩
      rw [show request = other from Document.request.inj hd]
    | evaluate other => cases congrArg OperationKey.operation (Prod.mk.inj (Option.some.inj h')).1
    | release other => cases congrArg OperationKey.operation (Prod.mk.inj (Option.some.inj h')).1
    | getReservations other => cases h'
  | release request =>
    cases other with
    | release other =>
      obtain ⟨hkey, hdigest⟩ := Prod.mk.inj (Option.some.inj h')
      refine ⟨_, _, rfl, rfl, hdigest.symm, fun hd => ⟨congrArg OperationKey.senderUid hkey.symm, ?_⟩⟩
      rw [show request = other from Document.release.inj hd]
    | evaluate other => cases congrArg OperationKey.operation (Prod.mk.inj (Option.some.inj h')).1
    | reserve other => cases congrArg OperationKey.operation (Prod.mk.inj (Option.some.inj h')).1
    | getReservations other => cases h'
  | getReservations request => cases h

/-- Two submissions of a run with one operation and one fingerprint have the same sender and
content. -/
lemma TellsApart.eq_of_operation {run : List Submission} (h : TellsApart sha256 run)
    {x y : Submission} (hx : x ∈ run) (hy : y ∈ run) {operation : OperationKey × String}
    (hoperation : x.request.operation sha256 x.senderUid = some operation)
    (hsame : y.request.operation sha256 y.senderUid = some operation) :
    x.senderUid = y.senderUid ∧ x.request = y.request := by
  obtain ⟨d, d', hd, hd', hdigest, hcontent⟩ := Request.eq_of_operation hoperation hsame
  exact hcontent (h d (List.mem_filterMap.mpr ⟨x, hx, hd⟩) d'
    (List.mem_filterMap.mpr ⟨y, hy, hd'⟩) hdigest)

/-- In every run, a submission is followed by a call to a QPM only when it was verified with a
warrant for an allocation; every reservation that its answer names was granted to an allocation that
it, or an earlier submission of the same sender and content, had a warrant for as its owner; and so
was every reservation that it releases. -/
theorem acts_with_warrant (sha256 : Document → String) (verifier : SlurmVerifier)
    (past : List Submission) (last : Submission) (htells : TellsApart sha256 (past ++ [last])) :
    (∀ event ∈ (last.step verifier).trace sha256 (journalOf sha256 verifier past),
      event.isAdapter = true →
        ∃ key owner, Warrants sha256 verifier (journalOf sha256 verifier past) last key owner) ∧
    (∀ pair ∈ (last.response sha256 verifier (journalOf sha256 verifier past)).reservationIds,
      Vested sha256 verifier (past ++ [last])
        (fun x => x.senderUid = last.senderUid ∧ x.request = last.request) pair) ∧
    ∀ s id, (s, some id) ∈
        returned ((last.step verifier).trace sha256 (journalOf sha256 verifier past)) →
      ∃ key owner, Warrants sha256 verifier (journalOf sha256 verifier past) last key owner ∧
        OwnedBy (journalOf sha256 verifier (past ++ [last])) key owner ∧
        GrantedTo (historyOf sha256 verifier (past ++ [last])) key (s, id) := by
  have htraceable : Traceable sha256 verifier past := traceable past
  have hlawful : last.Lawful sha256 verifier (journalOf sha256 verifier past) :=
    last.lawful fun key pair hknown => (htraceable.known key pair hknown).2
  obtain ⟨heffect, hcalls⟩ := hlawful
  refine ⟨fun event hevent hadapter => ?_, fun pair hpair => ?_, fun s id hreturned => ?_⟩
  · exact hcalls (List.ne_nil_of_mem (List.mem_filter.mpr ⟨hevent, hadapter⟩))
  · rcases heffect.answers pair hpair with hentitled | ⟨key, row, hoperation, hrow, hstored⟩
    · exact htraceable.vested_of_entitled ⟨rfl, rfl⟩ hentitled
    · -- a replay: the operation is that of an earlier submission
      have hvested : Vested sha256 verifier (past ++ [last]) _ pair :=
        (htraceable.operations key row hrow pair hstored).concat heffect.owners
      obtain ⟨before, x, after, k, owner, hrun, hsource, hwarranted⟩ := hvested
      have hx : x ∈ past ++ [last] := hrun ▸ List.mem_append_right _ List.mem_cons_self
      exact ⟨before, x, after, k, owner, hrun, htells.eq_of_operation hx
        (List.mem_append_right _ List.mem_cons_self) hsource hoperation, hwarranted⟩
  · rw [← returned_adapterCalls] at hreturned
    obtain ⟨key, owner, hwarrant, howned, hpair⟩ := heffect.releases s id hreturned
    refine ⟨key, owner, hwarrant, by rwa [journalOf_concat], ?_⟩
    rw [historyOf_concat]
    rcases hpair with hknown | hgranted
    · exact (htraceable.known key _ hknown).1.mono (List.subset_append_left _ _)
    · exact (hgranted.mono (List.filter_subset_self _)).mono (List.subset_append_right _ _)

end Runs

/-- A verifier that trusts root and the owners of jobs. -/
def sampleVerifier : SlurmVerifier :=
  { clusterName := "cluster"
    trustedSenderUids := []
    host := ⟨fun _ => none, id, fun _ => none⟩ }

/-- Slurm reports the job as a running one of its owner. -/
def sampleScontrol : Scontrol := fun _ _ => .document (.obj [("jobs", .arr [.obj
  [("job_id", .int 7), ("user_id", .int 1000), ("group_id", .int 1000),
    ("job_state", .arr [.str "RUNNING"])]])])

/-- The owner reserves, and root releases. -/
def sampleSubmissions : List Submission :=
  [⟨.reserve (sampleReserve 1 ["qpm-a"]), sampleReserve_valid, 1000, fun _ => sampleScontrol, obliging⟩,
    ⟨.release (sampleRelease 2), trivial, 0, fun _ => sampleScontrol, obliging⟩]

/-- Root repeats the release when Slurm cannot be asked any more. -/
def sampleRepetition : Submission :=
  ⟨.release (sampleRelease 2), trivial, 0, fun _ _ _ => .unreachable "no controller", noDirectory⟩

/-- The repetition is answered with the reservation, which the first release had a warrant for. -/
theorem acts_with_warrant_repeated :
    ("qpm-a", 5) ∈ (sampleRepetition.response sampleDigest sampleVerifier
      (journalOf sampleDigest sampleVerifier sampleSubmissions)).reservationIds ∧
    Vested sampleDigest sampleVerifier (sampleSubmissions ++ [sampleRepetition])
      (fun x => x.senderUid = 0 ∧ x.request = .release (sampleRelease 2)) ("qpm-a", 5) := by
  have hnamed : ("qpm-a", 5) ∈ (sampleRepetition.response sampleDigest sampleVerifier
      (journalOf sampleDigest sampleVerifier sampleSubmissions)).reservationIds := by decide
  have htells : TellsApart sampleDigest (sampleSubmissions ++ [sampleRepetition]) := by
    unfold TellsApart
    decide
  exact ⟨hnamed, (acts_with_warrant sampleDigest sampleVerifier sampleSubmissions sampleRepetition
    htells).2.1 _ hnamed⟩

end QfwSlurm
