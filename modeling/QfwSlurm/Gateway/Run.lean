import QfwSlurm.Interaction.Machine
import QfwSlurm.Gateway.Evaluate
import QfwSlurm.Gateway.Release

/-!
# Runs of the gateway

A `Step` is one request that the gateway processes to its end, with the answers the verifier and the
adapter give while it is processed.  A run is a list of steps; each starts from the journal that the
one before it left, and journal calls succeed.  Requests are those the decoder lets through, so a
reserve request names at least one service and none twice.

For each kind of step, the theorems at the end connect the handler with the ways it can end.
-/

namespace QfwSlurm

open Interaction

/-- One request with the answers given while it is processed. -/
inductive Step where
  /-- A request of a client. -/
  | handle (request : Request) (valid : request.Valid) (senderUid : ℤ) (oracle : Oracle)
  /-- The operator's command to repeat a release. -/
  | retry (request : ReleaseRequest) (oracle : Oracle)

section Runs

variable (sha256 : Document → String) (j : Journal)

/-- Process one request of a client. -/
def serve (request : Request) (senderUid : ℤ) (oracle : Oracle) : Response × GatewayWorld :=
  (handle sha256 request senderUid).run (surroundings oracle noFaults) ⟨j, []⟩

/-- The journal and the trace that a step leaves. -/
def Step.world : Step → GatewayWorld
  | .handle request _ senderUid oracle => (serve sha256 j request senderUid oracle).2
  | .retry request oracle =>
    (Procedure.exec (surroundings oracle noFaults) (retryRelease request) ⟨j, []⟩).2

/-- The journal after a step. -/
def Step.next (step : Step) : Journal := (step.world sha256 j).state

/-- What a step asked and was answered. -/
def Step.trace (step : Step) : List Event := (step.world sha256 j).trace

/-- The journal after a run. -/
def journalAfter (steps : List Step) : Journal := after (Step.next sha256) j steps

/-- What a run asked and was answered. -/
def runTrace : Journal → List Step → List Event
  | _, [] => []
  | j, step :: steps => step.trace sha256 j ++ runTrace (step.next sha256 j) steps

/-- The journals a gateway can have between two requests. -/
def Reachable : Prop := ∃ steps, journalAfter sha256 Journal.empty steps = j

end Runs

lemma journalAfter_concat {sha256 : Document → String} (j : Journal) (steps : List Step)
    (step : Step) :
    journalAfter sha256 j (steps ++ [step]) = step.next sha256 (journalAfter sha256 j steps) :=
  after_append _ _ _ _

lemma runTrace_concat {sha256 : Document → String} (j : Journal) (steps : List Step)
    (step : Step) :
    runTrace sha256 j (steps ++ [step]) =
      runTrace sha256 j steps ++ step.trace sha256 (journalAfter sha256 j steps) := by
  induction steps generalizing j with
  | nil => exact List.append_nil _
  | cons first steps ih =>
    rw [List.cons_append, runTrace, runTrace, ih, List.append_assoc]
    rfl

/-- A step leads from a reachable journal to a reachable journal. -/
lemma Reachable.step {sha256 : Document → String} {j : Journal} (h : Reachable sha256 j)
    (step : Step) : Reachable sha256 (step.next sha256 j) := by
  obtain ⟨steps, rfl⟩ := h
  exact ⟨steps ++ [step], journalAfter_concat _ _ _⟩

/-- The allocation whose reservations a step can change. -/
def Step.key : Step → Option AllocationKey
  | .handle (.reserve request) _ _ _ => some request.key
  | .handle (.release request) _ _ _ => some request.key
  | .retry request _ => some request.key
  | _ => none

/-! ### Valid requests -/

/-- A valid reserve request names at least one service and none twice. -/
lemma services_of_valid {request : ReserveRequest} (h : (Request.reserve request).Valid) :
    request.serviceIds ≠ [] ∧ request.serviceIds.Nodup ∧
      request.serviceIds.length ≤ maxServices := by
  have hvalid : validateReserveRequest request = .ok () := h.2
  unfold validateReserveRequest at hvalid
  cases hidentity : validateIdentity request with
  | error error => simp [hidentity, bind, Except.bind] at hvalid
  | ok u =>
    cases hservices : validateServices request.serviceIds with
    | error error => simp [hidentity, hservices, bind, Except.bind] at hvalid
    | ok u => exact validateServices_ok hservices

/-! ### How the steps end -/

/-- A handler turns what its body returned or raised into a response and changes nothing else. -/
lemma run_answer {α : Type} (E : Environment Journal Query Answer) (body : Gateway α)
    (respond : α → Response) (fail : PyError → Response) (w : GatewayWorld) :
    (answer body respond fail).run E w =
      (match (Procedure.exec E body w).1 with
        | .ok value => respond value
        | .error error => fail error, (Procedure.exec E body w).2) := by
  unfold answer
  rw [Program.run_bind]
  change Program.run E (match (Procedure.exec E body w).1 with
    | .ok value => pure (respond value)
    | .error error => pure (fail error)) (Procedure.exec E body w).2 = _
  cases (Procedure.exec E body w).1 <;> rfl

/-- What a body ends with in a step that starts with an empty trace. -/
lemma Ends.of_nil {j : Journal} {E : Environment Journal Query Answer} {α : Type} {x : Gateway α}
    {P : Except PyError α → Journal → List Event → Prop} (h : Ends ⟨j, []⟩ E x P) :
    P (Procedure.exec E x ⟨j, []⟩).1 (Procedure.exec E x ⟨j, []⟩).2.state
      (adapterCalls (Procedure.exec E x ⟨j, []⟩).2.trace) := by
  obtain ⟨events, htrace, hP⟩ := h
  rw [htrace]
  exact hP

section Steps

variable (sha256 : Document → String) (j : Journal)

/-- What the body of `_reserve` returned or raised. -/
def reserveResult (request : ReserveRequest) (senderUid : ℤ) (oracle : Oracle) :
    Except PyError ReserveResponse :=
  (Procedure.exec (surroundings oracle noFaults) (reserveTry sha256 request senderUid) ⟨j, []⟩).1

/-- The response to a reserve request. -/
lemma serve_reserve_response (request : ReserveRequest) (senderUid : ℤ) (oracle : Oracle) :
    (serve sha256 j (.reserve request) senderUid oracle).1 =
      match reserveResult sha256 j request senderUid oracle with
      | .ok response => .reserve response
      | .error error => operationError "reserve" request.requestId error := by
  rw [serve, handle, reserve, run_answer, ← reserveResult]
  cases reserveResult sha256 j request senderUid oracle <;> rfl

/-- A verified reserve request ends in one of the ways `Reserves` lists. -/
theorem reserves_serve {request : ReserveRequest} (hvalid : (Request.reserve request).Valid)
    {senderUid : ℤ} {oracle : Oracle} {job : VerifiedJob}
    (hjob : oracle 0 (.verifyReserve request senderUid) = .ok job) :
    Reserves sha256 request senderUid j (reserveResult sha256 j request senderUid oracle)
      (serve sha256 j (.reserve request) senderUid oracle).2.state
      (adapterCalls (serve sha256 j (.reserve request) senderUid oracle).2.trace) := by
  rw [serve, handle, reserve, run_answer]
  exact (exec_reserveTry oracle sha256 request senderUid ⟨j, []⟩
    (services_of_valid hvalid).1 hjob).of_nil

/-- A reserve request that is not verified is answered with the verifier's failure. -/
lemma serve_unverified {request : ReserveRequest} {senderUid : ℤ} {oracle : Oracle}
    {failure : VerifierFailure}
    (hfailure : oracle 0 (.verifyReserve request senderUid) = .error failure) :
    reserveResult sha256 j request senderUid oracle = .error failure.error ∧
      (serve sha256 j (.reserve request) senderUid oracle).2 =
        ⟨j, [⟨.call (.verifyReserve request senderUid), .error failure⟩]⟩ := by
  have hexec := exec_reserveTry_unverified oracle sha256 request senderUid ⟨j, []⟩ hfailure
  rw [serve, handle, reserve, run_answer, reserveResult, hexec]
  exact ⟨rfl, rfl⟩

/-- A reserve request is not verified and does nothing, or ends in one of the ways `Reserves`
lists. -/
theorem serve_reserve_cases {request : ReserveRequest} (hvalid : (Request.reserve request).Valid)
    (senderUid : ℤ) (oracle : Oracle) :
    (∃ failure : VerifierFailure,
      reserveResult sha256 j request senderUid oracle = .error failure.error ∧
      (serve sha256 j (.reserve request) senderUid oracle).2.state = j ∧
      adapterCalls (serve sha256 j (.reserve request) senderUid oracle).2.trace = []) ∨
    Reserves sha256 request senderUid j (reserveResult sha256 j request senderUid oracle)
      (serve sha256 j (.reserve request) senderUid oracle).2.state
      (adapterCalls (serve sha256 j (.reserve request) senderUid oracle).2.trace) := by
  cases hverdict : oracle 0 (.verifyReserve request senderUid) with
  | ok job => exact .inr (reserves_serve sha256 j hvalid hverdict)
  | error failure =>
    obtain ⟨hresult, hserve⟩ := serve_unverified sha256 j hverdict
    exact .inl ⟨failure, hresult, by rw [hserve], by rw [hserve]; rfl⟩

/-- An evaluate request ends in one of the ways `Evaluates` lists. -/
theorem evaluates_serve (request : EvaluateRequest) (senderUid : ℤ) (oracle : Oracle) :
    ∃ result, Evaluates sha256 request.toReserveRequest senderUid j result
      (serve sha256 j (.evaluate request) senderUid oracle).2.state
      (adapterCalls (serve sha256 j (.evaluate request) senderUid oracle).2.trace) := by
  rw [serve, handle, evaluate, run_answer]
  exact ⟨_, (exec_evaluateTry oracle sha256 request.toReserveRequest senderUid ⟨j, []⟩).of_nil⟩

/-- A lookup leaves the journal alone and calls no QPM. -/
theorem lookup_serve (request : GetReservationsRequest) (senderUid : ℤ) (oracle : Oracle) :
    (serve sha256 j (.getReservations request) senderUid oracle).2.state = j ∧
      adapterCalls (serve sha256 j (.getReservations request) senderUid oracle).2.trace = [] := by
  rw [serve, handle, getReservations, run_answer]
  exact (exec_getReservationsTry oracle request senderUid ⟨j, []⟩).of_nil

/-- A release request ends in one of the ways `Releases` lists. -/
theorem releases_serve (request : ReleaseRequest) (senderUid : ℤ) (oracle : Oracle) :
    ∃ result, Releases sha256 request senderUid j result
      (serve sha256 j (.release request) senderUid oracle).2.state
      (adapterCalls (serve sha256 j (.release request) senderUid oracle).2.trace) := by
  rw [serve, handle, release, run_answer]
  exact ⟨_, (exec_releaseTry oracle sha256 request senderUid ⟨j, []⟩).of_nil⟩

/-- A `retry_release` ends in one of the ways `Retries` lists. -/
theorem retries_step (request : ReleaseRequest) (oracle : Oracle) :
    ∃ result, Retries request j result ((Step.retry request oracle).next sha256 j)
      (adapterCalls ((Step.retry request oracle).trace sha256 j)) :=
  ⟨_, (exec_retryRelease oracle request ⟨j, []⟩).of_nil⟩

end Steps

/-! ### What a step leaves alone -/

/-- Two journals have the same rows for an allocation. -/
structure SameRows (j j' : Journal) (key : AllocationKey) : Prop where
  allocation_eq : j'.allocation key = j.allocation key
  reservation_eq : ∀ s, j'.reservation key s = j.reservation key s

lemma SameRows.refl (j : Journal) (key : AllocationKey) : SameRows j j key := ⟨rfl, fun _ => rfl⟩

lemma SameRows.symm {j j' : Journal} {key : AllocationKey} (h : SameRows j j' key) :
    SameRows j' j key :=
  ⟨h.allocation_eq.symm, fun s => (h.reservation_eq s).symm⟩

lemma SameRows.trans {j j' j'' : Journal} {key : AllocationKey} (h : SameRows j j' key)
    (h' : SameRows j' j'' key) : SameRows j j'' key :=
  ⟨h'.allocation_eq.trans h.allocation_eq, fun s => (h'.reservation_eq s).trans (h.reservation_eq s)⟩

section Frames

variable {sha256 : Document → String} {j j' : Journal} {calls : List Event} {key : AllocationKey}

/-- An update touches the rows of one allocation. -/
lemma Updated.sameRows {operationKey : OperationKey} {operation : OperationRow}
    {key' : AllocationKey} {allocation : AllocationRow} {writes : List (String × ReservationRow)}
    (h : Updated j operationKey operation key' allocation writes j') (hk : key ≠ key') :
    SameRows j j' key :=
  ⟨by rw [h.allocation_eq, if_neg hk], fun s => by rw [h.reservation_eq, if_neg hk]⟩

/-- A reserve request touches the rows of its own allocation. -/
lemma Reserves.sameRows {request : ReserveRequest} {senderUid : ℤ}
    {result : Except PyError ReserveResponse}
    (h : Reserves sha256 request senderUid j result j' calls) (hk : key ≠ request.key) :
    SameRows j j' key := by
  cases h with
  | attempted job a hbegin h hfor hfaultless j' hj => exact hj.sameRows hk
  | extended job a row stored previous hbegin h hm hp hfor hfaultless j' hj => exact hj.sameRows hk
  | stranded job a row stored error hbegin h hm hs hp he hfor j' hj => exact hj.sameRows hk
  | _ => exact ⟨rfl, fun _ => rfl⟩

/-- An evaluation touches no allocation. -/
lemma Evaluates.sameRows {request : ReserveRequest} {senderUid : ℤ}
    {result : Except PyError EvaluateResponse}
    (h : Evaluates sha256 request senderUid j result j' calls) : SameRows j j' key := by
  cases h <;> exact ⟨rfl, fun _ => rfl⟩

/-- A release request touches the rows of its own allocation. -/
lemma Releases.sameRows {request : ReleaseRequest} {senderUid : ℤ}
    {result : Except PyError ReleaseResponse}
    (h : Releases sha256 request senderUid j result j' calls) (hk : key ≠ request.key) :
    SameRows j j' key := by
  cases h with
  | unknown visits hbegin hpass hallocation j' hj =>
    subst hj
    refine ⟨by simp, fun s => ?_⟩
    rw [Journal.reservation_writeAll, if_neg hk, Journal.reservation_putOperation]
  | released row visits hbegin hpass hallocation j' hj => exact hj.sameRows hk
  | _ => exact ⟨rfl, fun _ => rfl⟩

/-- A `retry_release` touches the rows of its own allocation. -/
lemma Retries.sameRows {request : ReleaseRequest} {result : Except PyError ReleaseResponse}
    (h : Retries request j result j' calls) (hk : key ≠ request.key) : SameRows j j' key := by
  cases h with
  | unknown visits hpass hallocation j' hj =>
    subst hj
    exact ⟨by simp, fun s => by rw [Journal.reservation_writeAll, if_neg hk]⟩
  | retried row visits hpass hallocation j' hj =>
    subst hj
    refine ⟨?_, fun s => ?_⟩
    · rw [Journal.allocation_putAllocation, if_neg hk, Journal.allocation_writeAll]
    · rw [Journal.reservation_putAllocation, Journal.reservation_writeAll, if_neg hk]

/-- A step touches the rows of its own allocation. -/
theorem Step.sameRows (step : Step) (hk : step.key ≠ some key) :
    SameRows j (step.next sha256 j) key := by
  match step with
  | .handle (.evaluate request) _ senderUid oracle =>
    obtain ⟨result, h⟩ := evaluates_serve sha256 j request senderUid oracle
    exact h.sameRows
  | .handle (.reserve request) valid senderUid oracle =>
    rcases serve_reserve_cases sha256 j valid senderUid oracle with ⟨-, -, hstate, -⟩ | h
    · rw [Step.next, Step.world, hstate]
      exact SameRows.refl j key
    · exact h.sameRows fun h => hk (congrArg some h.symm)
  | .handle (.getReservations request) _ senderUid oracle =>
    have h := (lookup_serve sha256 j request senderUid oracle).1
    rw [Step.next, Step.world, h]
    exact SameRows.refl j key
  | .handle (.release request) _ senderUid oracle =>
    obtain ⟨result, h⟩ := releases_serve sha256 j request senderUid oracle
    exact h.sameRows fun h => hk (congrArg some h.symm)
  | .retry request oracle =>
    obtain ⟨result, h⟩ := retries_step sha256 j request oracle
    exact h.sameRows fun h => hk (congrArg some h.symm)

/-- A property of the rows of one allocation that the requests for this allocation keep is kept by
every step. -/
theorem Step.keeps (key : AllocationKey) (P : Journal → Prop)
    (hsame : ∀ {j j'}, SameRows j j' key → P j → P j')
    (hreserve : ∀ {request senderUid j j' result calls}, request.key = key →
      (Request.reserve request).Valid → Reserves sha256 request senderUid j result j' calls →
      P j → P j')
    (hrelease : ∀ {request senderUid j j' result calls}, request.key = key →
      Releases sha256 request senderUid j result j' calls → P j → P j')
    (hretry : ∀ {request j j' result calls}, request.key = key →
      Retries request j result j' calls → P j → P j')
    (step : Step) (hj : P j) : P (step.next sha256 j) := by
  by_cases hk : step.key = some key
  swap
  · exact hsame (step.sameRows hk) hj
  cases step with
  | handle request valid senderUid oracle =>
    cases request with
    | evaluate request => cases hk
    | getReservations request => cases hk
    | reserve request =>
      rcases serve_reserve_cases sha256 j valid senderUid oracle with ⟨-, -, hstate, -⟩ | h
      · rw [Step.next, Step.world, hstate]
        exact hj
      · exact hreserve (Option.some.inj hk) valid h hj
    | release request =>
      obtain ⟨result, h⟩ := releases_serve sha256 j request senderUid oracle
      exact hrelease (Option.some.inj hk) h hj
  | retry request oracle =>
    obtain ⟨result, h⟩ := retries_step sha256 j request oracle
    exact hretry (Option.some.inj hk) h hj

end Frames

/-! ### Small runs

The concrete runs of later modules are about one job.  `sampleDigest` stands for SHA-256 on them: it
tells the documents of requests for that job apart. -/

/-- A digest that is injective on the documents of requests for one job and workload. -/
def sampleDigest : Document → String
  | .request request =>
    let services := String.intercalate "," request.serviceIds
    s!"request {request.requestId} for {services}"
  | .release request => s!"release {request.requestId} because {request.reason}"
  | .allocation _ _ _ _ _ serviceIds => "allocation of " ++ String.intercalate "," serviceIds
  | .reservation _ _ _ _ _ => "reservation"

/-- The allocation of the job. -/
def sampleKey : AllocationKey := ⟨"cluster", 7⟩

/-- A reserve request of the job. -/
def sampleReserve (requestId : ℤ) (serviceIds : List String) : ReserveRequest :=
  { requestId := requestId
    clusterName := "cluster"
    canonicalJobId := 7
    jobUid := 1000
    jobGid := 1000
    workload := some ⟨.quantum, 60000000000, 1, 2, 10, 100, none, none, none⟩
    serviceIds := serviceIds }

/-- A release request of the job. -/
def sampleRelease (requestId : ℤ) : ReleaseRequest := ⟨requestId, "cluster", 7, 1⟩

lemma sampleReserve_valid : (Request.reserve (sampleReserve 1 ["qpm-a"])).Valid := by decide

/-- The job as the verifier sees it. -/
def sampleJob : VerifiedJob := ⟨"cluster", 7, 1000, 1000, "user", none, none, none, "RUNNING"⟩

/-- A reply that grants a reservation. -/
def sampleGrant (id : ℤ) (h : 0 < id ∧ id < 2 ^ 64) : ReserveReply :=
  ⟨⟨.accepted, 0, some id, none, none, none, none⟩, h⟩

/-- An id that a reply may carry. -/
lemma sampleId_fits : (0 : ℤ) < 5 ∧ (5 : ℤ) < 2 ^ 64 := by decide

/-- A reply that does not. -/
def sampleRefusal (decision : AdmissionDecision) (h : decision ≠ .accepted) : ReserveReply :=
  ⟨⟨decision, 0, none, none, none, none, none⟩, by cases decision <;> simp_all [Admission.Reserved]⟩

lemma rejected_ne_accepted : AdmissionDecision.rejected ≠ .accepted := by decide

/-- Answers in which the verifier accepts and every QPM is found; `reserve` and `release` say what
the QPMs of the services answer. -/
def sampleOracle (reserve : String → Except AdapterFailure ReserveReply)
    (release : String → Except AdapterFailure ReleaseReply) : Oracle := fun _ c =>
  match c with
  | .verifyReserve _ _ | .verifyRelease _ _ _ | .verifyLookup _ _ => .ok sampleJob
  | .resolve _ => .ok ⟨"runtime", 1⟩
  | .evaluate _ _ _ => .ok ⟨.accepted, 0, none, none, none, none, none⟩
  | .reserve binding _ _ => reserve binding.serviceId
  | .release binding _ _ => release binding.serviceId

/-- Every QPM grants reservation 5 and confirms every release. -/
def obliging : Oracle :=
  sampleOracle (fun _ => .ok (sampleGrant 5 sampleId_fits)) fun _ => .ok ⟨"released"⟩

/-- Every QPM grants a reservation except `qpm-c`, and none takes one back. -/
def stubborn : Oracle :=
  sampleOracle
    (fun s => if s = "qpm-c" then .error (.adapter "no reply") else .ok (sampleGrant 6 (by decide)))
    fun _ => .error (.adapter "no reply")

/-- One service is reserved and released again. -/
def sampleRelinquished : List Step :=
  [.handle (.reserve (sampleReserve 1 ["qpm-a"])) sampleReserve_valid 1000 obliging,
    .handle (.release (sampleRelease 2)) trivial 1000 obliging]

/-- The journal once one service was reserved. -/
def sampleAccepted : Journal :=
  journalAfter sampleDigest Journal.empty
    [.handle (.reserve (sampleReserve 1 ["qpm-a"])) sampleReserve_valid 1000 obliging]

end QfwSlurm
