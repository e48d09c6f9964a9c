import QfwSlurm.Gateway.Cleared
import QfwSlurm.Native.Admitted

/-!
# Releasing across a network

A release operation of the client that ends with `RELEASED` was answered by the gateway, and by then
the gateway had released the allocation: in a pass over all its rows in which nothing was
unresolved, made for this request or for an earlier one with the same content
(`release_operation_cleared`).
-/

namespace QfwSlurm

open Wire Native Interaction

/-! ### Answers -/

/-- A response that the client takes as a release has nothing unresolved in it. -/
lemma resolved_of_released {request : QsgpReleaseRequest} {response : ReleaseResponse}
    (h : (qfwReleaseResponseProcess request (receivedRelease response) {}).state = .released) :
    response.Resolved := by
  rw [qfwReleaseResponseProcess] at h
  dsimp only at h
  by_cases hidentity : (receivedRelease response).requestId ≠ request.requestId
  · rw [if_pos hidentity] at h
    cases h
  rw [if_neg hidentity] at h
  by_cases hroom : maxServices < (receivedRelease response).results.length
  · rw [if_pos hroom] at h
    cases h
  rw [if_neg hroom] at h
  obtain ⟨result, hloop, hcount⟩ := countUnresolved_received response.results
    { response := receivedRelease response }
  have hresults : (receivedRelease response).results = response.results.map received := rfl
  rw [hresults, hloop] at h
  dsimp only at h
  by_cases hnone : result.unresolvedCount = 0
  swap
  · rw [if_neg hnone] at h
    cases h
  have hzero : unresolvedCount ReservationState.isUnresolved response.results = 0 := by
    simpa [hnone] using hcount.symm
  intro item hitem
  simpa using List.countP_eq_zero.mp hzero item hitem

/-- The request of a release operation is a value of `struct qsgp_release_request`. -/
lemma typed_releaseOf {allocation : AllocationContext} (htyped : allocation.Typed) {reason : ℕ}
    (hreason : reason < 2 ^ 32) : (GatewayClient.releaseOf allocation reason).Typed where
  requestId := (requestId_bounds allocation.clusterName allocation.canonicalJobId
    allocation.allocationEpoch MessageType.releaseRequest.code).2
  clusterName := htyped.clusterName
  canonicalJobId := htyped.canonicalJobId
  reason := hreason

/-- A release operation ends with `RELEASED` only when its call was answered. -/
lemma exists_call_of_released {client : GatewayClient} {calling : Calling}
    {allocation : AllocationContext} {reason : ℕ}
    (h : (client.qfwReleaseOperation calling allocation reason).result.state = .released) :
    ∃ received,
      client.qfwGatewayRelease calling (GatewayClient.releaseOf allocation reason) = .ok received ∧
      (qfwReleaseResponseProcess (GatewayClient.releaseOf allocation reason) received {}).state =
        .released := by
  generalize houtcome : client.qfwReleaseOperation calling allocation reason = outcome at h
  rw [GatewayClient.qfwReleaseOperation] at houtcome
  by_cases hinvalid : allocation.clusterName = [] ∨ allocation.canonicalJobId = 0
  · rw [if_pos hinvalid] at houtcome
    rw [← houtcome] at h
    cases h
  rw [if_neg hinvalid] at houtcome
  dsimp only at houtcome
  cases hcall : client.qfwGatewayRelease calling (GatewayClient.releaseOf allocation reason) with
  | error error =>
    rw [hcall] at houtcome
    rw [← houtcome] at h
    cases error <;> cases h
  | ok received =>
    rw [hcall] at houtcome
    rw [← houtcome] at h
    exact ⟨received, rfl, h⟩

section Calls

variable {sha256 : Document → String} {config : GatewayConfig} {client : GatewayClient}
  {j : Journal} {run : List (Occurrence Connection ℕ (List UInt8) (List UInt8))}
  {calling : Calling} {request : QsgpReleaseRequest} {uid : ℕ}

/-- An answer to a release call is that of the gateway to the request. -/
lemma Attested.release_answered (h : Attested sha256 config client j run calling.around)
    (htyped : request.Typed)
    (honly : ∀ frame,
      qsgpEncodeReleaseRequest request (calling.correlation request.requestId) = .ok frame →
      OnlyMessage (networkAfter sha256 config client.expectedMungeUid j run).issued config
        (calling.correlation request.requestId) uid frame)
    {received : QsgpReleaseResponse}
    (hcall : client.qfwGatewayRelease calling request = .ok received) :
    ∃ before connection rest found response,
      run = before ++ Occurrence.connects connection :: rest ∧ request.counterpart = some found ∧
      (serve sha256 (networkAfter sha256 config client.expectedMungeUid j before).state
        (.release found) uid connection.oracle).1 = .release response ∧
      (networkAfter sha256 config client.expectedMungeUid j
          (before ++ [Occurrence.connects connection])).state =
        (serve sha256 (networkAfter sha256 config client.expectedMungeUid j before).state
          (.release found) uid connection.oracle).2.state ∧
      received = receivedRelease response := by
  have hended := qfwGatewayCall_release client calling request
  rw [hcall] at hended
  have hconclusive := conclusive_of_ok hended
  obtain ⟨frame, -, -, hframe, -⟩ := answer_of_conclusive hconclusive
  obtain ⟨before, connection, rest, found, hrun, hfound, hnext, hserved, -, -⟩ :=
    h.served hconclusive hframe (honly frame hframe) htyped
      (correlationId_bounds htyped.requestId _ _).2 (.inr ⟨_, hended⟩)
  obtain ⟨found, hcounterpart, rfl⟩ := Option.map_eq_some_iff.mp hfound
  have hanswer := hserved.symm.trans hended
  refine ⟨before, connection, rest, found, ?_⟩
  generalize (networkAfter sha256 config client.expectedMungeUid j before).state = journal at *
  cases hresponse : (serve sha256 journal (.release found) uid connection.oracle).1 with
  | release response =>
    rw [hresponse] at hanswer
    refine ⟨response, hrun, hcounterpart, rfl, hnext, ?_⟩
    exact (NativeMessage.releaseResponse.inj (Except.ok.inj hanswer)).symm
  | evaluate response | reserve response | getReservations response | error response =>
    rw [hresponse] at hanswer
    cases hanswer

end Calls

/-! ### Releases -/

/-- At the end of the run the allocation has been released: on one of the connections, and in its
surroundings, a request was served that released it. -/
def ClearedIn (sha256 : Document → String) (config : GatewayConfig) (gatewayUid : ℕ)
    (run : List (Occurrence Connection ℕ (List UInt8) (List UInt8))) (key : AllocationKey) : Prop :=
  ∃ before connection rest request valid senderUid,
    run = before ++ Occurrence.connects connection :: rest ∧
    (networkAfter sha256 config gatewayUid Journal.empty
        (before ++ [Occurrence.connects connection])).state =
      (serve sha256 (networkAfter sha256 config gatewayUid Journal.empty before).state request
        senderUid connection.oracle).2.state ∧
    (Step.handle request valid senderUid connection.oracle).Clears sha256 key
      (networkAfter sha256 config gatewayUid Journal.empty before).state

section Runs

variable {sha256 : Document → String} {config : GatewayConfig} {gatewayUid : ℕ}
  {run : List (Occurrence Connection ℕ (List UInt8) (List UInt8))}

/-- The journal after one more connection. -/
lemma networkAfter_connects (before : List (Occurrence Connection ℕ (List UInt8) (List UInt8)))
    {connection : Connection} {handled : Handled}
    (hhandled : connection.handled config = some handled) (hdeadline : handled.deadline = none) :
    (networkAfter sha256 config gatewayUid Journal.empty
        (before ++ [Occurrence.connects connection])).state =
      handled.step.next sha256
        (networkAfter sha256 config gatewayUid Journal.empty before).state := by
  rw [networkAfter, after_append, after_cons, after_nil, Realm.next, gatewayServe_state, hhandled,
    ← Handled.next_eq hdeadline]
  rfl

/-- What a run of the service has released, the run of the network has released. -/
lemma clearedIn_of_clears (hdeadline : ∀ handled ∈ handledIn config run, handled.deadline = none)
    {key : AllocationKey} {done later : List Step} {step : Step}
    (hsteps : (handledIn config run).map Handled.step = done ++ step :: later)
    (hclears : step.Clears sha256 key (journalAfter sha256 Journal.empty done)) :
    ClearedIn sha256 config gatewayUid run key := by
  obtain ⟨first, others, hsplit, rfl, hothers⟩ := List.map_eq_append_iff.mp hsteps
  obtain ⟨handled, rest, rfl, rfl, -⟩ := List.map_eq_cons_iff.mp hothers
  obtain ⟨before, connection, after, rfl, hhandled, rfl⟩ := exists_connection_of_handledIn hsplit
  have hnone : ∀ other ∈ handledIn config before, other.deadline = none := by
    intro other hother
    exact hdeadline other (hsplit ▸ List.mem_append_left _ hother)
  have horacle : handled.oracle = connection.oracle := Connection.oracle_of_handled hhandled
  refine ⟨before, connection, after, handled.request, handled.valid, handled.senderUid, rfl, ?_, ?_⟩
  · rw [← horacle]
    apply networkAfter_connects before hhandled
    exact hdeadline handled (hsplit ▸ List.mem_append_right _ List.mem_cons_self)
  · rw [← horacle, networkAfter_steps hnone]
    exact hclears

/-- When a release request has been answered on a connection and nothing is unresolved in the
answer, the allocation has been released by the end of the connection. -/
lemma clearedIn_of_served (hdeadline : ∀ handled ∈ handledIn config run, handled.deadline = none)
    {request : ReleaseRequest} {connection : Connection} {senderUid : ℤ}
    {response : ReleaseResponse}
    (hapart : ∀ handled ∈ handledIn config run, handled.step.ReleasesApart sha256 request)
    (hnext : (networkAfter sha256 config gatewayUid Journal.empty
        (run ++ [Occurrence.connects connection])).state =
      (serve sha256 (networkAfter sha256 config gatewayUid Journal.empty run).state
        (.release request) senderUid connection.oracle).2.state)
    (hresponse : (serve sha256 (networkAfter sha256 config gatewayUid Journal.empty run).state
        (.release request) senderUid connection.oracle).1 = .release response)
    (hresolved : response.Resolved) :
    ClearedIn sha256 config gatewayUid (run ++ [Occurrence.connects connection]) request.key := by
  rcases clears_or_stores trivial hresponse hresolved with hclears | ⟨row, hrow, hstores⟩
  · exact ⟨run, connection, [], .release request, trivial, senderUid, rfl, hnext, hclears⟩
  have hsteps : ∀ step ∈ (handledIn config run).map Handled.step,
      step.ReleasesApart sha256 request := by
    intro step hstep
    obtain ⟨handled, hmem, rfl⟩ := List.mem_map.mp hstep
    exact hapart handled hmem
  -- The answer was stored on an earlier connection, and so the pass was made on one.
  rw [networkAfter_steps hdeadline] at hrow
  obtain ⟨done, step, later, hsplit, hclears⟩ :=
    exists_clears_of_stores hsteps hrow hstores hresolved
  obtain ⟨before, other, rest, served, valid, uid, hrun, hcleared⟩ :=
    clearedIn_of_clears hdeadline hsplit hclears
  refine ⟨before, other, rest ++ [Occurrence.connects connection], served, valid, uid, ?_, hcleared⟩
  rw [hrun, List.append_assoc, List.cons_append]

end Runs

/-- A release operation of the client that ends with `RELEASED`, over a network in which MUNGE can
be relied on and nobody else uses its correlation id, to a gateway whose requests meet no deadline:
the gateway has served its request for the user whose message it was, and by the end of that
connection the allocation had been released.  The digest tells the request from the other release
requests of the run. -/
theorem release_operation_cleared (sha256 : Document → String) (config : GatewayConfig)
    (client : GatewayClient) (run : List (Occurrence Connection ℕ (List UInt8) (List UInt8)))
    (calling : Calling) (hattested : Attested sha256 config client Journal.empty run calling.around)
    (hdeadline : ∀ handled ∈ handledIn config run, handled.deadline = none)
    (allocation : AllocationContext) (htyped : allocation.Typed) (reason : ℕ)
    (hreason : reason < 2 ^ 32) (uid : ℕ)
    (honly : ∀ frame, qsgpEncodeReleaseRequest (GatewayClient.releaseOf allocation reason)
        (calling.correlation (GatewayClient.releaseOf allocation reason).requestId) = .ok frame →
      OnlyMessage (networkAfter sha256 config client.expectedMungeUid Journal.empty run).issued
        config (calling.correlation (GatewayClient.releaseOf allocation reason).requestId) uid frame)
    (hapart : ∀ found, (GatewayClient.releaseOf allocation reason).counterpart = some found →
      ∀ handled ∈ handledIn config run, handled.step.ReleasesApart sha256 found)
    (hstate : (client.qfwReleaseOperation calling allocation reason).result.state = .released) :
    ∃ before connection rest found response, run = before ++ Occurrence.connects connection :: rest ∧
      (GatewayClient.releaseOf allocation reason).counterpart = some found ∧
      (serve sha256 (networkAfter sha256 config client.expectedMungeUid Journal.empty before).state
        (.release found) uid connection.oracle).1 = .release response ∧ response.Resolved ∧
      ClearedIn sha256 config client.expectedMungeUid (before ++ [Occurrence.connects connection])
        found.key := by
  obtain ⟨received, hcall, hreleased⟩ := exists_call_of_released hstate
  obtain ⟨before, connection, rest, found, response, hrun, hfound, hresponse, hnext, rfl⟩ :=
    hattested.release_answered (typed_releaseOf htyped hreason) honly hcall
  have hresolved := resolved_of_released hreleased
  refine ⟨before, connection, rest, found, response, hrun, hfound, hresponse, hresolved, ?_⟩
  have hearlier : ∀ handled ∈ handledIn config before, handled ∈ handledIn config run := by
    intro handled hmem
    rw [hrun, handledIn_append]
    exact List.mem_append_left _ hmem
  apply clearedIn_of_served _ _ hnext hresponse hresolved
  · intro handled hmem
    exact hdeadline handled (hearlier handled hmem)
  · intro handled hmem
    exact hapart found hfound handled (hearlier handled hmem)

/-! ### An undisturbed release operation -/

/-- The release request for the allocation, its id computed. -/
def sampleReleased : QsgpReleaseRequest := ⟨14367566239370792708, utf8 "c", 7, 0⟩

lemma releaseOf_sampleAllocation : GatewayClient.releaseOf sampleAllocation 0 = sampleReleased := by
  decide +kernel

/-- The request of `SlurmUser`. -/
def sampleReleaseCredential : Credential ℕ (List UInt8) (List UInt8) :=
  sampleCredentialOf 990 (.release sampleReleased) 14367566239370792709

/-- An allocation is reserved and then released. -/
def sampleReleasingRun : List (Occurrence Connection ℕ (List UInt8) (List UInt8)) :=
  sampleRunOf sampleBuiltCredential ++ sampleRunOf sampleReleaseCredential

/-- The credentials in circulation after that. -/
def sampleReleasingIssued : List (Credential ℕ (List UInt8) (List UInt8)) :=
  (networkAfter sampleDigest sampleGatewayConfig 991 Journal.empty sampleReleasingRun).issued

def sampleReleasing : Calling := sampleCallingOf sampleReleasingIssued 990

lemma eq_of_issues_sampleRunOf {credential other : Credential ℕ (List UInt8) (List UInt8)}
    (h : .issues other ∈ sampleRunOf credential) : other = credential := by
  rcases List.mem_cons.mp h with hissues | hconnects
  · exact Occurrence.issues.inj hissues
  · cases List.mem_singleton.mp hconnects

/-- The credential of a request is opened by the gateway as it was issued. -/
lemma authentic_sampleRunOf {credential : Credential ℕ (List UInt8) (List UInt8)}
    (hother : credential.principal ≠ 991) (realm : Realm Journal ℕ (List UInt8) (List UInt8)) :
    Meets (Realm.next 991 (gatewayServe sampleDigest sampleGatewayConfig)) (Authentic 991) realm
      (sampleRunOf credential) := by
  refine ⟨fun h => absurd h hother, ?_, trivial⟩
  intro text principal message hopening
  apply List.mem_append_right
  exact genuine_sampleMunge [credential] 991 text principal message hopening

lemma attested_sampleReleasingRun :
    Attested sampleDigest sampleGatewayConfig (sampleCaller "gateway") Journal.empty
      sampleReleasingRun sampleReleasing.around where
  authentic := by
    have hreserving : sampleBuiltCredential.principal ≠ 991 := by decide
    have hreleasing : sampleReleaseCredential.principal ≠ 991 := by decide
    obtain ⟨hissued, hconnects, -⟩ := authentic_sampleRunOf hreserving ⟨Journal.empty, []⟩
    exact ⟨hissued, hconnects, authentic_sampleRunOf hreleasing _⟩
  genuine := genuine_sampleMunge sampleReleasingIssued 990

/-- The two requests of the run. -/
lemma request_sampleReleasingRun : ∀ handled ∈ handledIn sampleGatewayConfig sampleReleasingRun,
    some handled.request = (NativeRequest.release sampleReleased).counterpart ∨
      some handled.request = (NativeRequest.reserve (sampleBuilt [utf8 "a"])).counterpart := by
  decide +kernel

lemma releasesApart_sampleReleasingRun {found : ReleaseRequest}
    (hfound : sampleReleased.counterpart = some found) :
    ∀ handled ∈ handledIn sampleGatewayConfig sampleReleasingRun,
      handled.step.ReleasesApart sampleDigest found := by
  intro handled hmem
  have hrequest := request_sampleReleasingRun handled hmem
  obtain ⟨request, valid, senderUid, oracle, deadline⟩ := handled
  rcases hrequest with hrelease | hreserve
  · have hcounterpart : sampleReleased.counterpart.map Request.release = some request :=
      hrelease.symm
    obtain ⟨other, hother, rfl⟩ := Option.map_eq_some_iff.mp hcounterpart
    intro _
    exact Option.some.inj (hother.symm.trans hfound)
  · have hcounterpart : (sampleBuilt [utf8 "a"]).counterpart.map Request.reserve = some request :=
      hreserve.symm
    obtain ⟨other, -, rfl⟩ := Option.map_eq_some_iff.mp hcounterpart
    trivial

/-- One of the credentials has the correlation id of the call and an accepted sender. -/
lemma onlyMessage_sampleReleasingRun {frame : List UInt8}
    (hencode : qsgpEncodeReleaseRequest sampleReleased
      (sampleReleasing.correlation sampleReleased.requestId) = .ok frame) :
    OnlyMessage sampleReleasingIssued sampleGatewayConfig
      (sampleReleasing.correlation sampleReleased.requestId) 990 frame := by
  have hframe : qsgpEncodeReleaseRequest sampleReleased
      (sampleReleasing.correlation sampleReleased.requestId) =
        .ok sampleReleaseCredential.message := by
    decide +kernel
  have honly : ∀ credential ∈ sampleReleasingIssued,
      credential.principal ∈ sampleGatewayConfig.acceptedUids →
      correlationOf credential.message = some 14367566239370792709 →
        credential.principal = 990 ∧ credential.message = sampleReleaseCredential.message := by
    intro credential hmem haccepted hcorrelation
    rcases Realm.issued_cases _ _ hmem with hstart | hissued | hgateway
    · exact absurd hstart List.not_mem_nil
    · rcases List.mem_append.mp hissued with hreserving | hreleasing
      · have hreserved : credential = sampleBuiltCredential := eq_of_issues_sampleRunOf hreserving
        rw [hreserved] at hcorrelation
        exact absurd hcorrelation (by decide +kernel)
      · obtain rfl := eq_of_issues_sampleRunOf hreleasing
        exact ⟨rfl, rfl⟩
    · rw [hgateway] at haccepted
      exact absurd haccepted (by decide)
  obtain rfl := Except.ok.inj (hencode.symm.trans hframe)
  exact honly

/-- The reservation is released, and its row is terminal. -/
theorem release_operation_cleared_sample :
    ((sampleCaller "gateway").qfwReleaseOperation sampleReleasing sampleAllocation 0).result.state =
        .released ∧
      ∃ before connection rest found response,
        sampleReleasingRun = before ++ Occurrence.connects connection :: rest ∧
        (GatewayClient.releaseOf sampleAllocation 0).counterpart = some found ∧
        (serve sampleDigest
          (networkAfter sampleDigest sampleGatewayConfig 991 Journal.empty before).state
          (.release found) 990 connection.oracle).1 = .release response ∧ response.Resolved ∧
        ClearedIn sampleDigest sampleGatewayConfig 991 (before ++ [Occurrence.connects connection])
          found.key := by
  have hstate : ((sampleCaller "gateway").qfwReleaseOperation sampleReleasing sampleAllocation
      0).result.state = .released := by
    rw [GatewayClient.qfwReleaseOperation, releaseOf_sampleAllocation]
    decide +kernel
  have hdeadline : ∀ handled ∈ handledIn sampleGatewayConfig sampleReleasingRun,
      handled.deadline = none := by
    decide +kernel
  refine ⟨hstate, ?_⟩
  apply release_operation_cleared sampleDigest sampleGatewayConfig (sampleCaller "gateway")
    sampleReleasingRun sampleReleasing attested_sampleReleasingRun hdeadline sampleAllocation
    typed_sampleAllocation 0 (by decide) 990
  · intro frame hencode
    rw [releaseOf_sampleAllocation] at hencode ⊢
    exact onlyMessage_sampleReleasingRun hencode
  · intro found hfound
    rw [releaseOf_sampleAllocation] at hfound
    exact releasesApart_sampleReleasingRun hfound
  · exact hstate

end QfwSlurm
