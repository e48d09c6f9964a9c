import QfwSlurm.Gateway.Connections
import QfwSlurm.Native.Agreement
import QfwSlurm.Native.Truthful

/-!
# Reserving across a network

A reserve operation of the client that ends with `ACCEPTED` leaves the document of exactly the
reservations that the gateway has on record for the allocation when it has served the request: one
for each service that was asked for, there before or granted by a QPM for this request.  Only a
gateway that repeats the answer of an earlier request, for an allocation that is no longer accepted,
says anything else (`reserve_operation_onRecord`).
-/

namespace QfwSlurm

open Wire Native Interaction

/-! ### Requests -/

/-- What is given to an admission operation: a configuration that was loaded, options that were set,
and an allocation. -/
structure Given (settings : PluginConfig) (calls : List SetCall) (allocation : AllocationContext) :
    Prop where
  loaded : settings.Loaded
  active : (({} : QuantumOptions).after calls).active = true
  typed : allocation.Typed

section Requests

variable {settings : PluginConfig} {calls : List SetCall} {allocation : AllocationContext}
  {request : QsgpReserveRequest}

/-- The request that is built has the types of C. -/
lemma Given.built (h : Given settings calls allocation)
    (hbuild : qfwBuildReserveRequest settings (({} : QuantumOptions).after calls) allocation =
      .ok request) : request.Typed := by
  obtain ⟨-, -, -, -, htyped, -⟩ := sendable_of_build h.loaded h.active h.typed hbuild
  exact htyped

end Requests

/-! ### Answers -/

section Answers

variable {sha256 : Document → String} {config : GatewayConfig} {client : GatewayClient}
  {j : Journal} {run : List (Occurrence Connection ℕ (List UInt8) (List UInt8))}
  {calling : Calling} {request : QsgpReserveRequest} {uid : ℕ}

/-- An answer to a reserve call is that of the gateway to the request. -/
lemma Attested.reserve_answered (h : Attested sha256 config client j run calling.around)
    (htyped : request.Typed)
    (honly : ∀ frame,
      qsgpEncodeReserveRequest request (calling.correlation request.requestId) = .ok frame →
      OnlyMessage (networkAfter sha256 config client.expectedMungeUid j run).issued config
        (calling.correlation request.requestId) uid frame)
    {received : QsgpReserveResponse} (hcall : client.qfwGatewayReserve calling request = .ok received) :
    request.Sendable ∧ (request.hasHeteroJobId = true → request.heteroJobId ≠ 0) ∧
      ∃ before connection rest found response,
      run = before ++ Occurrence.connects connection :: rest ∧ request.counterpart = some found ∧
      (serve sha256 (networkAfter sha256 config client.expectedMungeUid j before).state
        (.reserve found) uid connection.oracle).1 = .reserve response ∧
      (networkAfter sha256 config client.expectedMungeUid j
          (before ++ [Occurrence.connects connection])).state =
        (serve sha256 (networkAfter sha256 config client.expectedMungeUid j before).state
          (.reserve found) uid connection.oracle).2.state ∧
      response.Sendable true ∧ received = response.native := by
  have hended := qfwGatewayCall_reserve client calling request
  rw [hcall] at hended
  have hconclusive := conclusive_of_ok hended
  obtain ⟨frame, -, -, hframe, -⟩ := answer_of_conclusive hconclusive
  obtain ⟨before, connection, rest, found, hrun, hfound, hstate, hserved, hsendable, hhetero⟩ :=
    h.served hconclusive hframe (honly frame hframe) htyped
      (correlationId_bounds htyped.requestId _ _).2 (.inr ⟨_, hended⟩)
  refine ⟨((qsgpEncodeReserveRequest_eq_ok_iff htyped).mp hframe).1, hhetero, ?_⟩
  obtain ⟨found, hcounterpart, rfl⟩ := Option.map_eq_some_iff.mp hfound
  have hanswer := hserved.symm.trans hended
  rw [serve_reserve_response] at hanswer hsendable
  cases hresult : reserveResult sha256
    (networkAfter sha256 config client.expectedMungeUid j before).state found uid
    connection.oracle with
  | error error =>
    obtain ⟨failure, hfailure⟩ := operationError_eq "reserve" found.requestId error
    rw [hresult] at hanswer
    dsimp only at hanswer
    rw [hfailure] at hanswer
    cases hanswer
  | ok response =>
    rw [hresult] at hanswer hsendable
    refine ⟨before, connection, rest, found, response, hrun, hcounterpart, ?_, hstate, hsendable,
      ?_⟩
    · rw [serve_reserve_response, hresult]
    · exact (NativeMessage.reserveResponse.inj (Except.ok.inj hanswer)).symm

/-- An answer to a reserve request shows that it was verified. -/
lemma verified_of_answer {found : ReserveRequest} {oracle : Oracle} {response : ReserveResponse}
    (h : (serve sha256 j (.reserve found) uid oracle).1 = .reserve response) :
    ∃ job, oracle 0 (.verifyReserve found uid) = .ok job := by
  have hresult := reserveResult_of_response h
  cases hverdict : oracle 0 (.verifyReserve found uid) with
  | ok job => exact ⟨job, rfl⟩
  | error failure => cases (serve_unverified sha256 j hverdict).1.symm.trans hresult

end Answers

/-! ### Reserve operations -/

section Operations

variable {sha256 : Document → String} {uid : ℕ}

/-- The reservations that an accepted answer lists, each with its id. -/
lemma ReserveResponse.Sendable.granted {response : ReserveResponse} (h : response.Sendable true)
    (hdecision : response.decision = .accepted) :
    ∀ item ∈ response.results, ∃ id, item.reservationId = some id ∧ 0 < id := by
  intro item hitem
  have hagrees := h.agrees
  rw [hdecision] at hagrees
  have haccepted : item.decision = .accepted := hagrees _ (List.mem_map_of_mem hitem)
  have hresult := h.results item hitem
  obtain ⟨id, hid⟩ := Option.isSome_iff_exists.mp (hresult.granted.mpr ⟨rfl, haccepted⟩)
  exact ⟨id, hid, (hresult.reservationId id hid).1⟩

/-- What an accepted reserve operation has got from the gateway: the answer to its request, for
exactly its services. -/
structure Granted (sha256 : Document → String) (j j' : Journal) (found : ReserveRequest) (uid : ℕ)
    (oracle : Oracle) (pairs : List (String × ℕ)) : Prop where
  verified : ∃ job, oracle 0 (.verifyReserve found uid) = .ok job
  services : (pairs.map Prod.fst).Perm found.serviceIds
  granted : pairs.Perm ((answeredPairs sha256 found uid j
    (granted (serve sha256 j (.reserve found) uid oracle).2.trace)).map nativeTuple)
  onRecord : j'.OnRecord found.key found.jobUid found.jobGid pairs ∨
    ∃ operation, Repeats sha256 found uid j operation

/-- An accepted answer whose services are those of the request. -/
lemma granted_of_answer {j : Journal} (hreachable : Reachable sha256 j) {found : ReserveRequest}
    (valid : (Request.reserve found).Valid) {oracle : Oracle} {response : ReserveResponse}
    (hresponse : (serve sha256 j (.reserve found) uid oracle).1 = .reserve response)
    (hdecision : response.decision = .accepted) (hsendable : response.Sendable true)
    (hnames : NamesRequested found (response.results.map ServiceResult.pair)) :
    Granted sha256 j (serve sha256 j (.reserve found) uid oracle).2.state found uid oracle
      (response.results.map ServiceResult.tuple) := by
  have hresult := reserveResult_of_response hresponse
  have hpairs := names_of_accepted_answer hreachable valid hresponse hdecision
  refine ⟨verified_of_answer hresponse, ?_, ?_, ?_⟩
  · have hservices := hnames.services
    rw [List.map_map] at hservices ⊢
    exact hservices
  · rw [← map_nativeTuple_pair]
    exact hpairs.map nativeTuple
  · rcases serve_reserve_cases sha256 j valid uid oracle with ⟨failure, herror, -⟩ | hreserves
    · cases herror.symm.trans hresult
    obtain ⟨hne, hnodup, -⟩ := services_of_valid valid
    rcases answers_of_reserves (fun row hrow => settled_of_reachable hreachable hrow) hreserves
      hresult hdecision with hanswers | ⟨operation, hrepeats, -⟩
    · exact .inl (onRecord_of_answers
        (sound_of_reserves hne hnodup hreserves (sound_of_reachable hreachable found.key)) hanswers
        (hsendable.granted hdecision))
    · exact .inr ⟨operation, hrepeats⟩

end Operations

/-- A reserve operation of the client that ends with `ACCEPTED`, over a network in which MUNGE can be
relied on and nobody else uses its correlation id, to a gateway whose requests meet no deadline: the
gateway has served its request for the user whose message it was, and the document that the operation
leaves is that of exactly the services of the request, with the ids that are on record for the
allocation once the request is served, unless the request repeats one that was answered before and
the allocation is not accepted any more. -/
theorem reserve_operation_onRecord (sha256 : Document → String) (config : GatewayConfig)
    (client : GatewayClient) (run : List (Occurrence Connection ℕ (List UInt8) (List UInt8)))
    (calling : Calling) (hattested : Attested sha256 config client Journal.empty run calling.around)
    (hdeadline : ∀ handled ∈ handledIn config run, handled.deadline = none)
    (settings : PluginConfig) (calls : List SetCall) (allocation : AllocationContext)
    (hgiven : Given settings calls allocation) (request : QsgpReserveRequest)
    (hbuild : qfwBuildReserveRequest settings (({} : QuantumOptions).after calls) allocation =
      .ok request) (uid : ℕ)
    (honly : ∀ frame,
      qsgpEncodeReserveRequest request (calling.correlation request.requestId) = .ok frame →
      OnlyMessage (networkAfter sha256 config client.expectedMungeUid Journal.empty run).issued
        config (calling.correlation request.requestId) uid frame)
    (outcome : ReserveOutcome)
    (houtcome : client.qfwReserveOperation calling settings (({} : QuantumOptions).after calls)
      allocation = .ok outcome) (hstate : outcome.result.state = .accepted) :
    ∃ before connection rest found pairs, run = before ++ Occurrence.connects connection :: rest ∧
      request.counterpart = some found ∧
      Granted sha256 (networkAfter sha256 config client.expectedMungeUid Journal.empty before).state
        (networkAfter sha256 config client.expectedMungeUid Journal.empty
          (before ++ [Occurrence.connects connection])).state found uid connection.oracle pairs ∧
      Exports outcome.result.reservationsJson pairs := by
  rw [GatewayClient.qfwReserveOperation, hbuild] at houtcome
  dsimp only at houtcome
  cases hcall : client.qfwGatewayReserve calling request with
  | error error =>
    rw [hcall] at houtcome
    rw [← Except.ok.inj houtcome] at hstate
    cases error <;> cases hstate
  | ok received =>
  rw [hcall] at houtcome
  obtain ⟨final, hfinal, houtcome⟩ := bind_eq_ok_iff.mp houtcome
  obtain rfl := Except.ok.inj houtcome
  obtain ⟨hq, hhetero, before, connection, rest, found, response, hrun, hfound, hresponse, hafter,
    hsendable, rfl⟩ := hattested.reserve_answered (hgiven.built hbuild) honly hcall
  have hreachable : Reachable sha256
      (networkAfter sha256 config client.expectedMungeUid Journal.empty before).state :=
    reachable_networkAfter hdeadline hrun
  obtain ⟨valid, hservices, hid⟩ := sendable_of_counterpart hq hhetero hfound
  rw [← requestId_of_answer hreachable valid hresponse] at hid
  obtain ⟨final', hfinal', -, husable, hunusable⟩ := admissionResponseProcess_spec hq hsendable hid
    length_reservationsJson
  obtain rfl : final = final' := Except.ok.inj (hfinal.symm.trans hfinal')
  by_cases hnot : Usable request response true
  swap
  · cases hstate.symm.trans (hunusable hnot)
  obtain ⟨hdecided, hexports⟩ := husable hnot
  have hdecision : response.decision = .accepted :=
    eq_accepted_of_operationState (hdecided.symm.trans hstate)
  refine ⟨before, connection, rest, found, _, hrun, hfound, ?_, hexports rfl hdecision⟩
  rw [hafter]
  exact granted_of_answer hreachable valid hresponse hdecision hsendable
    ((usable_iff hservices hsendable hdecision).mp hnot)

/-! ### An undisturbed reserve operation -/

/-- A resource that is its own service. -/
def sampleResources : PluginConfig := sampleConfig [⟨utf8 "a", utf8 "a"⟩]

lemma given_sample : Given sampleResources (sampleCalls "a") sampleAllocation where
  loaded := by
    have hload : qfwPluginConfigLoad (fun _ => none)
        (some (sampleConfigFile "[resource \"a\"]\nservice_id=a\n")) = .ok sampleResources := by
      decide +kernel
    exact loaded_of_load hload
  active := by decide +kernel
  typed := typed_sampleAllocation

/-- The request of `SlurmUser`. -/
def sampleBuiltCredential : Credential ℕ (List UInt8) (List UInt8) :=
  sampleCredentialOf 990 (.reserve (sampleBuilt [utf8 "a"]))
    (correlationId (sampleBuilt [utf8 "a"]).requestId 1 none)

def sampleReserving : Calling :=
  sampleCallingOf (sampleIssuedOf Journal.empty sampleBuiltCredential) 990

/-- The service is reserved, and on record. -/
theorem reserve_operation_onRecord_sample :
    ∃ outcome, (sampleCaller "gateway").qfwReserveOperation sampleReserving sampleResources
        (({} : QuantumOptions).after (sampleCalls "a")) sampleAllocation = .ok outcome ∧
      outcome.result.state = .accepted ∧
      ∃ before connection rest found pairs,
        sampleRunOf sampleBuiltCredential = before ++ Occurrence.connects connection :: rest ∧
        (sampleBuilt [utf8 "a"]).counterpart = some found ∧
        Granted sampleDigest
          (networkAfter sampleDigest sampleGatewayConfig 991 Journal.empty before).state
          (networkAfter sampleDigest sampleGatewayConfig 991 Journal.empty
            (before ++ [Occurrence.connects connection])).state found 990 connection.oracle pairs ∧
        Exports outcome.result.reservationsJson pairs := by
  have hsome : ((sampleCaller "gateway").qfwReserveOperation sampleReserving sampleResources
      (({} : QuantumOptions).after (sampleCalls "a")) sampleAllocation).toOption.map
        (·.result.state) = some .accepted := by
    decide +kernel
  obtain ⟨outcome, hok, hstate⟩ := Option.map_eq_some_iff.mp hsome
  have houtcome := toOption_eq_some_iff.mp hok
  have hattested := attested_sampleRunOf "gateway" Journal.empty
    (by decide : sampleBuiltCredential.principal ≠ 991) 990
  have hdeadline : ∀ handled ∈ handledIn sampleGatewayConfig (sampleRunOf sampleBuiltCredential),
      handled.deadline = none := by
    intro handled hmem
    obtain ⟨connection, hconnection, hhandled⟩ := mem_handledIn.mp hmem
    obtain ⟨-, -, -, -, -, -, hdeadline⟩ := Connection.handled_eq_some hhandled
    rcases List.mem_cons.mp hconnection with hissues | hconnects
    · cases hissues
    · rw [hdeadline, Occurrence.connects.inj (List.mem_singleton.mp hconnects)]
  have hframe : qsgpEncodeReserveRequest (sampleBuilt [utf8 "a"])
      (sampleReserving.correlation (sampleBuilt [utf8 "a"]).requestId) =
        .ok sampleBuiltCredential.message := by
    decide +kernel
  have honly : ∀ credential ∈ sampleIssuedOf Journal.empty sampleBuiltCredential,
      credential.principal ∈ sampleGatewayConfig.acceptedUids →
        credential.principal = 990 ∧ credential.message = sampleBuiltCredential.message := by
    intro credential hmem haccepted
    obtain rfl := eq_of_accepted_pair (by decide) hmem haccepted
    exact ⟨rfl, rfl⟩
  refine ⟨outcome, houtcome, hstate, ?_⟩
  exact reserve_operation_onRecord sampleDigest sampleGatewayConfig (sampleCaller "gateway")
    (sampleRunOf sampleBuiltCredential) sampleReserving hattested hdeadline sampleResources
    (sampleCalls "a") sampleAllocation given_sample (sampleBuilt [utf8 "a"]) (by decide +kernel)
    990 (fun frame hencode credential hmem haccepted _ => by
      obtain rfl := Except.ok.inj (hencode.symm.trans hframe)
      exact honly credential hmem haccepted) outcome houtcome hstate

end QfwSlurm
