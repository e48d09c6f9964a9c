import QfwSlurm.Gateway.OnRecord
import QfwSlurm.Native.Acceptance
import QfwSlurm.Native.Client

/-!
# What an operation reports is so at the gateway

An operation of the native client that ends well says something about the journal of the gateway at
a moment of the run: the moment at which the gateway served its request.  All that is assumed of the
network is that MUNGE can be relied on (`Attested`), and that nobody else has used the correlation
id of the call (`OnlyMessage`).

A lookup that is accepted leaves the document of exactly the reservations that were on record for
the allocation of the job (`lookup_onRecord`).
-/

namespace QfwSlurm

open Wire Native Interaction

/-! ### Lookups -/

section Lookups

variable {sha256 : Document → String} {config : GatewayConfig} {client : GatewayClient}
  {j : Journal} {run : List (Occurrence Connection ℕ (List UInt8) (List UInt8))}
  {calling : Calling}

/-- A lookup that can be sent lists a set of reservations. -/
lemma GetReservationsResponse.Sendable.lists {response : GetReservationsResponse}
    (h : response.Sendable) :
    ReservationSet response.pairs ∧ Lists response.native response.pairs := by
  refine ⟨⟨?_, ?_, ?_, ?_⟩, ?_, ?_⟩
  · rw [GetReservationsResponse.pairs, List.length_map]
    exact h.count
  · intro pair hpair
    obtain ⟨item, hitem, rfl⟩ := List.mem_map.mp hpair
    exact (h.reservations item hitem).serviceId
  · rw [GetReservationsResponse.pairs, List.map_map]
    exact h.distinct
  · intro pair hpair
    obtain ⟨item, hitem, rfl⟩ := List.mem_map.mp hpair
    have hpositive := (h.reservations item hitem).reservationId
    rw [Positive] at hpositive
    dsimp only
    omega
  · have hpositive := h.canonicalJobId
    rw [Positive] at hpositive
    dsimp only [GetReservationsResponse.native]
    omega
  · refine List.Perm.of_eq ?_
    rw [GetReservationsResponse.native, GetReservationsResponse.pairs, List.map_map, List.map_map]
    rfl

/-- A lookup response that is accepted leaves the document of what it lists. -/
lemma exports_of_lookupResult {request : QsgpGetReservationsRequest}
    {response : GetReservationsResponse} (h : response.Sendable) {outcome : LookupOutcome}
    (hresult : GatewayClient.lookupResult request response.native = .ok outcome)
    (hstate : outcome.state = .accepted) :
    Exports outcome.reservationsJson response.pairs := by
  obtain ⟨hset, hlists⟩ := h.lists
  obtain ⟨sorted, hperm, hsorted⟩ := hset.exists_sorted
  have hlength : (List.replicate environmentSize (0 : UInt8)).length = environmentSize :=
    List.length_replicate
  have hwrites := hlists.writesDocument hset hperm hsorted hlength
  rw [WritesDocument, if_neg (by decide)] at hwrites
  unfold GatewayClient.lookupResult at hresult
  dsimp only at hresult
  split_ifs at hresult with hidentity
  · rw [← Except.ok.inj hresult] at hstate
    cases hstate
  split_ifs at hwrites with hroom
  · obtain ⟨written, hwritten, -, htext⟩ := hwrites
    rw [hwritten] at hresult
    rw [← Except.ok.inj hresult]
    exact ⟨sorted, hperm, hsorted, htext⟩
  · obtain ⟨left, hleft, -⟩ := hwrites
    rw [hleft] at hresult
    rw [← Except.ok.inj hresult] at hstate
    cases hstate

/-- A lookup that is accepted was served by the gateway, and leaves the document of what was on
record at that moment for the allocation of the job that Slurm vouched for. -/
theorem lookup_onRecord {clusterName : List UInt8} {observedJobId jobUid jobGid uid : ℕ}
    (h : Attested sha256 config client j run calling.around)
    (hplain : 0 ∉ clusterName) (hjob : observedJobId < 2 ^ 64) (huid : jobUid < 2 ^ 32)
    (hgid : jobGid < 2 ^ 32)
    (honly : ∀ frame, qsgpEncodeGetReservationsRequest
        (GatewayClient.lookupOf clusterName observedJobId jobUid jobGid)
        (calling.correlation (qfwRequestId clusterName observedJobId 0
          MessageType.getReservationsRequest.code)) = .ok frame →
      OnlyMessage (networkAfter sha256 config client.expectedMungeUid j run).issued config
        (calling.correlation (qfwRequestId clusterName observedJobId 0
          MessageType.getReservationsRequest.code)) uid frame)
    {outcome : LookupOutcome}
    (houtcome : client.qfwGetReservationsOperation calling clusterName observedJobId jobUid jobGid =
      .ok outcome) (hstate : outcome.state = .accepted) :
    ∃ before connection rest name job pairs, run = before ++ Occurrence.connects connection :: rest ∧
      utf8 name = clusterName ∧
      connection.oracle 0 (.verifyLookup ⟨(GatewayClient.lookupOf clusterName observedJobId jobUid
        jobGid).requestId, name, observedJobId, jobUid, jobGid⟩ uid) = .ok job ∧
      (networkAfter sha256 config client.expectedMungeUid j before).state.OnRecord
        ⟨name, job.canonicalJobId⟩ job.uid job.gid pairs ∧
      Exports outcome.reservationsJson pairs := by
  rw [GatewayClient.qfwGetReservationsOperation] at houtcome
  split_ifs at houtcome with hidentity
  · rw [← Except.ok.inj houtcome] at hstate
    cases hstate
  dsimp only at houtcome
  set request := GatewayClient.lookupOf clusterName observedJobId jobUid jobGid with hrequest
  have hid : request.requestId < 2 ^ 64 := (requestId_bounds _ _ _ _).2
  cases hcall : client.qfwGatewayGetReservations calling request with
  | error error =>
    rw [hcall] at houtcome
    rw [← Except.ok.inj houtcome] at hstate
    cases error <;> cases hstate
  | ok received =>
  rw [hcall] at houtcome
  have hended := qfwGatewayCall_getReservations client calling request
  rw [hcall] at hended
  have hconclusive := conclusive_of_ok hended
  obtain ⟨frame, -, -, hframe, -⟩ := answer_of_conclusive hconclusive
  obtain ⟨before, connection, rest, found, hrun, hfound, -, hserved, hsendable, -⟩ :=
    h.served hconclusive hframe (honly frame hframe) ⟨hid, hplain, hjob, huid, hgid⟩
      (correlationId_bounds hid _ _).2 (.inr ⟨_, hended⟩)
  obtain ⟨lookup, hlookup, rfl⟩ := Option.map_eq_some_iff.mp hfound
  obtain ⟨name, hname, rfl⟩ := exists_of_counterpart_getReservations hlookup
  have hanswer := hserved.symm.trans hended
  rcases serve_lookup sha256 (networkAfter sha256 config client.expectedMungeUid j before).state
    ⟨request.requestId, name, request.observedJobId, request.jobUid, request.jobGid⟩ uid
    connection.oracle with ⟨error, herror⟩ | ⟨job, records, hverified, hcontext, hresponse⟩
  · rw [herror] at hanswer
    cases hanswer
  · rw [hresponse] at hanswer hsendable
    obtain rfl := NativeMessage.getReservationsResponse.inj (Except.ok.inj hanswer)
    refine ⟨before, connection, rest, name, job, _, hrun, hname, hverified,
      onRecord_of_context hcontext rfl fun item hitem => ?_,
      exports_of_lookupResult hsendable houtcome hstate⟩
    exact (hsendable.reservations item hitem).reservationId.1

end Lookups

end QfwSlurm
