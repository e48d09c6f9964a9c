import QfwSlurm.Gateway.Answered
import QfwSlurm.Native.Admission
import QfwSlurm.Native.Counterparts

/-!
# Accepted by the gateway, accepted by the client

The gateway answers a reserve request with the whole set of the allocation, and the client takes an
answer only if it names exactly the services of its own request.  The two meet on the answers in
which nothing else is named (`acceptance_shared_iff`): a component that extends the set of another
one, and a request for a part of a set, are accepted by the gateway and refused by the client.
-/

namespace QfwSlurm

open Wire Native

/-- A service and its reservation id as the client reads them. -/
def nativeTuple (pair : String × Option ℤ) : String × ℕ := (pair.1, nativeNumber pair.2)

/-- The answer names the requested services and no others, and its reservations fit the
environment. -/
structure NamesRequested (request : ReserveRequest) (pairs : List (String × Option ℤ)) : Prop where
  services : (pairs.map Prod.fst).Perm request.serviceIds
  fits : FitsEnvironment (pairs.map nativeTuple)

instance (request : ReserveRequest) (pairs : List (String × Option ℤ)) :
    Decidable (NamesRequested request pairs) :=
  decidable_of_iff ((pairs.map Prod.fst).Perm request.serviceIds ∧
    FitsEnvironment (pairs.map nativeTuple)) ⟨fun h => ⟨h.1, h.2⟩, fun h => ⟨h.services, h.fits⟩⟩

section Usable

variable {q : QsgpReserveRequest} {request : ReserveRequest} {response : ReserveResponse}

/-- What the gateway knows of a request that the client can send. -/
lemma sendable_of_counterpart (hq : q.Sendable)
    (hhetero : q.hasHeteroJobId = true → q.heteroJobId ≠ 0)
    (hrequest : q.counterpart = some request) :
    (Request.reserve request).Valid ∧ request.serviceIds.map utf8 = q.serviceIds ∧
      q.requestId = request.requestId.toNat := by
  obtain ⟨hworkload, hsendable⟩ := (sendable_request_iff hrequest hhetero).mpr hq
  obtain ⟨_, _, serviceIds, -, -, hservices, hfound⟩ := exists_of_counterpart hrequest
  exact ⟨⟨hworkload, validateReserveRequest_eq_ok_iff.mpr hsendable⟩, by rw [hfound, hservices],
    by rw [hfound, Int.toNat_natCast]⟩

lemma map_nativeTuple_pair (response : ReserveResponse) :
    (response.results.map ServiceResult.pair).map nativeTuple =
      response.results.map ServiceResult.tuple := by
  rw [List.map_map]
  rfl

/-- The results name requested services only when the pairs do. -/
lemma requested_iff (hservices : request.serviceIds.map utf8 = q.serviceIds) :
    (∀ item ∈ response.results, utf8 item.serviceId ∈ q.serviceIds) ↔
      ∀ s ∈ response.results.map ServiceResult.serviceId, s ∈ request.serviceIds := by
  rw [List.forall_mem_map, ← hservices]
  refine forall₂_congr fun item _ => ?_
  rw [List.mem_map_of_injective utf8_injective]

/-- The client can make use of an accepted answer that names the requested services. -/
lemma usable_iff (hservices : request.serviceIds.map utf8 = q.serviceIds)
    (h : response.Sendable true)
    (hdecision : response.decision = .accepted) :
    Usable q response true ↔
      NamesRequested request (response.results.map ServiceResult.pair) := by
  have hnames : (response.results.map ServiceResult.pair).map Prod.fst =
      response.results.map ServiceResult.serviceId := by
    rw [List.map_map]
    rfl
  have hlength : q.serviceIds.length = request.serviceIds.length := by
    rw [← hservices, List.length_map]
  constructor
  · rintro ⟨⟨hrequested, hcomplete⟩, hfits⟩
    have hsubperm := h.distinct.subperm fun s hs => (requested_iff hservices).mp hrequested s hs
    refine ⟨?_, by rw [map_nativeTuple_pair]; exact hfits rfl hdecision⟩
    rw [hnames]
    refine hsubperm.perm_of_length_le ?_
    rw [List.length_map, hcomplete hdecision, hlength]
  · rintro ⟨hperm, hfits⟩
    rw [hnames] at hperm
    refine ⟨⟨(requested_iff hservices).mpr fun s hs => hperm.mem_iff.mp hs, fun _ => ?_⟩,
      fun _ _ => by rwa [map_nativeTuple_pair] at hfits⟩
    rw [hlength, ← hperm.length_eq, List.length_map]

lemma NamesRequested.perm {pairs others : List (String × Option ℤ)} (h : pairs.Perm others) :
    NamesRequested request pairs ↔ NamesRequested request others := by
  have hservices := h.map Prod.fst
  have hfits := FitsEnvironment.perm (h.map nativeTuple)
  exact ⟨fun hpairs => ⟨hservices.symm.trans hpairs.services, hfits.mp hpairs.fits⟩,
    fun hothers => ⟨hservices.trans hothers.services, hfits.mpr hothers.fits⟩⟩

end Usable

/-- In every reachable journal, the client accepts an accepted answer of the gateway exactly when
the set that was there and the reservations that the QPMs grant are for the services of its request,
and fit the environment. -/
theorem acceptance_shared_iff (sha256 : Document → String) (steps : List Step)
    (q : QsgpReserveRequest) (hq : q.Sendable)
    (hhetero : q.hasHeteroJobId = true → q.heteroJobId ≠ 0) (request : ReserveRequest)
    (hrequest : q.counterpart = some request) (senderUid : ℤ) (oracle : Oracle)
    (response : ReserveResponse)
    (hresponse : (serve sha256 (journalAfter sha256 Journal.empty steps) (.reserve request)
      senderUid oracle).1 = .reserve response)
    (hdecision : response.decision = .accepted) (correlationId : ℤ) (bytes : List UInt8)
    (hencode : encodeReserveResponse response correlationId = .ok bytes) :
    ∃ header received final, qsgpDecodeReserveResponse bytes = .ok (header, received) ∧
      qfwReserveResponseProcess q received {} = .ok final ∧
      (final.state = .accepted ↔
        NamesRequested request (answeredPairs sha256 request senderUid
          (journalAfter sha256 Journal.empty steps)
          (granted (serve sha256 (journalAfter sha256 Journal.empty steps) (.reserve request)
            senderUid oracle).2.trace))) := by
  obtain ⟨valid, hservices, hid⟩ := sendable_of_counterpart hq hhetero hrequest
  obtain ⟨hanswer, hcorrelation, hbytes⟩ := encodeReserveResponse_eq_ok_iff.mp hencode
  have hframed : Framed .reserveResponse correlationId.toNat response.payload bytes :=
    hbytes ▸ framed_frameBytes hcorrelation hanswer.length_payload_le
  have hnames := names_of_accepted_answer ⟨steps, rfl⟩ valid hresponse hdecision
  rw [← requestId_of_answer ⟨steps, rfl⟩ valid hresponse] at hid
  obtain ⟨final, hfinal, -, husable, hunusable⟩ := admissionResponseProcess_spec hq hanswer hid
    length_reservationsJson
  have hnamed := (usable_iff hservices hanswer hdecision).trans (NamesRequested.perm hnames)
  refine ⟨_, _, final, hanswer.decode hframed, hfinal, ?_⟩
  rw [← hnamed]
  constructor
  · intro hstate
    by_contra hnot
    cases hstate.symm.trans (hunusable hnot)
  · intro h
    rw [(husable h).1, hdecision]
    rfl

/-- A heterogeneous component of the job that asks for one service, as the client holds it. -/
def sampleComponent (component : ℕ) (serviceId : String) : QsgpReserveRequest where
  requestId := component + 1
  clusterName := utf8 "cluster"
  canonicalJobId := 7
  heteroJobId := 7
  heteroComponent := component
  hasHeteroJobId := true
  hasHeteroComponent := true
  jobUid := 1000
  jobGid := 1000
  workload := ⟨1, 60, 1, 1, 1, 1, 0, 0, 0, false, false, false⟩
  hasWorkload := true
  serviceIds := [utf8 serviceId]

/-- The component as the gateway reads it. -/
def sampleComponentRequest (component : ℤ) (serviceId : String) : ReserveRequest :=
  { sampleReserve (component + 1) [serviceId] with
    heteroJobId := some 7
    heteroComponent := some component
    workload := some ⟨.quantum, 60, 1, 1, 1, 1, none, none, none⟩ }

/-- The answer that grants reservation 5 of these services. -/
def sampleGranted (requestId : ℤ) (serviceIds : List String) : ReserveResponse :=
  ⟨requestId, .accepted, serviceIds.map fun serviceId =>
    ⟨serviceId, .accepted, 0, some 5, none, none, none, some "runtime", some 1, none⟩⟩

lemma sampleComponent_sendable :
    (sampleComponent 0 "qpm-a").Sendable ∧ (sampleComponent 1 "qpm-b").Sendable := by
  have hfirst : (sampleComponent 0 "qpm-a").counterpart =
      some (sampleComponentRequest 0 "qpm-a") := by decide +kernel
  have hsecond : (sampleComponent 1 "qpm-b").counterpart =
      some (sampleComponentRequest 1 "qpm-b") := by decide +kernel
  exact ⟨(sendable_request_iff hfirst fun _ => by decide).mp
      ⟨rfl, validateReserveRequest_eq_ok_iff.mp (by decide +kernel)⟩,
    (sendable_request_iff hsecond fun _ => by decide).mp
      ⟨rfl, validateReserveRequest_eq_ok_iff.mp (by decide +kernel)⟩⟩

/-- The first component of the job is accepted on both sides. -/
theorem acceptance_shared_iff_first :
    ∃ bytes header received final,
      encodeReserveResponse (sampleGranted 1 ["qpm-a"]) 9 = .ok bytes ∧
      qsgpDecodeReserveResponse bytes = .ok (header, received) ∧
      qfwReserveResponseProcess (sampleComponent 0 "qpm-a") received {} = .ok final ∧
      final.state = .accepted := by
  obtain ⟨bytes, hencode⟩ : ∃ bytes, encodeReserveResponse (sampleGranted 1 ["qpm-a"]) 9 =
      .ok bytes := exists_eq_ok_of_toBool (by decide +kernel)
  obtain ⟨header, received, final, hdecode, hfinal, hstate⟩ := acceptance_shared_iff sampleDigest []
    (sampleComponent 0 "qpm-a") sampleComponent_sendable.1 (fun _ => by decide)
    (sampleComponentRequest 0 "qpm-a") (by decide +kernel) 1000 obliging (sampleGranted 1 ["qpm-a"])
    (by decide +kernel) rfl 9 bytes hencode
  exact ⟨bytes, header, received, final, hencode, hdecode, hfinal, hstate.mpr (by decide +kernel)⟩

/-- The second component asks for another service.  The gateway extends the set and answers
`ACCEPTED` with both reservations; the client finds a service that it did not ask for. -/
theorem extension_refused_by_client :
    ∃ response bytes header received final,
      (sampleComponent 1 "qpm-b").counterpart = some (sampleComponentRequest 1 "qpm-b") ∧
      (serve sampleDigest (serve sampleDigest Journal.empty
        (.reserve (sampleComponentRequest 0 "qpm-a")) 1000 obliging).2.state
        (.reserve (sampleComponentRequest 1 "qpm-b")) 1000 obliging).1 = .reserve response ∧
      response.decision = .accepted ∧ encodeReserveResponse response 9 = .ok bytes ∧
      qsgpDecodeReserveResponse bytes = .ok (header, received) ∧
      qfwReserveResponseProcess (sampleComponent 1 "qpm-b") received {} = .ok final ∧
      final.state = .responseError := by
  obtain ⟨bytes, hencode⟩ : ∃ bytes, encodeReserveResponse (sampleGranted 2 ["qpm-a", "qpm-b"]) 9 =
      .ok bytes := exists_eq_ok_of_toBool (by decide +kernel)
  have hprocess : (qfwReserveResponseProcess (sampleComponent 1 "qpm-b")
      (sampleGranted 2 ["qpm-a", "qpm-b"]).native {}).toOption.map (·.state) =
        some .responseError := by decide +kernel
  obtain ⟨final, hfinal, hstate⟩ := Option.map_eq_some_iff.mp hprocess
  obtain ⟨hanswer, hcorrelation, hbytes⟩ := encodeReserveResponse_eq_ok_iff.mp hencode
  have hframed : Framed .reserveResponse 9 (sampleGranted 2 ["qpm-a", "qpm-b"]).payload bytes :=
    hbytes ▸ framed_frameBytes hcorrelation hanswer.length_payload_le
  exact ⟨sampleGranted 2 ["qpm-a", "qpm-b"], bytes, _, _, final, by decide +kernel,
    by decide +kernel, rfl, hencode, hanswer.decode hframed, toOption_eq_some_iff.mp hfinal, hstate⟩

end QfwSlurm
