import QfwSlurm.Gateway.Operations
import QfwSlurm.Native.Classification

/-!
# Verified releases

A release that is new and passes the verifier runs `_release` to the end: it visits the rows of the
allocation and then writes the allocation's own row.  Where there is no such row, because the job
was only evaluated or never seen, `complete_allocation` raises after the QPMs were contacted, and
the operation stays `started`.
-/

namespace QfwSlurm

open Interaction

/-- The request id is new, and the verifier lets the release through.  The handler asks the verifier
its third question, after it began the operation and read the status of the allocation. -/
structure Verified (j : Journal) (request : ReleaseRequest) (senderUid : ℤ) (oracle : Oracle) :
    Prop where
  fresh : j.operation (request.operationKey senderUid) = none
  verified : ∃ job, oracle 2 (.verifyRelease request senderUid
    (Option.map AllocationRow.jobUid (j.allocation request.key))) = .ok job

/-- The release is answered with a release response and journalled as complete, and where the
allocation holds no reservation id the native client reports a release. -/
structure ReleaseAnswered (sha256 : Document → String) (j : Journal) (request : ReleaseRequest)
    (senderUid : ℤ) (oracle : Oracle) : Prop where
  answered : ∃ response, (serve sha256 j (.release request) senderUid oracle).1 = .release response
  complete : ∃ row, (serve sha256 j (.release request) senderUid oracle).2.state.operation
    (request.operationKey senderUid) = some row ∧ row.state = .complete
  reported : (∀ record ∈ j.reservations request.key, record.reservationId = none) →
    ∀ (sent : Native.QsgpReleaseRequest) (correlationId : ℤ),
      sent.requestId = request.requestId.toNat → 0 < correlationId ∧ correlationId < 2 ^ 64 →
      ∃ response, (serve sha256 j (.release request) senderUid oracle).1 = .release response ∧
        (Native.clientRelease sent response correlationId).map
          Native.ReleaseOperationResult.state = some .released

section Releases

variable {sha256 : Document → String} {j : Journal} {request : ReleaseRequest} {senderUid : ℤ}
  {oracle : Oracle}

/-- A new operation may begin. -/
lemma Verified.mayBegin (h : Verified j request senderUid oracle) (fingerprint : String) :
    j.MayBegin (request.operationKey senderUid) fingerprint := by
  intro row hrow
  cases h.fresh.symm.trans hrow

/-- A verified release makes a pass over the rows of the allocation.  It fails when the allocation
has no row, and is journalled otherwise. -/
theorem Verified.serve_cases (h : Verified j request senderUid oracle)
    (sha256 : Document → String) :
    ∃ visits, Passes (j.reservations request.key) visits ∧
      adapterCalls (serve sha256 j (.release request) senderUid oracle).2.trace =
        visits.flatMap (Visit.calls · request) ∧
      ((j.allocation request.key = none ∧
        (serve sha256 j (.release request) senderUid oracle).1 = releaseError request.requestId
          (journalError "allocation disappeared before completion") ∧
        (serve sha256 j (.release request) senderUid oracle).2.state =
          (j.putOperation (request.operationKey senderUid)
            (begunRow (request.fingerprint sha256))).writeAll request.key
              (visits.flatMap Visit.writes)) ∨
      ∃ row, j.allocation request.key = some row ∧
        (serve sha256 j (.release request) senderUid oracle).1 =
          .release (request.response visits) ∧
        Updated j (request.operationKey senderUid)
          ⟨request.fingerprint sha256, .complete,
            some (responseToDict (.release (request.response visits)))⟩ request.key
          (releasedRow ReservationState.isUnresolved row (request.response visits))
          (visits.flatMap Visit.writes)
          (serve sha256 j (.release request) senderUid oracle).2.state) := by
  obtain ⟨job, hjob⟩ := h.verified
  obtain ⟨hreleases, hraises⟩ := (exec_releaseTry_verified oracle sha256 request senderUid ⟨j, []⟩
    (h.mayBegin _) hjob).of_nil
  have hserve : serve sha256 j (.release request) senderUid oracle = _ :=
    run_answer (surroundings oracle noFaults) (releaseTry sha256 request senderUid) .release
      (releaseError request.requestId) ⟨j, []⟩
  rw [hserve]
  revert hreleases hraises
  generalize Procedure.exec (surroundings oracle noFaults) (releaseTry sha256 request senderUid)
    ⟨j, []⟩ = ended
  obtain ⟨result, w⟩ := ended
  dsimp only
  intro hreleases hraises
  generalize adapterCalls w.trace = calls at hreleases ⊢
  generalize w.state = ended at hreleases ⊢
  cases hreleases with
  | conflicting row hrow hne => cases h.fresh.symm.trans hrow
  | replayed row result hrow hfingerprint hstate h' => cases h.fresh.symm.trans hrow
  | unverified failure hbegin =>
    -- the only error a verified release raises is not one of the verifier
    have hraised := hraises _ rfl
    cases failure <;> simp [VerifierFailure.error, journalError] at hraised
  | unknown visits hbegin hpass hallocation j' hj =>
    exact ⟨visits, hpass, rfl, .inl ⟨hallocation, rfl, hj⟩⟩
  | released row visits hbegin hpass hallocation j' hj =>
    exact ⟨visits, hpass, rfl, .inr ⟨row, hallocation, rfl, hj⟩⟩

/-- A pass over rows without reservation ids visits none. -/
lemma Passes.eq_nil {visits : List Visit} (h : Passes (j.reservations request.key) visits)
    (hnone : ∀ record ∈ j.reservations request.key, record.reservationId = none) :
    visits = [] := by
  have hfilter : (j.reservations request.key).filter (·.reservationId ≠ none) = [] := by
    refine List.filter_eq_nil_iff.mpr fun record hrecord => ?_
    simp [hnone record hrecord]
  exact List.map_eq_nil_iff.mp (h.1.trans hfilter)

end Releases

/-- A new and verified release is answered as a release exactly when the allocation has a row in the
journal. -/
theorem releaseAnswered_iff (sha256 : Document → String) (j : Journal) (request : ReleaseRequest)
    (senderUid : ℤ) (oracle : Oracle)
    (hid : 0 < request.requestId ∧ request.requestId < 2 ^ 64)
    (hverified : Verified j request senderUid oracle) :
    ReleaseAnswered sha256 j request senderUid oracle ↔ j.allocation request.key ≠ none := by
  obtain ⟨visits, hpass, -, hends⟩ := hverified.serve_cases sha256
  rcases hends with ⟨hnone, hresponse, -⟩ | ⟨row, hrow, hresponse, hupdated⟩
  · -- without a row the client gets an error
    refine ⟨fun h => ?_, fun h => absurd hnone h⟩
    obtain ⟨response, hanswer⟩ := h.answered
    cases hresponse.symm.trans hanswer
  refine ⟨fun _ => by simp [hrow], fun _ => ⟨⟨_, hresponse⟩, ?_, ?_⟩⟩
  · exact ⟨_, by rw [hupdated.operation_eq, if_pos rfl], rfl⟩
  · intro hids sent correlationId hsent hcorrelation
    refine ⟨_, hresponse, ?_⟩
    have hvisits : visits = [] := hpass.eq_nil hids
    have hsendable : (request.response visits).Sendable :=
      ⟨hid, by simp [ReleaseRequest.response, hvisits], by simp [ReleaseRequest.response, hvisits],
        by simp [ReleaseRequest.response, hvisits]⟩
    obtain ⟨result, hclient, -, hstate⟩ := Native.clientRelease_eq_some hsendable hcorrelation hsent
    have hcount : Native.unresolvedCount ReservationState.isUnresolved
        (request.response visits).results = 0 := by
      simp [ReleaseRequest.response, hvisits, Native.unresolvedCount]
    rw [hclient, Option.map_some, hstate, if_pos hcount]

/-- The release of an accepted job. -/
theorem releaseAnswered_iff_accepted :
    ReleaseAnswered sampleDigest sampleAccepted (sampleRelease 2) 1000 obliging :=
  (releaseAnswered_iff sampleDigest sampleAccepted (sampleRelease 2) 1000 obliging (by decide)
    ⟨rfl, sampleJob, rfl⟩).mpr (by decide)

/-- The release of a job that the journal has never seen, although the verifier lets it through: the
client gets an error and the operation stays started. -/
theorem unseen_release_unanswered :
    Verified Journal.empty (sampleRelease 1) 1000 obliging ∧
      ¬ ReleaseAnswered sampleDigest Journal.empty (sampleRelease 1) 1000 obliging := by
  refine ⟨⟨rfl, sampleJob, rfl⟩, fun h => ?_⟩
  obtain ⟨response, hresponse⟩ := h.answered
  have herror : (serve sampleDigest Journal.empty (.release (sampleRelease 1)) 1000 obliging).1 =
      .error ⟨.internal, some 1, some "allocation disappeared before completion"⟩ := by decide
  cases herror.symm.trans hresponse

end QfwSlurm
