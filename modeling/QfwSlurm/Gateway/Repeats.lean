import QfwSlurm.Interaction.Holdings
import QfwSlurm.Gateway.Extension

/-!
# Repeating a reserve request

One reserve request is sent again and again for an allocation the journal does not know, with
evaluations and lookups in between.  A repetition is in one of three phases.  While it is open, the
request reaches the QPMs each time.  An accepted or a rejected attempt settles it, and an incomplete
rollback blocks it; from then on no QPM is called.

`Phase` carries the two tables and the account of held reservations through the run; what each
phase answers is read off it.
-/

namespace QfwSlurm

open Interaction

/-! ### The run -/

/-- A step of a repetition: the request itself, or an evaluation or a lookup of anyone. -/
def Step.RepeatsOrReads (request : ReserveRequest) (senderUid : ℤ) : Step → Prop
  | .handle (.reserve other) _ otherUid _ => other = request ∧ otherUid = senderUid
  | .handle (.evaluate _) _ _ _ => True
  | .handle (.getReservations _) _ _ _ => True
  | _ => False

section Runs

variable (sha256 : Document → String)

/-- What a verified reserve request ends with. -/
def Step.attempt (j : Journal) : Step → Option (Except PyError ReserveResponse)
  | .handle (.reserve request) _ senderUid oracle =>
    match oracle 0 (.verifyReserve request senderUid) with
    | .ok _ => some (reserveResult sha256 j request senderUid oracle)
    | .error _ => none
  | _ => none

/-- What the verified reserve requests of a run end with, in order. -/
def attempts : Journal → List Step → List (Except PyError ReserveResponse)
  | _, [] => []
  | j, step :: steps => (step.attempt sha256 j).toList ++ attempts (step.next sha256 j) steps

end Runs

/-- The attempt was delayed, or failed with nothing left to give back. -/
def Inconclusive : Except PyError ReserveResponse → Prop
  | .ok response => response.decision = .delayed
  | .error error => error.errorClass ≠ .rollbackIncomplete

instance : DecidablePred Inconclusive
  | .ok response => inferInstanceAs (Decidable (response.decision = .delayed))
  | .error error => inferInstanceAs (Decidable (error.errorClass ≠ .rollbackIncomplete))

/-- The rollback of the attempt was incomplete. -/
def Incomplete : Except PyError ReserveResponse → Prop
  | .ok _ => False
  | .error error => error.errorClass = .rollbackIncomplete

/-- The QPMs were asked for the whole set: all of them accepted, or they were asked one after the
other up to the one that ended the attempt. -/
def AsksWholeSet (serviceIds : List String) (result : Except PyError ReserveResponse)
    (events : List Event) : Prop :=
  (∃ response, result = .ok response ∧ response.decision = .accepted ∧
    AcceptedAll serviceIds response events) ∨
  (¬ ∃ response, result = .ok response ∧ response.decision = .accepted) ∧
    GivenBack serviceIds result events

/-- The reservations that were granted and not passed to `adapter.release` since. -/
def unreleased (held : List (String × ℤ)) (events : List Event) : List (String × ℤ) :=
  heldAfter Event.granted Event.relinquished held events

/-! ### Events and the account -/

lemma AcceptedAll.adapterCalls_iff {serviceIds : List String} {response : ReserveResponse}
    {events : List Event} :
    AcceptedAll serviceIds response (adapterCalls events) ↔
      AcceptedAll serviceIds response events := by
  constructor
  · rintro ⟨hasked, hgranted, hreturned, hresults⟩
    simp only [asked_adapterCalls, granted_adapterCalls, returned_adapterCalls] at *
    exact ⟨hasked, hgranted, hreturned, hresults⟩
  · rintro ⟨hasked, hgranted, hreturned, hresults⟩
    constructor <;>
      simp only [asked_adapterCalls, granted_adapterCalls, returned_adapterCalls] <;> assumption

lemma GivenBack.adapterCalls_iff {serviceIds : List String}
    {result : Except PyError ReserveResponse} {events : List Event} :
    GivenBack serviceIds result (adapterCalls events) ↔ GivenBack serviceIds result events := by
  constructor
  · rintro ⟨hreturned, hstopped⟩
    simp only [asked_adapterCalls, granted_adapterCalls, returned_adapterCalls,
      contacted_adapterCalls, decided_adapterCalls] at *
    exact ⟨hreturned, hstopped⟩
  · rintro ⟨hreturned, hstopped⟩
    constructor <;>
      simp only [asked_adapterCalls, granted_adapterCalls, returned_adapterCalls,
        contacted_adapterCalls, decided_adapterCalls] <;> assumption

lemma asksWholeSet_adapterCalls {serviceIds : List String}
    {result : Except PyError ReserveResponse} {events : List Event} :
    AsksWholeSet serviceIds result (adapterCalls events) ↔
      AsksWholeSet serviceIds result events := by
  simp only [AsksWholeSet, AcceptedAll.adapterCalls_iff, GivenBack.adapterCalls_iff]

/-- The account reads the calls to the adapter alone. -/
lemma unreleased_adapterCalls (held : List (String × ℤ)) (events : List Event) :
    unreleased held (adapterCalls events) = unreleased held events := by
  refine heldAfter_filter _ _ ?_ held events
  rintro ⟨t | c, answer⟩ hevent
  · exact ⟨rfl, rfl⟩
  · cases c <;> first | exact ⟨rfl, rfl⟩ | cases hevent

lemma filterMap_relinquished (events : List Event) :
    events.filterMap Event.relinquished =
      (returned events).filterMap fun pair => pair.2.map fun id => (pair.1, id) :=
  (List.filterMap_filterMap ..).symm

/-- Estimates change no account. -/
lemma unreleased_of_isEstimate {events : List Event}
    (h : ∀ event ∈ events, event.1.isEstimate) (held : List (String × ℤ)) :
    unreleased held events = held := by
  have hgranted : events.filterMap Event.granted = [] := by
    refine List.filterMap_eq_nil_iff.mpr ?_
    rintro ⟨t | c, answer⟩ hevent
    · rfl
    · have hestimate := h _ hevent
      cases c <;> first | rfl | cases hestimate
  have hreturned : events.filterMap Event.relinquished = [] := by
    refine List.filterMap_eq_nil_iff.mpr ?_
    rintro ⟨t | c, answer⟩ hevent
    · rfl
    · have hestimate := h _ hevent
      cases c <;> first | rfl | cases hestimate
  rw [unreleased, heldAfter_of_no_giveBack _ _ hreturned, hgranted]
  rfl

/-- During a set of events at most one reservation of each service is held when nothing was held
before and no service granted two. -/
lemma countP_unreleased_le {events calls : List Event} (hbeginning : events <+: calls)
    (hnodup : ((granted calls).map Prod.fst).Nodup) (s : String) :
    (unreleased [] events).countP (·.1 = s) ≤ 1 := by
  have hgranted : (granted events).countP (·.1 = s) ≤ (granted calls).countP (·.1 = s) :=
    (hbeginning.sublist.filterMap Event.granted).countP_le
  have hone : (granted calls).countP (·.1 = s) ≤ 1 := by
    have hcount := List.nodup_iff_count_le_one.mp hnodup s
    rwa [List.count, List.countP_map] at hcount
  have hle := countP_heldAfter_le Event.granted Event.relinquished (·.1 = s) [] events
  rw [List.countP_nil, Nat.zero_add] at hle
  exact hle.trans (hgranted.trans hone)

/-! ### Attempts -/

section Attempts

variable {sha256 : Document → String} {request : ReserveRequest} {a : Attempt}
  {serviceIds : List String}

/-- An attempt asks the QPMs for the whole set it was made for. -/
lemma Attempt.asksWholeSet (hfor : a.For serviceIds) (job : VerifiedJob) (fingerprint : String) :
    AsksWholeSet serviceIds (a.result request.requestId)
      (a.events sha256 request job fingerprint) := by
  cases hstop : a.stop with
  | none =>
    refine .inl ⟨⟨request.requestId, .accepted, a.grants.map Grant.result⟩, ?_, rfl,
      Attempt.acceptedAll sha256 request job fingerprint hfor hstop⟩
    rw [Attempt.result, hstop]
  | some stop =>
    refine .inr ⟨fun h => ?_, Attempt.givenBack sha256 request job fingerprint hfor hstop⟩
    have hnone := (Attempt.accepted_iff hfor request.requestId).mp h
    cases hstop.symm.trans hnone

/-- The services of an attempt's grants are distinct. -/
lemma Attempt.nodup_granted (hfor : a.For serviceIds) (hfaultless : a.Faultless)
    (hnodup : serviceIds.Nodup) (job : VerifiedJob) (fingerprint : String) :
    ((granted (a.events sha256 request job fingerprint)).map Prod.fst).Nodup := by
  rw [Attempt.granted_events sha256 request hfor hfaultless, List.map_map]
  cases hstop : a.stop with
  | none =>
    simp only [Attempt.For, hstop] at hfor
    rw [← hfor] at hnodup
    exact hnodup
  | some stop =>
    simp only [Attempt.For, hstop] at hfor
    obtain ⟨⟨rest, hrest⟩, -⟩ := hfor
    rw [hrest, List.nodup_append] at hnodup
    exact hnodup.1

/-- A stopped attempt passes everything it was granted to `adapter.release`. -/
lemma Attempt.unreleased_of_stop (hfor : a.For serviceIds) (hfaultless : a.Faultless) {stop : Stop}
    (hstop : a.stop = some stop) (job : VerifiedJob) (fingerprint : String) :
    unreleased [] (a.events sha256 request job fingerprint) = [] := by
  -- the grants come first and the rollback last; between them the account does not change
  have hnone : (stop.contact.events request job fingerprint stop.serviceId).filterMap
      Event.relinquished = [] := by
    rw [filterMap_relinquished, returned_contact]
    rfl
  have hfirst : (grantEvents request job fingerprint a.grants ++
      stop.contact.events request job fingerprint stop.serviceId).filterMap
        Event.relinquished = [] := by
    rw [List.filterMap_append, hnone, filterMap_relinquished, returned_grantEvents]
    rfl
  have hgranted : (stop.rollback.events request.key
      (sha256 (reservationDocument request))).filterMap Event.granted = [] :=
    (granted_rollback _ stop.rollback request.key).2.2.1
  rw [Attempt.events, hstop, Option.elim_some, Stop.events, ← List.append_assoc, unreleased,
    heldAfter_append, heldAfter_of_no_giveBack _ _ hfirst]
  refine heldAfter_eq_nil _ _ hgranted fun pair hpair => ?_
  have hnot := hfor
  simp only [Attempt.For, hstop] at hnot
  have hmem : pair ∈ a.grants.map Grant.pair := by
    rw [List.append_nil, List.mem_reverse, List.filterMap_append] at hpair
    rcases List.mem_append.mp hpair with hpair | hpair
    · rwa [← granted_grantEvents request job fingerprint a.grants]
    · have hcontact := granted_of_not_accepts request job fingerprint hnot.2.1 stop.serviceId
      rw [Attempt.unrecordedGrant_eq_nil hfaultless hstop] at hcontact
      rw [granted] at hcontact
      rw [hcontact] at hpair
      cases hpair
  obtain ⟨g, hg, rfl⟩ := List.mem_map.mp hmem
  rw [filterMap_relinquished, returned_rollback, Attempt.undos_eq hfor hfaultless hstop]
  exact List.mem_filterMap.mpr ⟨_, List.mem_map_of_mem (List.mem_reverse.mpr hg), rfl⟩

end Attempts

/-! ### The phases of a repetition -/

section Phases

variable (sha256 : Document → String) (request : ReserveRequest) (senderUid : ℤ)

/-- The journal answers the request with a response: the operation is complete with it and, if it
was accepted, so is the allocation. -/
structure Answers (j : Journal) (response : ReserveResponse) : Prop where
  operation_eq : j.operation (request.reserveKey senderUid) =
    some ⟨request.fingerprint sha256, .complete, some (responseToDict (.reserve response))⟩
  requestId_eq : response.requestId = request.requestId
  allocation_eq : response.decision = .accepted → j.allocation request.key =
    some { request.freshRow sha256 with
      state := .accepted
      responseJson := some (responseToDict (.reserve response)) }

/-- Where a repetition stands: the journal, what the attempts ended with, and what is held. -/
inductive Phase (j : Journal) (results : List (Except PyError ReserveResponse)) :
    List (String × ℤ) → Prop
  /-- Every attempt was inconclusive, and the next one reaches the QPMs. -/
  | unsettled (hresults : ∀ result ∈ results, Inconclusive result)
      (hbegin : j.MayBegin (request.reserveKey senderUid) (request.fingerprint sha256))
      (hrestarts : Restarts sha256 request j) :
    Phase j results []
  /-- An attempt was accepted or rejected, and its response is the answer from then on. -/
  | settled (held : List (String × ℤ)) (response : ReserveResponse)
      (hdecision : response.decision ≠ .delayed) (hmem : .ok response ∈ results)
      (hresults : ∀ result ∈ results, Inconclusive result ∨ result = .ok response)
      (hanswers : Answers sha256 request senderUid j response)
      (hheld : ∀ s, held.countP (·.1 = s) ≤ 1) :
    Phase j results held
  /-- The rollback of an attempt was incomplete, and the operation stays started. -/
  | blocked (hmem : ∃ result ∈ results, Incomplete result)
      (hresults : ∀ result ∈ results, Inconclusive result ∨ Incomplete result)
      (hoperation : j.operation (request.reserveKey senderUid) =
        some (begunRow (request.fingerprint sha256))) :
    Phase j results []

variable {sha256 request senderUid} {j j' : Journal} {results : List (Except PyError ReserveResponse)}
  {held : List (String × ℤ)} {calls : List Event}

/-- A phase depends on the operation's row and the allocation's. -/
lemma Phase.congr (h : Phase sha256 request senderUid j results held)
    (hoperation : j'.operation (request.reserveKey senderUid) =
      j.operation (request.reserveKey senderUid))
    (hallocation : j'.allocation request.key = j.allocation request.key) :
    Phase sha256 request senderUid j' results held := by
  cases h with
  | unsettled hresults hbegin hrestarts =>
    refine .unsettled hresults (fun row hrow => hbegin row ?_) fun row hrow => hrestarts row ?_
    · rw [← hoperation, hrow]
    · rw [← hallocation, hrow]
  | settled held response hdecision hmem hresults hanswers hheld =>
    refine .settled held response hdecision hmem hresults ⟨?_, hanswers.requestId_eq, ?_⟩ hheld
    · rw [hoperation, hanswers.operation_eq]
    · rw [hallocation]
      exact hanswers.allocation_eq
  | blocked hmem hresults hrow =>
    refine .blocked hmem hresults ?_
    rw [hoperation, hrow]

/-- While a repetition is unsettled, a verified request asks the QPMs for a new set. -/
lemma Reserves.attempt_of_restarts
    (hbegin : j.MayBegin (request.reserveKey senderUid) (request.fingerprint sha256))
    (hrestarts : Restarts sha256 request j) {result : Except PyError ReserveResponse}
    (h : Reserves sha256 request senderUid j result j' calls) :
    ∃ (job : VerifiedJob) (a : Attempt), a.For (sorted request.serviceIds) ∧ a.Faultless ∧
      result = a.result request.requestId ∧
      calls =
        adapterCalls (a.events sha256 request job (request.reservationFingerprint sha256)) ∧
      j'.operation (request.reserveKey senderUid) = some (operationAfter sha256 request result) ∧
      j'.allocation request.key = some (allocationAfter sha256 request result) := by
  have hextends {row : AllocationRow} {stored : Json} (h : Extends sha256 request j row stored) :
      False := by
    rcases (hrestarts row h.allocation_eq).2 with hd | hd | ⟨hd | hd | ⟨-, hd⟩, -⟩
    · cases h.state_eq.symm.trans hd
    · cases h.state_eq.symm.trans hd
    · cases h.state_eq.symm.trans hd
    · cases h.state_eq.symm.trans hd
    · cases h.response_eq.symm.trans hd
  have hrecalls {row : AllocationRow} {stored : Json} (h : Recalls sha256 request j row stored) :
      False := by
    have hstate := h.state_eq
    rcases (hrestarts row h.allocation_eq).2 with hd | hd | ⟨-, hd⟩
    · rw [hd] at hstate
      rcases hstate with hstate | hstate <;> cases hstate
    · rw [hd] at hstate
      rcases hstate with hstate | hstate <;> cases hstate
    · exact hd h.fingerprint_eq
  cases h with
  | conflicting row hrow hne => exact absurd (hbegin row hrow).1 hne
  | replayed row result hrow hfingerprint hstate h => exact absurd (hbegin row hrow).2 hstate
  | refused error hbegin h =>
    cases h.symm.trans (beginAllocation_of_plans (.fresh hrestarts))
  | reused row stored response hbegin hplan h =>
    exact (hplan.elim (fun h => hextends h.1) hrecalls).elim
  | misread row stored error hbegin hplan h herror =>
    exact (hplan.elim (fun h => hextends h.1) hrecalls).elim
  | attempted job a hbegin h hfor hfaultless j' hj =>
    refine ⟨job, a, hfor, hfaultless, rfl, rfl, ?_, ?_⟩
    · rw [hj.operation_eq, if_pos rfl]
    · rw [hj.allocation_eq, if_pos rfl]
  | extended job a row stored previous hbegin h hm hp hfor hfaultless j' hj =>
    exact (hextends h).elim
  | stranded job a row stored error hbegin h hm hs hp he hfor j' hj => exact (hextends h).elim

/-! ### One step -/

/-- The account is kept where no QPM is called. -/
lemma unreleased_of_no_calls {events : List Event} (h : adapterCalls events = []) :
    unreleased held events = held := by
  rw [← unreleased_adapterCalls, h]
  rfl

/-- No prefix of a list of events without calls to the adapter has one. -/
lemma adapterCalls_of_beginning {events more : List Event} (hbeginning : events <+: more)
    (h : adapterCalls more = []) : adapterCalls events = [] := by
  have hsublist := (hbeginning.filter Event.isAdapter).sublist
  rw [adapterCalls] at h
  rw [h] at hsublist
  exact List.sublist_nil.mp hsublist

/-- What an attempt of an unsettled repetition leads to. -/
lemma phase_of_attempt {a : Attempt} (hfor : a.For (sorted request.serviceIds))
    (hfaultless : a.Faultless) (hnodup : request.serviceIds.Nodup) (job : VerifiedJob)
    (hresults : ∀ result ∈ results, Inconclusive result)
    (hoperation : j'.operation (request.reserveKey senderUid) =
      some (operationAfter sha256 request (a.result request.requestId)))
    (hallocation : j'.allocation request.key =
      some (allocationAfter sha256 request (a.result request.requestId))) :
    Phase sha256 request senderUid j' (results ++ [a.result request.requestId])
      (unreleased [] (a.events sha256 request job (request.reservationFingerprint sha256))) := by
  have hsorted : (sorted request.serviceIds).Nodup := sorted_nodup.mpr hnodup
  have hstopped {stop : Stop} (hstop : a.stop = some stop) :
      unreleased [] (a.events sha256 request job (request.reservationFingerprint sha256)) = [] :=
    Attempt.unreleased_of_stop hfor hfaultless hstop job _
  cases hresult : a.result request.requestId with
  | ok response =>
    rw [hresult] at hoperation hallocation
    by_cases hdelayed : response.decision = .delayed
    · -- a delayed attempt was stopped
      have hstop : a.stop ≠ none := by
        intro hnone
        obtain ⟨other, hother, haccepted⟩ :=
          (Attempt.accepted_iff hfor request.requestId).mpr hnone
        cases hresult.symm.trans hother
        cases hdelayed.symm.trans haccepted
      obtain ⟨stop, hstop⟩ := Option.ne_none_iff_exists'.mp hstop
      rw [hstopped hstop]
      refine .unsettled ?_ ?_ ?_
      · intro result hmem
        rcases List.mem_append.mp hmem with hmem | hmem
        · exact hresults result hmem
        · rw [List.mem_singleton.mp hmem]
          exact hdelayed
      · refine mayBegin_of_operationAfter hoperation (by rintro _ ⟨⟩) ?_
        rintro _ ⟨⟩
        exact hdelayed
      · intro row hrow
        cases hallocation.symm.trans hrow
        refine ⟨⟨rfl, rfl⟩, .inl ?_⟩
        simp [allocationAfter, allocationOutcome, hdelayed, decisionState]
    · refine .settled _ response hdelayed (by simp) ?_ ⟨?_, ?_, ?_⟩ ?_
      · intro result hmem
        rcases List.mem_append.mp hmem with hmem | hmem
        · exact .inl (hresults result hmem)
        · exact .inr (List.mem_singleton.mp hmem)
      · rw [hoperation]
        simp [operationAfter, operationOutcome, hdelayed]
      · exact Attempt.requestId_of_ok hresult
      · intro haccepted
        rw [hallocation]
        simp [allocationAfter, allocationOutcome, haccepted, decisionState]
      · exact countP_unreleased_le (List.prefix_refl _)
          (Attempt.nodup_granted hfor hfaultless hsorted job _)
  | error error =>
    rw [hresult] at hoperation hallocation
    obtain ⟨stop, hstop⟩ := Option.isSome_iff_exists.mp (Attempt.isSome_of_error a hresult)
    rw [hstopped hstop]
    by_cases hclass : error.errorClass = .rollbackIncomplete
    · refine .blocked ⟨.error error, by simp, hclass⟩ ?_ ?_
      · intro result hmem
        rcases List.mem_append.mp hmem with hmem | hmem
        · exact .inl (hresults result hmem)
        · rw [List.mem_singleton.mp hmem]
          exact .inr hclass
      · rw [hoperation]
        simp [operationAfter, operationOutcome, hclass, begunRow]
    · refine .unsettled ?_ ?_ ?_
      · intro result hmem
        rcases List.mem_append.mp hmem with hmem | hmem
        · exact hresults result hmem
        · rw [List.mem_singleton.mp hmem]
          exact hclass
      · refine mayBegin_of_operationAfter hoperation ?_ (by rintro _ ⟨⟩)
        rintro _ ⟨⟩
        exact hclass
      · intro row hrow
        cases hallocation.symm.trans hrow
        refine ⟨⟨rfl, rfl⟩, .inr (.inl ?_)⟩
        simp [allocationAfter, allocationOutcome, hclass]

/-- A settled repetition answers with its response. -/
lemma Answers.replay_eq {response : ReserveResponse} {row : OperationRow}
    (h : Answers sha256 request senderUid j response)
    (hrow : j.operation (request.reserveKey senderUid) = some row)
    {result : Except PyError ReserveResponse} (hreplays : Replays request j row result) :
    result = .ok response := by
  cases h.operation_eq.symm.trans hrow
  have hstored : storedReserve (some (responseToDict (.reserve response))) = some response :=
    storedReserve_reserve response
  have haccepted (hdecision : response.decision = .accepted) :
      j.acceptedAllocation request.key request.jobUid request.jobGid request.serviceIds =
        .ok (some (responseToDict (.reserve response))) := by
    rw [Journal.acceptedAllocation, h.allocation_eq hdecision]
    simp [ReserveRequest.freshRow, mem_sorted]
  cases hreplays with
  | unfinished hunfinished =>
    rcases hunfinished with hunfinished | hunfinished
    · exact absurd rfl hunfinished
    · cases hunfinished
  | unreadable error hstate hnone herror => cases hstored.symm.trans hnone
  | settled other hstate hother hdecision =>
    cases hstored.symm.trans hother
    rfl
  | denied other error hstate hother hdecision hallocation =>
    cases hstored.symm.trans hother
    cases (haccepted hdecision).symm.trans hallocation
  | gone other hstate hother hdecision hallocation =>
    cases hstored.symm.trans hother
    cases (haccepted hdecision).symm.trans hallocation
  | current other now stored hstate hother hdecision hallocation hnow =>
    cases hstored.symm.trans hother
    cases (haccepted hdecision).symm.trans hallocation
    cases hstored.symm.trans hnow
    rw [← h.requestId_eq]
  | garbled other stored error hstate hother hdecision hallocation hnow herror =>
    cases hstored.symm.trans hother
    cases (haccepted hdecision).symm.trans hallocation
    cases hstored.symm.trans hnow

/-- A blocked repetition answers that the operation requires recovery. -/
lemma replay_of_begun {fingerprint : String} {result : Except PyError ReserveResponse}
    (h : Replays request j (begunRow fingerprint) result) :
    result = .error (journalError "reserve operation requires recovery") := by
  cases h with
  | unfinished h => rfl
  | unreadable error hstate h herror => cases hstate
  | settled response hstate h hdecision => cases hstate
  | denied response error hstate h hdecision hallocation => cases hstate
  | gone response hstate h hdecision hallocation => cases hstate
  | current response now stored hstate h hdecision hallocation hnow => cases hstate
  | garbled response stored error hstate h hdecision hallocation hnow herror => cases hstate

/-- A verified request of a repetition leads from phase to phase, and at every moment of it the
account has at most one reservation of each service. -/
lemma Phase.reserve (h : Phase sha256 request senderUid j results held)
    (valid : (Request.reserve request).Valid) {result : Except PyError ReserveResponse}
    (hreserves : Reserves sha256 request senderUid j result j' calls) :
    Phase sha256 request senderUid j' (results ++ [result]) (unreleased held calls) ∧
      ∀ events, events <+: calls → ∀ s, (unreleased held events).countP (·.1 = s) ≤ 1 := by
  obtain ⟨-, hnodup, -⟩ := services_of_valid valid
  have hnil {events : List Event} (hbeginning : events <+: []) : unreleased held events = held := by
    rw [List.prefix_nil.mp hbeginning]
    rfl
  cases h with
  | unsettled hresults hbegin hrestarts =>
    obtain ⟨job, a, hfor, hfaultless, rfl, rfl, hoperation, hallocation⟩ :=
      hreserves.attempt_of_restarts hbegin hrestarts
    rw [unreleased_adapterCalls]
    refine ⟨phase_of_attempt hfor hfaultless hnodup job hresults hoperation hallocation, ?_⟩
    intro events hbeginning
    refine countP_unreleased_le hbeginning ?_
    rw [granted_adapterCalls]
    exact Attempt.nodup_granted hfor hfaultless (sorted_nodup.mpr hnodup) job _
  | settled held response hdecision hmem hresults hanswers hheld =>
    obtain ⟨rfl, rfl, hreplays⟩ := hreserves.replays_of_row hanswers.operation_eq rfl (by simp)
    obtain rfl := hanswers.replay_eq hanswers.operation_eq hreplays
    refine ⟨.settled held response hdecision (by simp [hmem]) ?_ hanswers hheld, ?_⟩
    · intro other hother
      rcases List.mem_append.mp hother with hother | hother
      · exact hresults other hother
      · exact .inr (List.mem_singleton.mp hother)
    · intro events hbeginning
      rw [hnil hbeginning]
      exact hheld
  | blocked hmem hresults hoperation =>
    obtain ⟨rfl, rfl, hreplays⟩ := hreserves.replays_of_row hoperation rfl (by simp [begunRow])
    obtain rfl := replay_of_begun hreplays
    obtain ⟨incomplete, hin, hincomplete⟩ := hmem
    refine ⟨.blocked ⟨incomplete, List.mem_append_left _ hin, hincomplete⟩ ?_ hoperation, ?_⟩
    · intro other hother
      rcases List.mem_append.mp hother with hother | hother
      · exact hresults other hother
      · rw [List.mem_singleton.mp hother]
        exact .inl (by simp [Inconclusive, journalError])
    · intro events hbeginning
      rw [hnil hbeginning]
      simp

/-- At most one reservation of each service is held in any phase. -/
lemma Phase.countP_le (h : Phase sha256 request senderUid j results held) (s : String) :
    held.countP (·.1 = s) ≤ 1 := by
  cases h with
  | unsettled hresults hbegin hrestarts => simp
  | settled held response hdecision hmem hresults hanswers hheld => exact hheld s
  | blocked hmem hresults hoperation => simp

/-- A step of a repetition leads from phase to phase, and at every moment of it the account has at
most one reservation of each service. -/
lemma Phase.step (h : Phase sha256 request senderUid j results held) {step : Step}
    (hstep : step.RepeatsOrReads request senderUid) :
    Phase sha256 request senderUid (step.next sha256 j)
        (results ++ (step.attempt sha256 j).toList) (unreleased held (step.trace sha256 j)) ∧
      ∀ events, events <+: step.trace sha256 j →
        ∀ s, (unreleased held events).countP (·.1 = s) ≤ 1 := by
  -- a step that leaves the account alone and writes neither of the two rows
  have hquiet (hattempt : step.attempt sha256 j = none)
      (hkept : ∀ events, events <+: step.trace sha256 j → unreleased held events = held)
      (hoperation : step.operationKey ≠ some (request.reserveKey senderUid))
      (hkey : step.key ≠ some request.key) :
      Phase sha256 request senderUid (step.next sha256 j)
          (results ++ (step.attempt sha256 j).toList) (unreleased held (step.trace sha256 j)) ∧
        ∀ events, events <+: step.trace sha256 j →
          ∀ s, (unreleased held events).countP (·.1 = s) ≤ 1 := by
    rw [hattempt, Option.toList_none, List.append_nil, hkept _ (List.prefix_refl _)]
    refine ⟨h.congr (step.operation_of_ne hoperation) (step.sameRows hkey).allocation_eq, ?_⟩
    intro events hbeginning
    rw [hkept events hbeginning]
    exact h.countP_le
  cases step with
  | handle other valid otherUid oracle =>
    cases other with
    | evaluate other =>
      refine hquiet rfl (fun events hbeginning => ?_) (by simp [Step.operationKey,
        ReserveRequest.operationKey]) (by simp [Step.key])
      obtain ⟨result, hevaluates⟩ := evaluates_serve sha256 j other otherUid oracle
      rw [← unreleased_adapterCalls]
      refine unreleased_of_isEstimate (fun event hevent => hevaluates.isEstimate event ?_) held
      exact (hbeginning.filter Event.isAdapter).subset hevent
    | getReservations other =>
      refine hquiet rfl (fun events hbeginning => ?_) (by simp [Step.operationKey])
        (by simp [Step.key])
      exact unreleased_of_no_calls
        (adapterCalls_of_beginning hbeginning (lookup_serve sha256 j other otherUid oracle).2)
    | release other => exact hstep.elim
    | reserve other =>
      obtain ⟨rfl, rfl⟩ := hstep
      cases hverdict : oracle 0 (.verifyReserve other otherUid) with
      | error failure =>
        obtain ⟨-, hserve⟩ := serve_unverified sha256 j hverdict
        have hcalls : adapterCalls ((Step.handle (.reserve other) valid otherUid oracle).trace
            sha256 j) = [] := by
          rw [Step.trace, Step.world, hserve]
          rfl
        rw [Step.attempt, hverdict, Option.toList_none, List.append_nil,
          unreleased_of_no_calls hcalls, Step.next, Step.world, hserve]
        refine ⟨h, fun events hbeginning => ?_⟩
        rw [unreleased_of_no_calls (adapterCalls_of_beginning hbeginning hcalls)]
        exact h.countP_le
      | ok job =>
        obtain ⟨hphase, hheld⟩ := h.reserve valid (reserves_serve sha256 j valid hverdict)
        rw [unreleased_adapterCalls] at hphase
        rw [Step.attempt, hverdict, Option.toList_some]
        refine ⟨hphase, fun events hbeginning s => ?_⟩
        rw [← unreleased_adapterCalls]
        exact hheld _ (hbeginning.filter Event.isAdapter) s
  | retry other oracle => exact hstep.elim

/-- So does a run. -/
lemma Phase.run (h : Phase sha256 request senderUid j results held) {steps : List Step}
    (hsteps : ∀ step ∈ steps, step.RepeatsOrReads request senderUid) :
    Phase sha256 request senderUid (journalAfter sha256 j steps)
        (results ++ attempts sha256 j steps) (unreleased held (runTrace sha256 j steps)) ∧
      ∀ events, events <+: runTrace sha256 j steps →
        ∀ s, (unreleased held events).countP (·.1 = s) ≤ 1 := by
  induction steps generalizing j results held with
  | nil =>
    rw [attempts, List.append_nil]
    refine ⟨h, fun events hbeginning => ?_⟩
    rw [List.prefix_nil.mp hbeginning]
    exact h.countP_le
  | cons step steps ih =>
    obtain ⟨hphase, hheld⟩ := h.step (hsteps step List.mem_cons_self)
    obtain ⟨hlast, hlater⟩ := ih hphase fun other hother =>
      hsteps other (List.mem_cons_of_mem step hother)
    rw [attempts, ← List.append_assoc, runTrace, unreleased, heldAfter_append]
    refine ⟨hlast, fun events hbeginning s => ?_⟩
    rcases List.prefix_or_prefix_of_prefix hbeginning (List.prefix_append (step.trace sha256 j) _) with
      hfirst | ⟨more, rfl⟩
    · exact hheld events hfirst s
    · rw [unreleased, heldAfter_append]
      exact hlater more ((List.prefix_append_right_inj _).mp hbeginning) s

end Phases

/-- Every QPM delays. -/
def delaying : Oracle :=
  sampleOracle (fun _ => .ok (sampleRefusal .delayed (by decide))) fun _ => .ok ⟨"released"⟩

end QfwSlurm
