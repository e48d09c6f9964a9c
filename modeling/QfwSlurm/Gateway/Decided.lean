import QfwSlurm.Gateway.AllOrNothing
import QfwSlurm.Gateway.Polls

/-!
# How the gateway decides

The decision of an answer, by what the QPMs said when they were asked for it: an evaluation asks
every service and combines what they say, a reserve goes by the first service that does not accept.
-/

namespace QfwSlurm

/-! ### The rules -/

/-- The decision of an evaluation: rejected if any service rejects, else delayed if any delays. -/
def evaluateDecision (decisions : List AdmissionDecision) : AdmissionDecision :=
  if .rejected ∈ decisions then .rejected
  else if .delayed ∈ decisions then .delayed
  else .accepted

/-- The decision of a reserve: that of the first service that does not accept, if there is one. -/
def reserveDecision (decisions : List AdmissionDecision) : AdmissionDecision :=
  (decisions.find? (· ≠ .accepted)).getD .accepted

/-- The service and decision of an `adapter.evaluate` call that returned. -/
def Event.estimated : Event → Option (String × AdmissionDecision)
  | ⟨.call (.evaluate binding _ _), .ok admission⟩ => some (binding.serviceId, admission.decision)
  | _ => none

/-- The estimates that QPMs returned, in order. -/
def estimated (events : List Event) : List (String × AdmissionDecision) :=
  events.filterMap Event.estimated

@[simp] lemma estimated_adapterCalls (events : List Event) :
    estimated (adapterCalls events) = estimated events := by
  refine filterMap_adapterCalls events ?_
  rintro ⟨_ | c, answer⟩ h
  · exact absurd rfl h
  · cases c <;> first | rfl | exact absurd rfl h

lemma combinedDecision_eq (results : List ServiceResult) :
    combinedDecision results = evaluateDecision (results.map ServiceResult.decision) := by
  simp only [combinedDecision, evaluateDecision, List.mem_map]

/-! ### Evaluations -/

section Evaluations

variable {sha256 : Document → String} {request : ReserveRequest} {senderUid : ℤ}
  {job : VerifiedJob} {j j' : Journal} {calls : List Event}

/-- The loop over the services makes a result of every estimate. -/
lemma Estimates.estimated_eq {serviceIds : List String}
    {outcome : Except PyError (List ServiceResult)}
    (h : Estimates request job serviceIds outcome calls) {results : List ServiceResult}
    (houtcome : outcome = .ok results) :
    estimated calls = results.map fun item => (item.serviceId, item.decision) := by
  induction h generalizing results with
  | done =>
    cases houtcome
    rfl
  | answered s rest qpm admission hid result calls hrest ih =>
    cases result with
    | error error => cases houtcome
    | ok more =>
      cases houtcome
      rw [List.map_cons, ← ih rfl]
      rfl
  | _ => cases houtcome

/-- An evaluation that asks QPMs goes by what all of them say. -/
lemma Polls.decision_eq {result : Except PyError EvaluateResponse}
    (h : Polls sha256 request senderUid job j result j' calls) (hcalls : calls ≠ [])
    {response : EvaluateResponse} (hresult : result = .ok response) :
    response.decision = evaluateDecision ((estimated calls).map Prod.snd) := by
  cases h with
  | evaluated outcome calls hbegin h =>
    cases outcome with
    | error error => cases hresult
    | ok results =>
      cases hresult
      rw [h.estimated_eq rfl, List.map_map]
      exact combinedDecision_eq results
  | _ => exact absurd rfl hcalls

end Evaluations

/-! ### Reservations -/

section Reservations

variable (sha256 : Document → String) (request : ReserveRequest) (job : VerifiedJob)
  (fingerprint : String)

/-- A QPM that granted a reservation decided to accept. -/
lemma decided_grantEvents (grants : List Grant) :
    decided (grantEvents request job fingerprint grants) =
      grants.map fun g => (g.serviceId, .accepted) := by
  induction grants with
  | nil => rfl
  | cons g grants ih =>
    have hgrant : decided (g.contact.events request job fingerprint g.serviceId) =
        [(g.serviceId, g.reply.val.decision)] := rfl
    rw [grantEvents, List.flatMap_cons, decided_append, hgrant, g.accepted, List.map_cons]
    exact congrArg ((g.serviceId, .accepted) :: ·) ih

variable {sha256 request job fingerprint}

/-- An attempt goes by the service that stopped it. -/
lemma Attempt.decision_eq {a : Attempt} {serviceIds : List String} (hfor : a.For serviceIds)
    {requestId : ℤ} {response : ReserveResponse} (h : a.result requestId = .ok response) :
    response.decision =
      reserveDecision ((decided (a.events sha256 request job fingerprint)).map Prod.snd) := by
  have hgrants : (decided (grantEvents request job fingerprint a.grants)).map Prod.snd =
      a.grants.map fun _ => .accepted := by
    rw [decided_grantEvents, List.map_map]
    rfl
  have hnone : (a.grants.map fun _ => AdmissionDecision.accepted).find? (· ≠ .accepted) = none := by
    rw [List.find?_eq_none]
    intro decision hdecision
    obtain ⟨g, -, rfl⟩ := List.mem_map.mp hdecision
    decide
  rw [Attempt.events, decided_append, List.map_append, hgrants, reserveDecision, List.find?_append,
    hnone, Option.none_or]
  cases hstop : a.stop with
  | none =>
    rw [Attempt.result, hstop] at h
    cases h
    rfl
  | some stop =>
    have hdecision : response.decision ≠ .accepted := by
      intro haccepted
      cases hstop.symm.trans ((Attempt.accepted_iff hfor requestId).mp ⟨response, h, haccepted⟩)
    simp only [Attempt.For, hstop] at hfor
    rw [Attempt.result, hstop] at h
    have hlast := (Stop.result_ok request job fingerprint a.grants hfor.2.1 h).1
    have hquiet := (granted_rollback (sha256 (reservationDocument request)) stop.rollback
      request.key).2.2.2
    rw [Option.elim_some, Stop.events, decided_append, hlast, hquiet]
    simp [hdecision]

/-- A reserve request that asks QPMs goes by the first that does not accept. -/
lemma Reserves.decision_eq {senderUid : ℤ} {j j' : Journal} {calls : List Event}
    {result : Except PyError ReserveResponse}
    (h : Reserves sha256 request senderUid j result j' calls) (hcalls : calls ≠ [])
    {response : ReserveResponse} (hresult : result = .ok response) :
    response.decision = reserveDecision ((decided calls).map Prod.snd) := by
  cases h with
  | attempted job a hbegin hrestart hfor hfaultless j' hj =>
    rw [decided_adapterCalls]
    exact Attempt.decision_eq hfor hresult
  | extended job a row stored previous hbegin hextends hm hp hfor hfaultless j' hj =>
    rw [decided_adapterCalls]
    cases hattempt : a.result request.requestId with
    | error error =>
      rw [hattempt] at hresult
      cases hresult
    | ok answer =>
      rw [← Attempt.decision_eq hfor hattempt]
      rw [hattempt, extensionResult] at hresult
      split_ifs at hresult with haccepted
      · cases hresult
        exact haccepted.symm
      · cases hresult
        rfl
  | stranded job a row stored error hbegin hextends hm hs hp he hfor j' hj => cases hresult
  | _ => exact absurd rfl hcalls

end Reservations

end QfwSlurm
