import QfwSlurm.Protocol.RoundTrip
import QfwSlurm.Protocol.Texts
import QfwSlurm.Gateway.Rows

/-!
# Answers of well-formed surroundings

The gateway passes on what it is told: the numbers and texts of a QPM's answer, and the texts of
exceptions.  An oracle is well formed when these fit the wire (`Oracle.WellFormed`).  This module
says what the handlers make of such answers, one exchange at a time: results that can be sent
(`ServiceResult.Sendable`, `ReleaseResult.Sendable`) and exceptions with a plain text.
-/

namespace QfwSlurm

open Interaction

/-! ### Well-formed answers -/

/-- A computation returned a good value, or raised an exception with a plain text. -/
def Presentable {α : Type} (good : α → Prop) : Except PyError α → Prop
  | .ok value => good value
  | .error error => Plain error.message

@[simp] lemma presentable_ok {α : Type} {good : α → Prop} {value : α} :
    Presentable good (.ok value) ↔ good value := Iff.rfl

@[simp] lemma presentable_error {α : Type} {good : α → Prop} {error : PyError} :
    Presentable good (.error error : Except PyError α) ↔ Plain error.message := Iff.rfl

lemma Presentable.mono {α : Type} {good better : α → Prop} {result : Except PyError α}
    (h : Presentable good result) (himp : ∀ value, good value → better value) :
    Presentable better result := by
  cases result with
  | ok value => exact himp value h
  | error error => exact h

/-- The incarnation of a QPM fits the wire. -/
structure Incarnation.WellFormed (qpm : Incarnation) : Prop where
  runtimeId : TextFits qpm.runtimeId maxServiceId
  generation : InWidth 64 qpm.generation

/-- The numbers and the text of a QPM's decision fit the wire. -/
structure Admission.WellFormed (admission : Admission) : Prop where
  reasonCode : InWidth 64 admission.reasonCode
  retryAfterNs : ∀ value ∈ admission.retryAfterNs, InWidth 64 value
  estimatedStartNs : ∀ value ∈ admission.estimatedStartNs, InWidth 64 value
  estimatedFinishNs : ∀ value ∈ admission.estimatedFinishNs, InWidth 64 value
  diagnostic : ∀ value ∈ admission.diagnostic, TextFits value maxDiagnostic

/-- An answer to a call: what it returned fits the wire, or what it raised has a plain text. -/
def Call.WellFormed : (c : Call) → c.Answer → Prop
  | .verifyReserve _ _, answer => Presentable (fun _ => True) (answer.mapError VerifierFailure.error)
  | .verifyRelease _ _ _, answer =>
    Presentable (fun _ => True) (answer.mapError VerifierFailure.error)
  | .verifyLookup _ _, answer => Presentable (fun _ => True) (answer.mapError VerifierFailure.error)
  | .resolve _, answer => Presentable Incarnation.WellFormed (answer.mapError AdapterFailure.error)
  | .evaluate _ _ _, answer => Presentable Admission.WellFormed (answer.mapError AdapterFailure.error)
  | .reserve _ _ _, answer =>
    Presentable (fun reply => reply.val.WellFormed) (answer.mapError AdapterFailure.error)
  | .release _ _ _, answer => Presentable (fun _ => True) (answer.mapError AdapterFailure.error)

/-- Every answer the oracle can give is well formed. -/
def Oracle.WellFormed (oracle : Oracle) : Prop := ∀ n (c : Call), c.WellFormed (oracle n c)

/-- The answer to a call is well formed. -/
def Event.WellFormed : Event → Prop
  | ⟨.call c, answer⟩ => c.WellFormed answer
  | ⟨.transaction _, _⟩ => True

/-- The calls to the adapter in a list of events were answered well. -/
def AnsweredWell (events : List Event) : Prop := ∀ event ∈ adapterCalls events, event.WellFormed

lemma AnsweredWell.call {events : List Event} (h : AnsweredWell events) (c : Call)
    (answer : c.Answer) (hmem : (⟨.call c, answer⟩ : Event) ∈ events)
    (hadapter : c.isVerification = false) : c.WellFormed answer :=
  h ⟨.call c, answer⟩ (List.mem_filter.mpr ⟨hmem, by simp [Event.isAdapter, hadapter]⟩)

lemma AnsweredWell.of_subset {events more : List Event} (h : AnsweredWell more)
    (hsubset : events ⊆ more) : AnsweredWell events := by
  intro event hevent
  obtain ⟨hmem, hadapter⟩ := List.mem_filter.mp hevent
  exact h event (List.mem_filter.mpr ⟨hsubset hmem, hadapter⟩)

/-- With a well-formed oracle, every call of a step is answered well. -/
lemma Oracle.WellFormed.answers {oracle : Oracle} (h : oracle.WellFormed) {α : Type}
    (p : Program Query Answer α) (j : Journal) :
    AnsweredWell (p.run (surroundings oracle noFaults) ⟨j, []⟩).2.trace := by
  have hanswers (q : Query) (w : GatewayWorld) :
      Event.WellFormed ⟨q, (surroundings oracle noFaults q w).1⟩ := by
    cases q with
    | transaction t => trivial
    | call c => exact h w.trace.length c
  obtain ⟨events, htrace, hevents⟩ := Program.run_trace_answers _ hanswers p ⟨j, []⟩
  rw [htrace, List.nil_append]
  exact fun event hevent => hevents event (List.mem_filter.mp hevent).1

/-! ### Results -/

section Results

variable {qpm : Incarnation} {admission : Admission} {serviceId : String}

/-- An estimate that can be sent. -/
lemma Admission.WellFormed.sendable_estimate (h : admission.WellFormed) (hqpm : qpm.WellFormed)
    (hservice : TextFits serviceId maxServiceId) (hid : admission.reservationId = none) :
    (admission.result (qpm.binding serviceId)).Sendable false where
  serviceId := hservice
  reasonCode := h.reasonCode
  granted := by simp [hid]
  reservationId := by simp [hid]
  retryAfterNs := h.retryAfterNs
  estimatedStartNs := h.estimatedStartNs
  estimatedFinishNs := h.estimatedFinishNs
  qpmRuntimeId := fun _ hvalue => Option.some.inj hvalue ▸ hqpm.runtimeId
  qpmGeneration := fun _ hvalue => Option.some.inj hvalue ▸ hqpm.generation
  diagnostic := h.diagnostic

/-- An accepted decision comes with an id, any other without. -/
lemma Admission.Reserved.isSome_iff (h : admission.Reserved) :
    admission.reservationId.isSome ↔ admission.decision = .accepted := by
  cases hdecision : admission.decision <;> cases hid : admission.reservationId <;>
    simp_all [Admission.Reserved]

/-- The id of a decision is a nonzero number of 64 bits. -/
lemma Admission.Reserved.positive (h : admission.Reserved) :
    ∀ id ∈ admission.reservationId, Positive 64 id := by
  intro id hid
  have haccepted := h.isSome_iff.mp (Option.isSome_iff_exists.mpr ⟨id, hid⟩)
  rw [Option.mem_def] at hid
  simpa [Admission.Reserved, haccepted, hid, Positive] using h

/-- A reservation that can be sent, or its refusal. -/
lemma Admission.WellFormed.sendable_reserved (h : admission.WellFormed) (hqpm : qpm.WellFormed)
    (hservice : TextFits serviceId maxServiceId) (hreserved : admission.Reserved) :
    (admission.result (qpm.binding serviceId)).Sendable true where
  serviceId := hservice
  reasonCode := h.reasonCode
  granted := by simpa using hreserved.isSome_iff
  reservationId := hreserved.positive
  retryAfterNs := h.retryAfterNs
  estimatedStartNs := h.estimatedStartNs
  estimatedFinishNs := h.estimatedFinishNs
  qpmRuntimeId := fun _ hvalue => Option.some.inj hvalue ▸ hqpm.runtimeId
  qpmGeneration := fun _ hvalue => Option.some.inj hvalue ▸ hqpm.generation
  diagnostic := h.diagnostic

/-- A result that is reported as rolled back can be sent. -/
lemma ServiceResult.Sendable.rolledBack {decisive item : ServiceResult} (h : item.Sendable true)
    (hdecisive : decisive.Sendable true) (hdecision : decisive.decision ≠ .accepted) :
    (rolledBackResult decisive item).Sendable true where
  serviceId := h.serviceId
  reasonCode := hdecisive.reasonCode
  granted := by simp [rolledBackResult, hdecision]
  reservationId := by simp [rolledBackResult]
  retryAfterNs := h.retryAfterNs
  estimatedStartNs := h.estimatedStartNs
  estimatedFinishNs := h.estimatedFinishNs
  qpmRuntimeId := h.qpmRuntimeId
  qpmGeneration := h.qpmGeneration
  diagnostic := fun _ hvalue => Option.some.inj hvalue ▸ by decide +kernel

end Results

/-! ### Errors -/

/-- The text of an exception that has one can be sent, whatever the code. -/
lemma sendable_errorResponse {code : GatewayError} {requestId : ℤ} {detail : String}
    (hid : Positive 64 requestId) (hdetail : Plain detail) :
    (errorResponse code requestId detail).Sendable where
  requestId := fun _ hvalue => Option.some.inj hvalue ▸ hid.inWidth
  diagnostic := fun _ hvalue => Option.some.inj hvalue ▸ hdetail.boundedDiagnostic

/-- The answer to a failed evaluation or reservation can be sent. -/
lemma sendable_operationError {operation : String} {requestId : ℤ} {error : PyError}
    (hid : Positive 64 requestId) (herror : Plain error.message)
    (hoperation : '\x00' ∉ operation.toList) :
    (operationError operation requestId error).Sendable := by
  have hopening : Plain ("unexpected " ++ operation ++ " failure: ") :=
    .append (.append (by decide) hoperation) (by decide)
  have hunexpected : Plain s!"unexpected {operation} failure: {error.message}" :=
    hopening.append herror.noNul
  unfold operationError
  split
  · exact sendable_errorResponse hid herror
  · exact sendable_errorResponse hid herror
  · exact sendable_errorResponse hid herror
  · split_ifs
    · exact sendable_errorResponse hid herror
    · exact sendable_errorResponse hid hunexpected

/-- The answer to a failed release can be sent. -/
lemma sendable_releaseError {requestId : ℤ} {error : PyError} (hid : Positive 64 requestId)
    (herror : Plain error.message) : (releaseError requestId error).Sendable := by
  have hopening : Plain "unexpected release failure: " := by decide
  have hunexpected : Plain s!"unexpected release failure: {error.message}" :=
    hopening.append herror.noNul
  unfold releaseError
  split
  · exact sendable_errorResponse hid herror
  · exact sendable_errorResponse hid herror
  · split_ifs
    · exact sendable_errorResponse hid herror
    · exact sendable_errorResponse hid hunexpected

/-- The answer to a failed lookup can be sent. -/
lemma sendable_lookupError {requestId : ℤ} {error : PyError} (hid : Positive 64 requestId)
    (herror : Plain error.message) : (lookupError requestId error).Sendable := by
  have hopening : Plain "unexpected reservation lookup failure: " := by decide
  have hunexpected : Plain s!"unexpected reservation lookup failure: {error.message}" :=
    hopening.append herror.noNul
  unfold lookupError
  split
  · exact sendable_errorResponse hid herror
  · exact sendable_errorResponse hid herror
  · exact sendable_errorResponse hid herror
  · exact sendable_errorResponse hid herror
  · exact sendable_errorResponse hid herror
  · split_ifs
    · exact sendable_errorResponse hid herror
    · exact sendable_errorResponse hid hunexpected

/-! ### Attempts -/

/-- A row whose service and id can be sent. -/
def RowFits (write : String × ReservationRow) : Prop :=
  TextFits write.1 maxServiceId ∧ ∀ id ∈ write.2.reservationId, Positive 64 id

section Attempts

variable {sha256 : Document → String} {request : ReserveRequest} {job : VerifiedJob}
  {fingerprint : String} {a : Attempt} {serviceIds : List String}

/-- A contact that was answered well has a result that can be sent. -/
lemma Contact.sendable_of_answered {qpm : Incarnation} {reply : ReserveReply} {serviceId : String}
    (h : AnsweredWell ((Contact.answered qpm reply).events request job fingerprint serviceId))
    (hservice : TextFits serviceId maxServiceId) :
    (reply.val.result (qpm.binding serviceId)).Sendable true := by
  have hqpm : qpm.WellFormed :=
    h.call (.resolve serviceId) (.ok qpm) (by simp [Contact.events]) rfl
  have hreply : reply.val.WellFormed :=
    h.call (.reserve (qpm.binding serviceId) request job) (.ok reply)
      (by simp [Contact.events]) rfl
  exact hreply.sendable_reserved hqpm hservice reply.property

/-- The results of the grants of an attempt can be sent. -/
lemma Attempt.sendable_grants
    (h : AnsweredWell (a.events sha256 request job fingerprint))
    (hfits : ∀ g ∈ a.grants, TextFits g.serviceId maxServiceId) :
    ∀ g ∈ a.grants, g.result.Sendable true := by
  intro g hg
  have hcontact : AnsweredWell (g.contact.events request job fingerprint g.serviceId) :=
    h.of_subset fun event hevent =>
      List.mem_append_left _ (List.mem_flatMap.mpr ⟨g, hg, hevent⟩)
  exact Contact.sendable_of_answered hcontact (hfits g hg)

/-- The services of the grants, and the one that ended the attempt, are among those it was made
for. -/
lemma Attempt.For.services (hfor : a.For serviceIds) :
    (∀ g ∈ a.grants, g.serviceId ∈ serviceIds) ∧
      ∀ stop, a.stop = some stop →
        (a.grants.map Grant.serviceId ++ [stop.serviceId]).Sublist serviceIds := by
  cases hstop : a.stop with
  | none =>
    simp only [Attempt.For, hstop] at hfor
    exact ⟨fun g hg => hfor ▸ List.mem_map_of_mem hg, by rintro _ ⟨⟩⟩
  | some stop =>
    simp only [Attempt.For, hstop] at hfor
    obtain ⟨⟨rest, rfl⟩, -⟩ := hfor
    refine ⟨fun g hg => List.mem_append_left _ (List.mem_map_of_mem hg), ?_⟩
    rintro _ ⟨⟩
    exact (List.Sublist.refl _).append ((List.nil_sublist rest).cons_cons _)

/-- A response whose results all have the decision that ended the attempt. -/
lemma sendable_of_stopped {requestId : ℤ} {grants : List Grant} {decisive : ServiceResult}
    (hid : Positive 64 requestId) (hgrants : ∀ g ∈ grants, g.result.Sendable true)
    (hdecisive : decisive.Sendable true) (hdecision : decisive.decision ≠ .accepted)
    (hnodup : (grants.map Grant.serviceId ++ [decisive.serviceId]).Nodup)
    (hcount : (grants.map Grant.serviceId ++ [decisive.serviceId]).length ≤ maxServices) :
    (ReserveResponse.mk requestId decisive.decision
      (grants.map (fun g => rolledBackResult decisive g.result) ++ [decisive])).Sendable true where
  requestId := hid
  count := by
    rw [List.length_append, List.length_map] at hcount ⊢
    exact ⟨by simp, hcount⟩
  distinct := by
    rw [List.map_append, List.map_map]
    exact hnodup
  results := by
    intro item hitem
    rcases List.mem_append.mp hitem with hitem | hitem
    · obtain ⟨g, hg, rfl⟩ := List.mem_map.mp hitem
      exact (hgrants g hg).rolledBack hdecisive hdecision
    · rw [List.mem_singleton.mp hitem]
      exact hdecisive
  agrees := by
    have hall : ∀ decision ∈ (grants.map (fun g => rolledBackResult decisive g.result) ++
        [decisive]).map ServiceResult.decision, decision = decisive.decision := by
      simp only [List.map_append, List.map_map, List.mem_append, List.mem_map, List.map_cons,
        List.map_nil, List.mem_singleton]
      rintro decision (⟨g, -, rfl⟩ | rfl) <;> rfl
    have hmem : decisive.decision ∈ (grants.map (fun g => rolledBackResult decisive g.result) ++
        [decisive]).map ServiceResult.decision := by
      simp
    dsimp only
    generalize decisive.decision = decision at hdecision hall hmem
    cases decision with
    | accepted => exact absurd rfl hdecision
    | rejected => exact hmem
    | delayed => exact ⟨hmem, fun hrejected => nomatch hall _ hrejected⟩

lemma plain_incomplete : Plain "allocation rollback was incomplete" := by decide

lemma plain_abandoned :
    Plain ("reserve failed and rollback was incomplete: " ++ "allocation rollback was incomplete") := by
  decide

/-- What an attempt returns can be sent, or what it raises has a plain text. -/
theorem Attempt.presentable (hfor : a.For serviceIds) (hfaultless : a.Faultless)
    (h : AnsweredWell (a.events sha256 request job fingerprint)) (hnodup : serviceIds.Nodup)
    (hcount : 0 < serviceIds.length ∧ serviceIds.length ≤ maxServices)
    (hfits : ∀ s ∈ serviceIds, TextFits s maxServiceId) {requestId : ℤ}
    (hid : Positive 64 requestId) :
    Presentable (ReserveResponse.Sendable true) (a.result requestId) := by
  obtain ⟨hgranted, hservices⟩ := hfor.services
  have hgrants := Attempt.sendable_grants h fun g hg => hfits _ (hgranted g hg)
  cases hstop : a.stop with
  | none =>
    simp only [Attempt.For, hstop] at hfor
    rw [Attempt.result, hstop]
    refine ⟨hid, ?_, ?_, ?_, ?_⟩
    · rw [List.length_map, ← a.grants.length_map (f := Grant.serviceId), hfor]
      exact hcount
    · rw [List.map_map]
      exact (congrArg List.Nodup hfor).mpr hnodup
    · intro item hitem
      obtain ⟨g, hg, rfl⟩ := List.mem_map.mp hitem
      exact hgrants g hg
    · simp [Agrees]
  | some stop =>
    have hsublist := hservices stop hstop
    have hcontact : AnsweredWell (stop.contact.events request job fingerprint stop.serviceId) := by
      refine h.of_subset fun event hevent => ?_
      rw [Attempt.events, hstop]
      exact List.mem_append_right _ (List.mem_append_left _ hevent)
    have haccepts : stop.contact.accepts = false := by
      simp only [Attempt.For, hstop] at hfor
      exact hfor.2.1
    have hok := (hfaultless stop hstop).1
    rw [Attempt.result, hstop]
    dsimp only
    unfold Stop.result
    split_ifs with hcomplete
    · unfold Contact.conclusion
      cases hc : stop.contact with
      | answered qpm reply =>
        rw [hc] at hcontact haccepts
        have hservice := hfits _ (hsublist.subset (List.mem_append_right _ List.mem_cons_self))
        refine sendable_of_stopped hid hgrants (Contact.sendable_of_answered hcontact hservice) ?_
          (hnodup.sublist hsublist) (hsublist.length_le.trans hcount.2)
        simpa [Contact.accepts] using haccepts
      | unresolved failure =>
        rw [hc] at hcontact
        exact hcontact.call (.resolve stop.serviceId) (.error failure)
          (by simp [Contact.events]) rfl
      | unanswered qpm failure =>
        rw [hc] at hcontact
        exact hcontact.call (.reserve (qpm.binding stop.serviceId) request job) (.error failure)
          (by simp [Contact.events]) rfl
      | unmarked qpm fault =>
        rw [hc] at hok
        exact hok.elim
      | unrecorded qpm reply fault =>
        rw [hc] at hok
        exact hok.elim
    · rw [presentable_error]
      unfold Contact.incomplete
      cases stop.contact.outcome stop.serviceId with
      | ok answer => exact plain_incomplete
      | error interrupted => exact plain_abandoned

/-- The rows an attempt writes are for its services, with ids that can be sent. -/
lemma Attempt.rowFits_of_mem_writes (hfor : a.For serviceIds) (hfaultless : a.Faultless)
    (hfits : ∀ s ∈ serviceIds, TextFits s maxServiceId) :
    ∀ write ∈ a.writes sha256 request fingerprint, RowFits write := by
  have hcontact {c : Contact} {s : String} (hs : TextFits s maxServiceId) :
      ∀ write ∈ c.writes fingerprint s, RowFits write := by
    intro write hwrite
    refine ⟨fst_of_mem_contact write hwrite ▸ hs, ?_⟩
    have hpending (qpm : Incarnation) :
        ∀ id ∈ ((pendingRecord s qpm fingerprint).row none).reservationId, Positive 64 id := by
      simp [pendingRecord, ReservationRecord.row]
    cases c with
    | unresolved failure => cases hwrite
    | unmarked qpm fault => cases hwrite
    | unanswered qpm failure =>
      rw [List.mem_singleton.mp hwrite]
      exact hpending qpm
    | unrecorded qpm reply fault =>
      rw [List.mem_singleton.mp hwrite]
      exact hpending qpm
    | answered qpm reply =>
      rcases List.mem_cons.mp hwrite with rfl | hwrite
      · exact hpending qpm
      · rw [List.mem_singleton.mp hwrite]
        exact Admission.Reserved.positive reply.property
  obtain ⟨hgranted, hservices⟩ := hfor.services
  intro write hwrite
  rcases List.mem_append.mp hwrite with hwrite | hwrite
  · obtain ⟨g, hg, hwrite⟩ := List.mem_flatMap.mp hwrite
    exact hcontact (hfits _ (hgranted g hg)) write hwrite
  cases hstop : a.stop with
  | none =>
    rw [hstop] at hwrite
    cases hwrite
  | some stop =>
    rw [hstop, Option.elim_some] at hwrite
    rcases List.mem_append.mp hwrite with hwrite | hwrite
    · refine hcontact (hfits _ ?_) write hwrite
      exact (hservices stop hstop).subset (List.mem_append_right _ List.mem_cons_self)
    · obtain ⟨u, hu, hwrite⟩ := List.mem_flatMap.mp hwrite
      have hgrant : u.grant ∈ a.grants := by
        have hmem := List.mem_map_of_mem (f := Undo.grant) hu
        rw [Attempt.undos_eq hfor hfaultless hstop] at hmem
        exact List.mem_reverse.mp hmem
      have hid : Positive 64 u.grant.id :=
        Admission.Reserved.positive u.grant.reply.property _ u.grant.reservationId_eq
      unfold Undo.writes at hwrite
      split at hwrite
      · rw [List.mem_singleton.mp hwrite]
        exact ⟨hfits _ (hgranted _ hgrant), fun id heq => Option.some.inj heq ▸ hid⟩
      · cases hwrite

end Attempts

/-! ### Estimates -/

/-- The decision over all results agrees with theirs. -/
lemma agrees_combinedDecision (results : List ServiceResult) :
    Agrees (combinedDecision results) (results.map ServiceResult.decision) := by
  unfold combinedDecision
  split_ifs with hrejected hdelayed
  · exact List.mem_map.mpr hrejected
  · exact ⟨List.mem_map.mpr hdelayed, fun hmem => hrejected (List.mem_map.mp hmem)⟩
  · intro decision hmem
    obtain ⟨item, hitem, rfl⟩ := List.mem_map.mp hmem
    push Not at hrejected hdelayed
    cases hdecision : item.decision with
    | accepted => rfl
    | delayed => exact absurd hdecision (hdelayed item hitem)
    | rejected => exact absurd hdecision (hrejected item hitem)

section Estimates

variable {request : ReserveRequest} {job : VerifiedJob} {serviceIds : List String}
  {calls : List Event}

/-- What the loop of an evaluation returns is one result for each service, which can be sent, and
what it raises has a plain text. -/
lemma Estimates.presentable {outcome : Except PyError (List ServiceResult)}
    (h : Estimates request job serviceIds outcome calls) (hcalls : AnsweredWell calls)
    (hfits : ∀ s ∈ serviceIds, TextFits s maxServiceId) :
    Presentable (fun results => results.map ServiceResult.serviceId = serviceIds ∧
      ∀ item ∈ results, item.Sendable false) outcome := by
  induction h with
  | done => exact ⟨rfl, fun item hitem => nomatch hitem⟩
  | unresolved s rest failure => exact hcalls.call (.resolve s) (.error failure) (by simp) rfl
  | unanswered s rest qpm failure =>
    exact hcalls.call (.evaluate (qpm.binding s) request job) (.error failure) (by simp) rfl
  | misled s rest qpm admission h =>
    have hopening : Plain "QPM " := by decide
    exact (hopening.append (plain_reprText s).noNul).append (by decide)
  | answered s rest qpm admission hid result calls hrest ih =>
    have hqpm : qpm.WellFormed := hcalls.call (.resolve s) (.ok qpm) (by simp) rfl
    have hadmission : admission.WellFormed :=
      hcalls.call (.evaluate (qpm.binding s) request job) (.ok admission) (by simp) rfl
    have hrest := ih
      (hcalls.of_subset fun event hevent => List.mem_cons_of_mem _ (List.mem_cons_of_mem _ hevent))
      fun t ht => hfits t (List.mem_cons_of_mem s ht)
    cases result with
    | error error => exact hrest
    | ok results =>
      obtain ⟨hservices, hresults⟩ := hrest
      refine ⟨by simp [hservices], List.forall_mem_cons.mpr ⟨?_, hresults⟩⟩
      exact hadmission.sendable_estimate hqpm (hfits s List.mem_cons_self) hid

/-- The response to an evaluation can be sent, or its exception has a plain text. -/
lemma Estimates.presentable_response {outcome : Except PyError (List ServiceResult)}
    (h : Estimates request job (sorted request.serviceIds) outcome calls)
    (hcalls : AnsweredWell calls) (hrequest : request.Sendable) :
    Presentable (fun response : EvaluateResponse => response.toReserveResponse.Sendable false)
      (outcome.map (evaluateResponse request)) := by
  have hperm := sorted_perm request.serviceIds
  have hresults := h.presentable hcalls fun s hs => hrequest.services s (mem_sorted.mp hs)
  cases outcome with
  | error error => exact hresults
  | ok results =>
    obtain ⟨hservices, hsendable⟩ := hresults
    have hlength : results.length = request.serviceIds.length := by
      rw [← hperm.length_eq, ← hservices, List.length_map]
    refine ⟨hrequest.requestId, ?_, ?_, hsendable, agrees_combinedDecision results⟩
    · change 0 < results.length ∧ results.length ≤ maxServices
      rw [hlength]
      exact hrequest.count
    · change (results.map ServiceResult.serviceId).Nodup
      rw [hservices]
      exact hperm.nodup_iff.mpr hrequest.distinct

end Estimates

/-! ### Visits -/

section Visits

variable {request : ReleaseRequest} {visits : List Visit} {j : Journal} {key : AllocationKey}

/-- The text of a disposal fits a diagnostic. -/
lemma Disposal.fits_diagnostic {disposal : Disposal} {record : ReservationRecord}
    (h : AnsweredWell (disposal.calls request record)) :
    ∀ diagnostic ∈ disposal.outcome.2, TextFits diagnostic maxDiagnostic := by
  intro diagnostic hdiagnostic
  cases disposal with
  | unresolved failure =>
    obtain rfl := Option.some.inj hdiagnostic
    exact Plain.boundedDiagnostic
      (h.call (.resolve record.serviceId) (.error failure) (by simp [Disposal.calls]) rfl)
  | restarted qpm =>
    obtain rfl := Option.some.inj hdiagnostic
    decide +kernel
  | failed qpm failure =>
    obtain rfl := Option.some.inj hdiagnostic
    exact Plain.boundedDiagnostic
      (h.call (.release (qpm.binding record.serviceId) record.reservationId request.reason)
        (.error failure) (by simp [Disposal.calls]) rfl)
  | answered qpm reply =>
    unfold Disposal.outcome at hdiagnostic
    dsimp only at hdiagnostic
    by_cases hconfirms : reply.confirms
    · rw [if_pos hconfirms] at hdiagnostic
      cases hdiagnostic
    · rw [if_neg hconfirms] at hdiagnostic
      obtain rfl := Option.some.inj hdiagnostic
      have hopening : Plain "QPM returned release status " := by decide
      exact (hopening.append (plain_reprText (lower reply.status)).noNul).boundedDiagnostic

/-- The visit of a row whose service and id can be sent has such a result. -/
lemma Visit.sendable {v : Visit} (hsound : v.Sound) (h : AnsweredWell (v.calls request))
    (hfits : RowFits (v.record.serviceId, v.record.row none)) : v.result.Sendable := by
  obtain ⟨hservice, hid⟩ := hfits
  obtain ⟨id, hrecord⟩ := Option.ne_none_iff_exists'.mp hsound.1
  have hpositive : Positive 64 (v.record.reservationId.getD 0) := by
    rw [hrecord]
    exact hid id hrecord
  unfold Visit.result
  cases hdisposal : v.disposal with
  | none => exact ⟨hservice, hpositive, nofun⟩
  | some disposal =>
    unfold Visit.calls at h
    rw [hdisposal] at h
    exact ⟨hservice, hpositive, Disposal.fits_diagnostic h⟩

/-- The rows a visit writes keep the service and the id. -/
lemma Visit.rowFits_of_mem_writes {v : Visit}
    (hfits : RowFits (v.record.serviceId, v.record.row none)) :
    ∀ write ∈ v.writes, RowFits write := by
  intro write hwrite
  unfold Visit.writes at hwrite
  split at hwrite
  · cases hwrite
  · rw [List.mem_singleton.mp hwrite]
    exact hfits

/-- The record of a visit is one of the rows. -/
lemma Passes.rowFits (h : Passes (j.reservations key) visits)
    (hrows : ∀ s r, j.reservation key s = some r → RowFits (s, r)) {v : Visit} (hv : v ∈ visits) :
    RowFits (v.record.serviceId, v.record.row none) := by
  have hrecord : v.record ∈ (j.reservations key).filter (·.reservationId ≠ none) :=
    h.1 ▸ List.mem_map_of_mem hv
  obtain ⟨row, hrow, heq⟩ := Journal.mem_reservations.mp (List.mem_filter.mp hrecord).1
  have hfits := hrows _ _ hrow
  refine ⟨hfits.1, fun id hid => hfits.2 id ?_⟩
  rw [← heq] at hid
  exact hid

/-- The response of a pass over at most 32 rows with an id can be sent. -/
lemma Passes.sendable (h : Passes (j.reservations key) visits)
    (hcalls : AnsweredWell (visits.flatMap (Visit.calls · request)))
    (hrows : ∀ s r, j.reservation key s = some r → RowFits (s, r))
    (hid : Positive 64 request.requestId)
    (hcount : ((j.reservations key).filter (·.reservationId ≠ none)).length ≤ maxServices) :
    (request.response visits).Sendable where
  requestId := hid
  count := by
    rw [← h.1, List.length_map] at hcount
    rw [ReleaseRequest.response, List.length_map]
    exact hcount
  distinct := by
    have hservice (v : Visit) : v.result.serviceId = v.record.serviceId := by
      unfold Visit.result
      split <;> rfl
    rw [ReleaseRequest.response, List.map_map, Function.comp_def]
    simpa only [hservice] using h.nodup
  results := by
    intro item hitem
    obtain ⟨v, hv, rfl⟩ := List.mem_map.mp hitem
    have hvisit : AnsweredWell (v.calls request) :=
      hcalls.of_subset fun event hevent => List.mem_flatMap.mpr ⟨v, hv, hevent⟩
    exact Visit.sendable (h.2 v hv) hvisit (h.rowFits hrows hv)

end Visits

end QfwSlurm
