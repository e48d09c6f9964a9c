import QfwSlurm.Gateway.Isolation
import QfwSlurm.Gateway.Tasks

/-!
# Reservations that are journalled as gone

A row is written as `released` or `rolled-back` after a call to `adapter.release` for its
reservation id has returned; `replyDiscipline` says so of every task.  `_release_one` has looked at
the status of the reply before it writes `released`, while `_rollback` writes `rolled-back` whatever
the status is.  So the QPM has confirmed every reservation that is journalled as gone exactly as far
as it confirms the calls of the rollbacks.
-/

namespace QfwSlurm

open Interaction

/-! ### Writes and replies -/

/-- The states in which a reservation is gone. -/
def RecordState.isGone : RecordState → Bool
  | .rolledBack | .released => true
  | _ => false

/-- The service and reservation id of an `adapter.release` call that returned a confirming
status. -/
def Event.vouches : Event → Option (String × Option ℤ)
  | ⟨.call (.release binding reservationId _), .ok reply⟩ =>
    if reply.confirms then some (binding.serviceId, reservationId) else none
  | _ => none

/-- The service and reservation id of a row that an event writes as gone. -/
def Event.writesGone : Event → Option (String × Option ℤ)
  | ⟨.transaction (.recordReservation _ record _), .ok _⟩ =>
    if record.state.isGone then some (record.serviceId, record.reservationId) else none
  | _ => none

/-- After the events `past`, every row that is written as gone is one whose release was confirmed
before. -/
def Vouched (past : List Event) : List Event → Prop
  | [] => True
  | event :: events =>
    (∀ pair, event.writesGone = some pair → pair ∈ past.filterMap Event.vouches) ∧
      Vouched (past ++ [event]) events

lemma vouched_append (past events more : List Event) :
    Vouched past (events ++ more) ↔ Vouched past events ∧ Vouched (past ++ events) more := by
  induction events generalizing past with
  | nil => simp [Vouched]
  | cons event events ih => simp [Vouched, ih, and_assoc]

/-- An `adapter.release` call that returned a status that does not confirm it. -/
def Event.objects : Event → Bool
  | ⟨.call (.release _ _ _), .ok reply⟩ => ¬ reply.confirms
  | _ => false

/-- Every release call that returned has a status that confirms it. -/
def RepliesConfirm (events : List Event) : Prop := ∀ event ∈ events, event.objects = false

instance (events : List Event) : Decidable (RepliesConfirm events) :=
  inferInstanceAs (Decidable (∀ event ∈ events, event.objects = false))

lemma RepliesConfirm.of_append {events more : List Event} (h : RepliesConfirm (events ++ more)) :
    RepliesConfirm events :=
  fun event hevent => h event (List.mem_append_left more hevent)

/-! ### The discipline of replies -/

/-- The last `adapter.release` call that returned: its service, reservation id and reply. -/
abbrev LastReply := Option (String × Option ℤ × ReleaseReply)

/-- A row is written as gone when the release of its reservation has just returned; only where
there are rollbacks, it may be so whatever the reply says. -/
def replyDiscipline (rollbacks : Prop) : Discipline Query Answer LastReply where
  allows last
    | .transaction (.recordReservation _ record _) =>
      record.state.isGone = true → ∃ reply,
        last = some (record.serviceId, record.reservationId, reply) ∧
          (reply.confirms ∨ rollbacks)
    | _ => True
  move last
    | .call (.release binding reservationId _), answer =>
      match answer with
      | .ok reply => some (binding.serviceId, reservationId, reply)
      | .error _ => none
    | _, _ => last

section Following

variable {α β : Type} {rollbacks : Prop} {last : LastReply}

/-- The procedure keeps to the discipline and ends as stated. -/
abbrev Heeds (rollbacks : Prop) (Post : Except PyError α → LastReply → Prop) (last : LastReply)
    (x : Gateway α) : Prop :=
  Procedure.Follows (replyDiscipline rollbacks) Post last x

/-- The question writes no row as gone and is not a release call. -/
def Query.Idle : Query → Prop
  | .transaction (.recordReservation _ record _) => record.state.isGone = false
  | .call (.release _ _ _) => False
  | _ => True

lemma Query.Idle.allows {q : Query} (h : q.Idle) : (replyDiscipline rollbacks).allows last q := by
  cases q with
  | call c => trivial
  | transaction t =>
    cases t with
    | recordReservation key record diagnostic =>
      intro hgone
      have hstate : record.state.isGone = false := h
      rw [hstate] at hgone
      cases hgone
    | _ => trivial

lemma Query.Idle.move {q : Query} (h : q.Idle) (answer : Answer q) :
    (replyDiscipline rollbacks).move last q answer = last := by
  cases q with
  | call c => cases c <;> first | rfl | exact h.elim
  | transaction t => cases t <;> rfl

lemma heeds_idle {Post : Except PyError β → LastReply → Prop} {x : Gateway α}
    {f : α → Gateway β} (hx : Procedure.Asks Query.Idle x) (hf : ∀ a, Heeds rollbacks Post last (f a))
    (herror : ∀ e, Post (.error e) last) : Heeds rollbacks Post last (x >>= f) :=
  Procedure.Follows.asks_bind hx (fun _ hq => hq.allows) (fun _ hq answer => hq.move answer) hf
    herror

lemma heeds_of_idle {x : Gateway α} (hx : Procedure.Asks Query.Idle x) :
    Heeds rollbacks (fun _ _ => True) last x :=
  (Procedure.Follows.of_asks hx (fun _ hq => hq.allows) fun _ hq answer => hq.move answer).mono
    fun _ _ _ => trivial

lemma heeds_bind {x : Gateway α} {f : α → Gateway β} (hx : Heeds rollbacks (fun _ _ => True) last x)
    (hf : ∀ a last, Heeds rollbacks (fun _ _ => True) last (f a)) :
    Heeds rollbacks (fun _ _ => True) last (x >>= f) :=
  Procedure.Follows.bind (hx.mono fun _ last _ => ⟨fun a _ => hf a last, fun _ _ => trivial⟩)

lemma heeds_tryCatch {x : Gateway α} {handler : PyError → Gateway α}
    (hx : Heeds rollbacks (fun _ _ => True) last x)
    (hhandler : ∀ e last, Heeds rollbacks (fun _ _ => True) last (handler e)) :
    Heeds rollbacks (fun _ _ => True) last (tryCatch x handler) :=
  Procedure.Follows.tryCatch (hx.mono fun _ last _ =>
    ⟨fun _ _ => trivial, fun e _ => hhandler e last⟩)

end Following

/-! ### The tasks keep to it -/

section Reservations

variable (sha256 : Document → String) {request : ReserveRequest} {last : LastReply}

/-- A rollback writes `rolled-back` after a reply, whatever it says. -/
lemma heeds_rollbackOne (binding : QPMBinding) (result : ServiceResult) (failures : List String) :
    Heeds True (fun _ _ => True) last (rollbackOne sha256 request binding result failures) := by
  have hcall : Heeds True (fun r last => ∀ outcome : RecordState × Option String × List String,
      r = .ok outcome → outcome.1.isGone = true →
        ∃ reply, last = some (binding.serviceId, result.reservationId, reply)) last
      (tryCatch
        (do
          let _ ← adapterRelease binding result.reservationId 1
          return (RecordState.rolledBack, (none : Option String), failures))
        fun error =>
          let diagnostic := boundedDiagnostic error.message
          return (RecordState.rollbackFailed, some diagnostic, failures ++ [diagnostic])) := by
    refine Procedure.Follows.tryCatch (Procedure.Follows.bind ⟨trivial, fun answer => ?_⟩)
    cases answer with
    | ok reply =>
      refine ⟨fun _ _ => ⟨fun outcome houtcome other hother _ => ?_, fun e h => (nomatch h)⟩,
        fun e h => (nomatch h)⟩
      cases houtcome
      cases hother
      exact ⟨reply, rfl⟩
    | error failure =>
      refine ⟨fun _ h => (nomatch h), fun e _ => ⟨fun _ h => (nomatch h), fun e _ => ?_⟩⟩
      intro outcome houtcome hgone
      cases houtcome
      cases hgone
  refine Procedure.Follows.bind (hcall.mono fun r last hr => ⟨fun outcome houtcome => ?_,
    fun _ _ => trivial⟩)
  refine heeds_tryCatch (Procedure.Follows.bind ⟨fun hgone => ?_, fun answer => ?_⟩)
    fun _ _ => trivial
  · obtain ⟨reply, hlast⟩ := hr outcome houtcome hgone
    exact ⟨reply, hlast, .inr trivial⟩
  · exact ⟨fun _ _ => trivial, fun _ _ => trivial⟩

lemma heeds_rollback (accepted : List (QPMBinding × ServiceResult)) :
    Heeds True (fun _ _ => True) last (rollback sha256 request accepted) := by
  have hloop (entries : List (QPMBinding × ServiceResult)) (failures : List String)
      (last : LastReply) :
      Heeds True (fun _ _ => True) last (rollbackLoop sha256 request entries failures) := by
    induction entries generalizing failures last with
    | nil => trivial
    | cons entry entries ih =>
      exact heeds_bind (heeds_rollbackOne sha256 _ _ _) fun failures last => ih failures last
  have hstart : Procedure.Asks Query.Idle (tryCatch
      (do
        transact (.setAllocationState request.key .rollingBack)
        return [])
      fun error => return [error.message] : Gateway (List String)) :=
    .tryCatch (.bind (asks_transact trivial) fun _ => trivial) fun _ => trivial
  refine heeds_idle hstart (fun failures => heeds_bind (hloop _ _ _) fun failures last => ?_)
    fun _ => trivial
  split_ifs <;> trivial

/-- The rows of the reserve loop are written as pending, accepted, delayed or rejected. -/
lemma idle_contact (job : VerifiedJob) (serviceId fingerprint : String) :
    Procedure.Asks Query.Idle (contact request job serviceId fingerprint) := by
  have hreserve (binding : QPMBinding) :
      Procedure.Asks Query.Idle (adapterReserve binding request job) :=
    .bind ⟨trivial, fun _ => trivial⟩ fun _ => trivial
  have hpending (binding : QPMBinding) :
      Procedure.Asks Query.Idle (transact (.recordReservation request.key
        { serviceId := serviceId
          reservationId := none
          qpmRuntimeId := some binding.runtimeId
          qpmGeneration := some binding.generation
          state := .pending
          requestFingerprint := some fingerprint } none)) := by
    refine asks_transact ?_
    rfl
  have hanswered (binding : QPMBinding) (result : ServiceResult) :
      Procedure.Asks Query.Idle (transact (.recordReservation request.key
        { serviceId := serviceId
          reservationId := result.reservationId
          qpmRuntimeId := some binding.runtimeId
          qpmGeneration := some binding.generation
          state := result.decision.recordState
          requestFingerprint := some fingerprint } none)) := by
    refine asks_transact ?_
    cases hdecision : result.decision <;> rfl
  refine .bind ((asks_resolve trivial).adapt _) fun binding => ?_
  refine .bind ((hpending binding).adapt _) fun _ => ?_
  exact .bind ((hreserve binding).adapt _) fun result =>
    .bind ((hanswered binding result).adapt _) fun _ => trivial

lemma heeds_reserveServices (job : VerifiedJob) (serviceIds : List String) (fingerprint : String) :
    Heeds True (fun _ _ => True) last
      (reserveServices sha256 request job serviceIds fingerprint) := by
  have hloop (services : List String) (accepted : List (QPMBinding × ServiceResult))
      (results : List ServiceResult) (last : LastReply) :
      Heeds True (fun _ _ => True) last
        (reserveLoop sha256 request job fingerprint services accepted results) := by
    induction services generalizing accepted results last with
    | nil => trivial
    | cons serviceId rest ih =>
      refine heeds_idle (idle_contact job serviceId fingerprint).lift_run (fun outcome => ?_)
        fun _ => trivial
      cases outcome with
      | error interrupted =>
        exact heeds_bind (heeds_tryCatch (heeds_rollback sha256 _) fun _ _ => trivial)
          fun _ _ => trivial
      | ok entry =>
        dsimp only
        split_ifs
        · exact ih _ _ _
        · exact heeds_bind (heeds_rollback sha256 _) fun _ _ => trivial
  exact hloop _ _ _ _

/-- Journalling an outcome writes no reservation row. -/
lemma outcomeAsks_idle (senderUid : ℤ) : OutcomeAsks request senderUid Query.Idle :=
  ⟨fun _ _ => trivial, fun _ _ => trivial, fun _ _ => trivial⟩

lemma heeds_beginReserve (senderUid : ℤ) (job : VerifiedJob) :
    Heeds True (fun _ _ => True) last (beginReserve sha256 request senderUid job) := by
  refine heeds_idle (asks_transact trivial) (fun plan => ?_) fun _ => trivial
  split_ifs
  · exact heeds_of_idle (asks_reuseAllocation (outcomeAsks_idle senderUid) plan)
  · refine heeds_bind (heeds_tryCatch (heeds_reserveServices sha256 _ _ _) fun error last => ?_)
      fun response last => ?_
    · exact heeds_of_idle (asks_recoverAttempt (outcomeAsks_idle senderUid) plan error)
    · exact heeds_of_idle (.bind (asks_settleExtension (fun _ _ => trivial) plan response)
        fun response => asks_completeAttempt (outcomeAsks_idle senderUid) plan response)

end Reservations

section Releases

variable {request : ReleaseRequest} {rollbacks : Prop} {last : LastReply}

/-- A release call that succeeds has just been confirmed. -/
lemma heeds_releaseCall (record : ReservationRecord) :
    Heeds rollbacks (fun r last => ∀ outcome : ReleaseOutcome × Option String, r = .ok outcome →
      outcome.1.journalState.isGone = true →
        ∃ reply, last = some (record.serviceId, record.reservationId, reply) ∧ reply.confirms) last
      (releaseCall request record) := by
  refine Procedure.Follows.bind (Procedure.Follows.bind ⟨trivial, fun answer => ?_⟩)
  cases answer with
  | error failure =>
    exact ⟨fun _ h => (nomatch h), fun _ _ => ⟨fun _ h => (nomatch h), fun _ _ _ h => (nomatch h)⟩⟩
  | ok incarnation =>
    refine ⟨fun _ hincarnation => ⟨fun binding hbinding => ?_, fun _ h => (nomatch h)⟩,
      fun _ h => (nomatch h)⟩
    cases hincarnation
    cases hbinding
    split_ifs
    · intro outcome houtcome hgone
      cases houtcome
      cases hgone
    · refine Procedure.Follows.bind ⟨trivial, fun answer => ?_⟩
      cases answer with
      | error failure => exact ⟨fun _ h => (nomatch h), fun _ _ _ h => (nomatch h)⟩
      | ok reply =>
        refine ⟨fun raw hraw => ?_, fun _ h => (nomatch h)⟩
        cases hraw
        by_cases hconfirms : reply.confirms
        · rw [if_neg (not_not.mpr hconfirms)]
          intro outcome houtcome hgone
          exact ⟨reply, rfl, hconfirms⟩
        · rw [if_pos hconfirms]
          exact fun _ h => (nomatch h)

/-- A row is written as released after a reply that confirms it. -/
lemma heeds_releaseOne (record : ReservationRecord) :
    Heeds rollbacks (fun _ _ => True) last (releaseOne request record) := by
  unfold releaseOne
  split_ifs
  · trivial
  refine Procedure.Follows.bind (Procedure.Follows.tryCatch ((heeds_releaseCall record).mono ?_))
  intro r last hr
  refine ⟨fun outcome houtcome => ⟨fun other hother => ?_, fun _ _ => trivial⟩,
    fun error _ => ⟨fun other hother => ?_, fun _ _ => trivial⟩⟩
  · cases hother
    refine Procedure.Follows.bind ⟨fun hgone => ?_, fun _ => ⟨fun _ _ => trivial, fun _ _ => trivial⟩⟩
    obtain ⟨reply, hlast, hconfirms⟩ := hr outcome houtcome hgone
    exact ⟨reply, hlast, .inl hconfirms⟩
  · cases hother
    exact Procedure.Follows.bind ⟨fun h => (nomatch h),
      fun _ => ⟨fun _ _ => trivial, fun _ _ => trivial⟩⟩

lemma heeds_releaseAll (records : List ReservationRecord) :
    Heeds rollbacks (fun _ _ => True) last (releaseAll request records) := by
  induction records generalizing last with
  | nil => trivial
  | cons record records ih =>
    unfold releaseAll
    split_ifs
    · exact ih
    · exact heeds_bind (heeds_releaseOne record) fun _ _ => heeds_bind ih fun _ _ => trivial

/-- A release pass and the transaction that ends it. -/
lemma heeds_pass (unresolved : ReservationState → Bool) {α : Type}
    {f : ReleaseResponse → Gateway α} (hf : ∀ response, Procedure.Asks Query.Idle (f response)) :
    Heeds rollbacks (fun _ _ => True) last (do
      let records ← transact (.reservations request.key)
      let results ← releaseAll request records
      let response : ReleaseResponse := ⟨request.requestId, results⟩
      transact (.completeAllocation request.key (releasedState unresolved results)
        (responseToDict (.release response)))
      f response) := by
  refine heeds_idle (asks_transact trivial) (fun records => ?_) fun _ => trivial
  refine heeds_bind (heeds_releaseAll records) fun results last => ?_
  exact heeds_of_idle (.bind (asks_transact trivial) fun _ => hf _)

end Releases

/-- The task is a handler whose attempt may be rolled back. -/
def Task.RollsBack : Task → Prop
  | .handle (.reserve _) _ => True
  | _ => False

/-- Every task keeps to the discipline. -/
theorem Task.heeds (sha256 : Document → String) (task : Task) :
    (task.program sha256).Follows (replyDiscipline task.RollsBack) (fun _ _ => True) none := by
  have hanswer {α : Type} {rollbacks : Prop} {body : Gateway α} (respond : α → Response)
      (fail : PyError → Response) (hbody : Heeds rollbacks (fun _ _ => True) none body) :
      (do return .ok (← answer body respond fail) :
        Program Query Answer (Except PyError Response)).Follows (replyDiscipline rollbacks)
          (fun _ _ => True) none := by
    refine Program.Follows.bind (Program.Follows.bind (Program.Follows.mono ?_ hbody))
    intro r last _
    cases r <;> trivial
  have hverify {α : Type} {rollbacks : Prop} (request : ReserveRequest) (senderUid : ℤ)
      {f : VerifiedJob → Gateway α} (hf : ∀ job, Heeds rollbacks (fun _ _ => True) none (f job)) :
      Heeds rollbacks (fun _ _ => True) none (verifyReserve request senderUid >>= f) := by
    have hasks : Procedure.Asks Query.Idle (verifyReserve request senderUid) :=
      ⟨trivial, fun _ => trivial⟩
    exact heeds_idle hasks hf fun _ => trivial
  cases task with
  | retry request =>
    refine Program.Follows.bind (Program.Follows.mono (fun _ _ _ => trivial)
      (heeds_pass ReservationState.isRetryUnresolved fun _ => trivial))
  | handle request senderUid =>
    cases request with
    | getReservations request =>
      have hlookup : Procedure.Asks Query.Idle (getReservationsTry request senderUid) :=
        .bind ⟨trivial, fun _ => trivial⟩ fun _ => .bind (asks_transact trivial) fun _ => trivial
      exact hanswer _ _ (heeds_of_idle hlookup)
    | evaluate request =>
      refine hanswer _ _ (hverify _ _ fun job => heeds_idle (asks_transact trivial)
        (fun prior => ?_) fun _ => trivial)
      cases prior with
      | some prior => exact heeds_of_idle (asks_replayEvaluate prior)
      | none =>
        have hevaluate : Procedure.Asks Query.Idle
            (evaluateServices request.toReserveRequest job (sorted request.serviceIds)) :=
          asks_evaluateServices (fun _ => trivial) (fun _ => trivial) _
        refine heeds_of_idle (.bind (.tryCatch hevaluate fun error => ?_) fun _ => ?_)
        · exact .bind (asks_transact trivial) fun _ => trivial
        · exact .bind (asks_transact trivial) fun _ => trivial
    | reserve request =>
      refine hanswer _ _ (hverify _ _ fun job => heeds_idle (asks_transact trivial)
        (fun prior => ?_) fun _ => trivial)
      cases prior with
      | some prior => exact heeds_of_idle (asks_replayReserve trivial prior)
      | none => exact heeds_beginReserve sha256 senderUid job
    | release request =>
      refine hanswer _ _ (heeds_idle (asks_transact trivial) (fun prior => ?_) fun _ => trivial)
      cases prior with
      | some prior => exact heeds_of_idle (asks_replayRelease prior)
      | none =>
        have hverified (status : Option AllocationRow) : Procedure.Asks Query.Idle
            (verifyRelease request senderUid (status.map AllocationRow.jobUid)) :=
          ⟨trivial, fun _ => trivial⟩
        have hend (response : ReleaseResponse) : Procedure.Asks Query.Idle (do
            transact (.completeOperation (request.operationKey senderUid)
              (responseToDict (.release response)) .complete)
            return response : Gateway ReleaseResponse) :=
          .bind (asks_transact trivial) fun _ => trivial
        refine heeds_idle (asks_transact trivial) (fun status => ?_) fun _ => trivial
        refine heeds_idle (hverified status) (fun _ => ?_) fun _ => trivial
        exact heeds_pass ReservationState.isUnresolved hend

/-! ### Interleavings -/

/-- The last reply is one of the trace. -/
def LastReply.In (events : List Event) (last : LastReply) : Prop :=
  ∀ s reservationId reply, last = some (s, reservationId, reply) →
    ∃ binding reason, binding.serviceId = s ∧
      (⟨.call (.release binding reservationId reason), .ok reply⟩ : Event) ∈ events

section Standing

variable {events : List Event} {last : LastReply} {rollbacks : Prop} {q : Query}

lemma LastReply.In.move (h : last.In events) (answer : Answer q) :
    ((replyDiscipline rollbacks).move last q answer).In (events ++ [⟨q, answer⟩]) := by
  have hold : last.In (events ++ [⟨q, answer⟩]) := by
    intro s reservationId reply hlast
    obtain ⟨binding, reason, hbinding, hmem⟩ := h s reservationId reply hlast
    exact ⟨binding, reason, hbinding, List.mem_append_left _ hmem⟩
  cases q with
  | transaction t => cases t <;> exact hold
  | call c =>
    cases c with
    | release binding reservationId reason =>
      cases answer with
      | error failure => exact fun _ _ _ h => (nomatch h)
      | ok reply =>
        intro s id other hlast
        cases hlast
        exact ⟨binding, reason, rfl, List.mem_append_right _ (List.mem_singleton_self _)⟩
    | _ => exact hold

/-- A row that is written as gone was confirmed before, if the replies to rollbacks confirm. -/
lemma vouched_of_allows (h : last.In events) (hq : (replyDiscipline rollbacks).allows last q)
    (hconfirm : rollbacks → RepliesConfirm events) (answer : Answer q)
    {pair : String × Option ℤ} (hpair : Event.writesGone ⟨q, answer⟩ = some pair) :
    pair ∈ events.filterMap Event.vouches := by
  cases q with
  | call c => cases hpair
  | transaction t =>
    cases t with
    | recordReservation key record diagnostic =>
      cases answer with
      | error error => cases hpair
      | ok _ =>
        have hwrites : (if record.state.isGone then some (record.serviceId, record.reservationId)
          else none) = some pair := hpair
        split_ifs at hwrites with hgone
        cases hwrites
        obtain ⟨reply, hlast, hreply⟩ := hq hgone
        obtain ⟨binding, reason, hbinding, hmem⟩ := h _ _ _ hlast
        have hconfirms : reply.confirms := by
          rcases hreply with hconfirms | hrollbacks
          · exact hconfirms
          · simpa [Event.objects] using hconfirm hrollbacks _ hmem
        refine List.mem_filterMap.mpr ⟨_, hmem, ?_⟩
        simp [Event.vouches, hconfirms, hbinding]
    | _ => cases hpair

end Standing

/-- What holds of the tasks of a pool as far as the replies to their rollbacks confirm. -/
structure Accounted {ι : Type} (task : ι → Task) (j : Journal) (traces : ι → List Event)
    (standing : ι → LastReply) : Prop where
  last : ∀ i, (standing i).In (traces i)
  vouched : ∀ i, ((task i).RollsBack → RepliesConfirm (traces i)) → Vouched [] (traces i)
  rows : (∀ i, (task i).RollsBack → RepliesConfirm (traces i)) → ∀ key s row,
    j.reservation key s = some row → row.state.isGone = true →
      ∃ i, (s, row.reservationId) ∈ (traces i).filterMap Event.vouches

section Interleavings

variable {ι : Type} [DecidableEq ι] {task : ι → Task}

/-- Every question of a task keeps the account. -/
lemma Accounted.step {j : Journal} {traces : ι → List Event} {standing : ι → LastReply}
    (h : Accounted task j traces standing) {i : ι} {q : Query}
    (hq : (replyDiscipline (task i).RollsBack).allows (standing i) q) (oracle : Oracle)
    (faults : Faults) :
    Accounted task (surroundings oracle faults q ⟨j, traces i⟩).2
      (Function.update traces i
        (traces i ++ [⟨q, (surroundings oracle faults q ⟨j, traces i⟩).1⟩]))
      (Function.update standing i ((replyDiscipline (task i).RollsBack).move (standing i) q
        (surroundings oracle faults q ⟨j, traces i⟩).1)) := by
  generalize hanswer : (surroundings oracle faults q ⟨j, traces i⟩).1 = answer
  -- a longer trace confirms no more replies than its beginning
  have hbegin (k : ι) (hk : (task k).RollsBack → RepliesConfirm
      (Function.update traces i (traces i ++ [⟨q, answer⟩]) k)) :
      (task k).RollsBack → RepliesConfirm (traces k) := by
    intro hrolls
    have hconfirm := hk hrolls
    by_cases hki : k = i
    · subst hki
      rw [Function.update_self] at hconfirm
      exact hconfirm.of_append
    · rw [Function.update_of_ne hki] at hconfirm
      exact hconfirm
  refine ⟨fun k => ?_, fun k hk => ?_, fun hall key s row hrow hgone => ?_⟩
  · by_cases hki : k = i
    · subst hki
      rw [Function.update_self, Function.update_self]
      exact (h.last k).move answer
    · rw [Function.update_of_ne hki, Function.update_of_ne hki]
      exact h.last k
  · have hvouched := h.vouched k (hbegin k hk)
    have hconfirm := hbegin k hk
    by_cases hki : k = i
    · subst hki
      rw [Function.update_self, vouched_append]
      refine ⟨hvouched, fun pair hpair => ?_, trivial⟩
      exact vouched_of_allows (h.last k) hq hconfirm answer hpair
    · rw [Function.update_of_ne hki]
      exact hvouched
  · have hmem (k : ι) (hk : (s, row.reservationId) ∈ (traces k).filterMap Event.vouches) :
        ∃ k, (s, row.reservationId) ∈
          (Function.update traces i (traces i ++ [⟨q, answer⟩]) k).filterMap Event.vouches := by
      refine ⟨k, ?_⟩
      by_cases hki : k = i
      · subst hki
        rw [Function.update_self, List.filterMap_append]
        exact List.mem_append_left _ hk
      · rw [Function.update_of_ne hki]
        exact hk
    have hbefore := h.rows fun k => hbegin k (hall k)
    rcases reservation_surroundings oracle faults q ⟨j, traces i⟩ key s with
      hsame | ⟨record, diagnostic, hevent, hservice, hrecorded⟩
    · rw [hsame] at hrow
      obtain ⟨k, hk⟩ := hbefore key s row hrow hgone
      exact hmem k hk
    · rw [hrecorded] at hrow
      cases hrow
      rw [hanswer] at hevent
      refine hmem i (vouched_of_allows (h.last i) hq (hbegin i (hall i)) answer ?_)
      have hstate : record.state.isGone = true := hgone
      rw [hevent, Event.writesGone, hstate, hservice]
      rfl

variable (sha256 : Document → String) (task) (oracle : ι → Oracle) (faults : ι → Faults)

/-- The account is kept in every interleaving. -/
lemma accounted_sideBySide (schedule : List ι) :
    ∃ standing, Accounted task
      (sideBySide sha256 task oracle faults Journal.empty schedule).state
      (fun i => ((sideBySide sha256 task oracle faults Journal.empty schedule).thread i).trace)
      standing := by
  have hstart : (Pool.start Journal.empty fun i => (task i).program sha256).Traced
      (fun i => replyDiscipline (task i).RollsBack) (fun _ _ _ => True) (Accounted task)
      fun _ => none := by
    refine ⟨fun i => (task i).heeds sha256, fun _ => (fun _ _ _ h => (nomatch h)),
      fun _ _ => trivial, fun _ key s row hrow => ?_⟩
    cases hrow
  obtain ⟨standing, hafter⟩ := Pool.Traced.after
    (E := fun i => surroundings (oracle i) (faults i))
    (fun s traces standing i q h hq => h.step hq (oracle i) (faults i)) hstart schedule
  exact ⟨standing, hafter.inv⟩

/-- Any tasks, interleaved in any order and stopped anywhere, with any failing journal calls.  If
every reply to a release call of a reserve handler has a confirming status, each task writes a row
as `rolled-back` or `released` only after its release of that reservation id was confirmed, and
every such row of the journal was confirmed. -/
theorem gone_only_when_confirmed (schedule : List ι)
    (hconfirm : ∀ i, (task i).RollsBack → RepliesConfirm
      ((sideBySide sha256 task oracle faults Journal.empty schedule).thread i).trace) :
    (∀ i, Vouched []
      ((sideBySide sha256 task oracle faults Journal.empty schedule).thread i).trace) ∧
    ∀ key s row,
      (sideBySide sha256 task oracle faults Journal.empty schedule).state.reservation key s =
        some row → row.state.isGone = true →
      ∃ i, (s, row.reservationId) ∈ (((sideBySide sha256 task oracle faults Journal.empty
        schedule).thread i).trace).filterMap Event.vouches := by
  obtain ⟨standing, h⟩ := accounted_sideBySide task sha256 oracle faults schedule
  exact ⟨fun i => h.vouched i (hconfirm i), h.rows hconfirm⟩

end Interleavings

/-- The QPM of `qpm-a` grants reservation 5, the one of `qpm-b` rejects the job, and a release is
answered with `status`. -/
def halfRejecting (status : String) : Oracle :=
  sampleOracle
    (fun s => if s = "qpm-a" then .ok (sampleGrant 5 sampleId_fits)
      else .ok (sampleRefusal .rejected rejected_ne_accepted))
    fun _ => .ok ⟨status⟩

/-- One reserve handler for both services, run to its end. -/
def sampleRollback (status : String) : Pool Unit Journal Query Answer (Except PyError Response) :=
  sideBySide sampleDigest (fun _ => .handle (.reserve (sampleReserve 1 ["qpm-a", "qpm-b"])) 1000)
    (fun _ => halfRejecting status) (fun _ => noFaults) Journal.empty (List.replicate 16 ())

/-- A rollback that the QPM confirms. -/
theorem gone_only_when_confirmed_released :
    ∃ i, ("qpm-a", some 5) ∈
      ((sampleRollback "Released").thread i).trace.filterMap Event.vouches := by
  have hread : ((sampleRollback "Released").state.reservation sampleKey "qpm-a").map
      (fun row => (row.state, row.reservationId)) = some (.rolledBack, some 5) := by decide
  obtain ⟨row, hrow, hpair⟩ := Option.map_eq_some_iff.mp hread
  have hstate : row.state = .rolledBack := congrArg Prod.fst hpair
  have hid : row.reservationId = some 5 := congrArg Prod.snd hpair
  have h := (gone_only_when_confirmed
    (fun _ : Unit => .handle (.reserve (sampleReserve 1 ["qpm-a", "qpm-b"])) 1000) sampleDigest
    (fun _ => halfRejecting "Released") (fun _ => noFaults) (List.replicate 16 ())
    (fun () _ => by decide)).2 sampleKey "qpm-a" row hrow (by rw [hstate]; rfl)
  rw [hid] at h
  exact h

/-- The QPM answers that it is busy; the row is `rolled-back` all the same, and the request ends
with the rejection. -/
theorem rolled_back_while_busy :
    ((sampleRollback "busy").state.reservation sampleKey "qpm-a").map
        (fun row => (row.state, row.reservationId)) = some (.rolledBack, some 5) ∧
      ((sampleRollback "busy").thread ()).trace.filterMap Event.vouches = [] ∧
      ∃ response, ((sampleRollback "busy").thread ()).left.result =
        some (.ok (.reserve response)) ∧ response.decision = .rejected :=
  ⟨by decide, by decide, _, rfl, rfl⟩

end QfwSlurm
