import QfwSlurm.Gateway.Service

/-!
# What the handlers may touch

`Within K L V` are the questions about operations in `K` and allocations in `L`; calls to the Slurm
verifier belong to it when `V` holds.  For every part of every handler this module says which such
set its questions lie in, whatever it is answered.  That a handler leaves other rows alone, and does
not come back to the verifier, are consequences.
-/

namespace QfwSlurm

open Interaction

/-- The transaction is about an operation in `K` or an allocation in `L`. -/
def Transaction.Within (K : OperationKey → Prop) (L : AllocationKey → Prop) : Transaction → Prop
  | .beginOperation k _ => K k
  | .completeOperation k _ _ => K k
  | .beginAllocation key _ _ _ _ _ => L key
  | .acceptedAllocation key _ _ _ => L key
  | .recordReservation key _ _ => L key
  | .restoreAcceptedAllocation key _ _ => L key
  | .completeAllocation key _ _ => L key
  | .setAllocationState key _ => L key
  | .reservations key => L key
  | .reservationContext key _ _ => L key
  | .allocationStatus key => L key

/-- The call asks for a reservation of an allocation in `L` at most; if it goes to the verifier, `V`
holds. -/
def Call.Within (L : AllocationKey → Prop) (V : Prop) : Call → Prop
  | .verifyReserve _ _ | .verifyRelease _ _ _ | .verifyLookup _ _ => V
  | .reserve _ request _ => L request.key
  | _ => True

/-- The question is about operations in `K` and allocations in `L`, or a call within `L` and `V`. -/
def Query.Within (K : OperationKey → Prop) (L : AllocationKey → Prop) (V : Prop) : Query → Prop
  | .transaction t => t.Within K L
  | .call c => c.Within L V

/-- The procedure's questions lie within `K`, `L` and `V`. -/
abbrev Within {ε α : Type} (K : OperationKey → Prop) (L : AllocationKey → Prop) (V : Prop)
    (x : Procedure Query Answer ε α) : Prop :=
  Procedure.Asks (Query.Within K L V) x

/-! ### What an attempt and a release pass ask

The loops at the QPMs put questions of a few kinds.  The rules are stated for any property of
questions that these kinds have. -/

/-- The questions of a reserve request's attempt at the QPMs have the property. -/
structure AttemptAsks (request : ReserveRequest) (P : Query → Prop) : Prop where
  resolve : ∀ serviceId, P (.call (.resolve serviceId))
  reserve : ∀ binding job, P (.call (.reserve binding request job))
  release : ∀ binding reservationId, P (.call (.release binding reservationId 1))
  record : ∀ record diagnostic,
    P (.transaction (.recordReservation request.key record diagnostic))
  rollingBack : P (.transaction (.setAllocationState request.key .rollingBack))

/-- The questions of a release request's pass over the rows have the property. -/
structure PassAsks (request : ReleaseRequest) (P : Query → Prop) : Prop where
  resolve : ∀ serviceId, P (.call (.resolve serviceId))
  release : ∀ binding reservationId, P (.call (.release binding reservationId request.reason))
  record : ∀ (record : ReservationRecord) (outcome : ReleaseOutcome) diagnostic,
    P (.transaction (.recordReservation request.key { record with state := outcome.journalState }
      diagnostic))

/-- The transactions that journal the outcome of a reserve request have the property. -/
structure OutcomeAsks (request : ReserveRequest) (senderUid : ℤ) (P : Query → Prop) : Prop where
  restore : ∀ serviceIds response,
    P (.transaction (.restoreAcceptedAllocation request.key serviceIds response))
  completeAllocation : ∀ state response,
    P (.transaction (.completeAllocation request.key state response))
  completeOperation : ∀ response state,
    P (.transaction (.completeOperation (request.operationKey .reserve senderUid) response state))

section Loops

variable {P : Query → Prop}

lemma asks_transact {t : Transaction} (h : P (.transaction t)) : Procedure.Asks P (transact t) :=
  ⟨h, fun _ => trivial⟩

lemma asks_resolve {serviceId : String} (h : P (.call (.resolve serviceId))) :
    Procedure.Asks P (resolve serviceId) :=
  .bind ⟨h, fun _ => trivial⟩ fun _ => trivial

lemma asks_decodeStored (stored : Option Json) : Procedure.Asks P (decodeStored stored) := by
  cases stored <;> trivial

lemma asks_decodeReserve (stored : Option Json) (wrongType : String) :
    Procedure.Asks P (decodeReserve stored wrongType) := by
  refine .bind (asks_decodeStored stored) fun response => ?_
  cases response.asReserve <;> trivial

section Attempts

variable (sha256 : Document → String) {request : ReserveRequest} (h : AttemptAsks request P)
include h

lemma asks_rollback (accepted : List (QPMBinding × ServiceResult)) :
    Procedure.Asks P (rollback sha256 request accepted) := by
  have hloop (entries : List (QPMBinding × ServiceResult)) (failures : List String) :
      Procedure.Asks P (rollbackLoop sha256 request entries failures) := by
    induction entries generalizing failures with
    | nil => trivial
    | cons entry entries ih =>
      refine .bind ?_ fun failures => ih failures
      exact .bind (.tryCatch (.bind ⟨h.release _ _, fun _ => trivial⟩ fun _ => trivial)
        fun _ => trivial) fun _ =>
          .tryCatch (.bind (asks_transact (h.record _ _)) fun _ => trivial) fun _ => trivial
  refine .bind (.tryCatch (.bind (asks_transact h.rollingBack) fun _ => trivial) fun _ => trivial)
    fun failures => .bind (hloop _ _) fun failures => ?_
  split_ifs <;> trivial

lemma asks_contact (job : VerifiedJob) (serviceId fingerprint : String) :
    Procedure.Asks P (contact request job serviceId fingerprint) := by
  have hrecord (record : ReservationRecord) :
      Procedure.Asks P (transact (.recordReservation request.key record none)) :=
    asks_transact (h.record _ _)
  have hreserve (binding : QPMBinding) : Procedure.Asks P (adapterReserve binding request job) :=
    .bind ⟨h.reserve _ _, fun _ => trivial⟩ fun _ => trivial
  exact .bind ((asks_resolve (h.resolve _)).adapt _) fun _ => .bind ((hrecord _).adapt _)
    fun _ => .bind ((hreserve _).adapt _) fun _ => .bind ((hrecord _).adapt _) fun _ => trivial

lemma asks_reserveServices (job : VerifiedJob) (serviceIds : List String) (fingerprint : String) :
    Procedure.Asks P (reserveServices sha256 request job serviceIds fingerprint) := by
  have hloop (services : List String) (accepted : List (QPMBinding × ServiceResult))
      (results : List ServiceResult) :
      Procedure.Asks P (reserveLoop sha256 request job fingerprint services accepted results) := by
    induction services generalizing accepted results with
    | nil => trivial
    | cons serviceId rest ih =>
      refine .bind (asks_contact h job serviceId fingerprint).lift_run fun outcome => ?_
      cases outcome with
      | error interrupted =>
        exact .bind (.tryCatch (asks_rollback sha256 h _) fun _ => trivial) fun _ => trivial
      | ok entry =>
        dsimp only
        split_ifs
        · exact ih _ _
        · exact .bind (asks_rollback sha256 h _) fun _ => trivial
  exact hloop _ _ _

end Attempts

section Outcomes

variable {request : ReserveRequest} {senderUid : ℤ} (h : OutcomeAsks request senderUid P)
include h

lemma asks_recoverAttempt (plan : AllocationPlan) (error : PyError) :
    Procedure.Asks P (recoverAttempt request senderUid plan error) := by
  have hrestore : Procedure.Asks P (restorePlan request plan) := asks_transact (h.restore _ _)
  have hjournal : Procedure.Asks P (journalFailedAttempt request senderUid plan error) := by
    unfold journalFailedAttempt
    split_ifs
    · exact asks_transact (h.completeOperation _ _)
    · exact .bind (asks_transact (h.completeAllocation _ _)) fun _ =>
        asks_transact (h.completeOperation _ _)
  unfold recoverAttempt
  split_ifs
  · exact .bind hrestore fun _ => .bind hjournal fun _ => trivial
  · exact .bind hjournal fun _ => trivial
  · exact .bind hrestore fun _ => trivial
  · trivial

lemma asks_completeAttempt (plan : AllocationPlan) (response : ReserveResponse) :
    Procedure.Asks P (completeAttempt request senderUid plan response) := by
  have hlast (encoded : Json) (state : OperationState) : Procedure.Asks P (do
      transact (.completeOperation (request.operationKey .reserve senderUid) encoded state)
      return response : Gateway ReserveResponse) :=
    .bind (asks_transact (h.completeOperation _ _)) fun _ => trivial
  unfold completeAttempt
  dsimp only
  split_ifs
  · exact .bind (asks_transact (h.completeAllocation _ _)) fun _ => hlast _ _
  · exact .bind (asks_transact (h.completeAllocation _ _)) fun _ => hlast _ _
  · exact hlast _ _
  · exact hlast _ _

lemma asks_reuseAllocation (plan : AllocationPlan) :
    Procedure.Asks P (reuseAllocation request senderUid plan) :=
  .bind (asks_decodeReserve _ _) fun _ =>
    .bind (asks_transact (h.completeOperation _ _)) fun _ => trivial

end Outcomes

lemma asks_settleExtension {request : ReserveRequest}
    (h : ∀ serviceIds response,
      P (.transaction (.restoreAcceptedAllocation request.key serviceIds response)))
    (plan : AllocationPlan) (response : ReserveResponse) :
    Procedure.Asks P (settleExtension request plan response) := by
  unfold settleExtension
  split_ifs
  · exact .bind (asks_decodeReserve _ _) fun _ => trivial
  · exact .bind (asks_transact (h _ _)) fun _ => trivial
  · trivial

lemma asks_evaluateServices {request : ReserveRequest} {job : VerifiedJob}
    (hresolve : ∀ serviceId, P (.call (.resolve serviceId)))
    (hevaluate : ∀ binding, P (.call (.evaluate binding request job))) (serviceIds : List String) :
    Procedure.Asks P (evaluateServices request job serviceIds) := by
  induction serviceIds with
  | nil => trivial
  | cons serviceId rest ih =>
    refine .bind (asks_resolve (hresolve _)) fun binding =>
      .bind (.bind ⟨hevaluate _, fun _ => trivial⟩ fun _ => trivial) fun result => ?_
    split_ifs
    · exact .bind trivial fun _ => .bind ih fun _ => trivial
    · exact .bind ih fun _ => trivial

lemma asks_replayEvaluate (prior : OperationRecord) : Procedure.Asks P (replayEvaluate prior) := by
  unfold replayEvaluate
  split_ifs
  on_goal 1 => refine .bind trivial fun _ => ?_
  all_goals
    refine .bind (asks_decodeStored _) fun response => ?_
    cases response <;> trivial

lemma asks_replayRelease (prior : OperationRecord) : Procedure.Asks P (replayRelease prior) := by
  unfold replayRelease
  split_ifs
  on_goal 1 => refine .bind trivial fun _ => ?_
  all_goals
    refine .bind (asks_decodeStored _) fun response => ?_
    cases response <;> trivial

lemma asks_replayReserve {request : ReserveRequest}
    (h : P (.transaction (.acceptedAllocation request.key request.jobUid request.jobGid
      request.serviceIds))) (prior : OperationRecord) :
    Procedure.Asks P (replayReserve request prior) := by
  unfold replayReserve
  split_ifs
  on_goal 1 => refine .bind trivial fun _ => ?_
  all_goals
    refine .bind (asks_decodeReserve _ _) fun response => ?_
    split_ifs
    · refine .bind (asks_transact h) fun current => ?_
      cases current with
      | some current => exact .bind (asks_decodeReserve _ _) fun _ => trivial
      | none => trivial
    · trivial

lemma asks_releaseAll {request : ReleaseRequest} (h : PassAsks request P)
    (records : List ReservationRecord) : Procedure.Asks P (releaseAll request records) := by
  have hcall (record : ReservationRecord) : Procedure.Asks P (releaseCall request record) := by
    refine .bind (asks_resolve (h.resolve _)) fun binding => ?_
    split_ifs
    · trivial
    · refine .bind ⟨h.release _ _, fun _ => trivial⟩ fun raw => ?_
      split_ifs <;> trivial
  have hone (record : ReservationRecord) : Procedure.Asks P (releaseOne request record) := by
    unfold releaseOne
    split_ifs
    · trivial
    · exact .bind (.tryCatch (hcall record) fun _ => trivial) fun _ =>
        .bind (asks_transact (h.record _ _ _)) fun _ => trivial
  induction records with
  | nil => trivial
  | cons record records ih =>
    unfold releaseAll
    split_ifs
    · exact ih
    · exact .bind (hone record) fun _ => .bind ih fun _ => trivial

end Loops

section Parts

variable {K : OperationKey → Prop} {L : AllocationKey → Prop} {V : Prop}

lemma within_transact {t : Transaction} (h : t.Within K L) : Within K L V (transact t) :=
  ⟨h, fun _ => trivial⟩

/-! ### Evaluation and lookup -/

section Evaluation

variable (sha256 : Document → String) {request : ReserveRequest} {senderUid : ℤ}
  (hK : K (request.operationKey .evaluate senderUid))

lemma within_evaluateServices (request : ReserveRequest) (job : VerifiedJob)
    (serviceIds : List String) : Within K L V (evaluateServices request job serviceIds) :=
  asks_evaluateServices (fun _ => trivial) (fun _ => trivial) serviceIds

include hK in
lemma within_attemptEvaluate (job : VerifiedJob) :
    Within K L V (attemptEvaluate request senderUid job) :=
  .bind (.tryCatch (within_evaluateServices _ _ _) fun _ =>
    .bind (within_transact hK) fun _ => trivial) fun _ =>
      .bind (within_transact hK) fun _ => trivial

include hK in
/-- What `_evaluate` does once the request is verified. -/
lemma within_evaluate (job : VerifiedJob) :
    Within K L V (do
      match ← transact (.beginOperation (request.operationKey .evaluate senderUid)
          (sha256 (.request request))) with
      | some prior => replayEvaluate prior
      | none => attemptEvaluate request senderUid job) := by
  refine .bind (within_transact hK) fun prior => ?_
  cases prior with
  | some prior => exact asks_replayEvaluate prior
  | none => exact within_attemptEvaluate hK job

end Evaluation

/-! ### Reservation -/

section Reservation

variable (sha256 : Document → String) {request : ReserveRequest} {senderUid : ℤ}
  (hK : K (request.operationKey .reserve senderUid)) (hL : L request.key)

include hL in
lemma within_attempt : AttemptAsks request (Query.Within K L V) :=
  ⟨fun _ => trivial, fun _ _ => hL, fun _ _ => trivial, fun _ _ => hL, hL⟩

include hL in
lemma within_reserveServices (job : VerifiedJob) (serviceIds : List String)
    (fingerprint : String) :
    Within K L V (reserveServices sha256 request job serviceIds fingerprint) :=
  asks_reserveServices sha256 (within_attempt hL) job serviceIds fingerprint

include hK hL in
lemma within_outcome : OutcomeAsks request senderUid (Query.Within K L V) :=
  ⟨fun _ _ => hL, fun _ _ => hL, fun _ _ => hK⟩

include hK hL in
lemma within_attemptReserve (job : VerifiedJob) (plan : AllocationPlan) :
    Within K L V (attemptReserve sha256 request senderUid job plan) :=
  .bind (.tryCatch (within_reserveServices sha256 hL _ _ _)
    fun _ => asks_recoverAttempt (within_outcome hK hL) _ _) fun _ =>
      .bind (asks_settleExtension (fun _ _ => hL) _ _) fun _ =>
        asks_completeAttempt (within_outcome hK hL) _ _

include hK hL in
lemma within_beginReserve (job : VerifiedJob) :
    Within K L V (beginReserve sha256 request senderUid job) := by
  refine .bind (within_transact hL) fun plan => ?_
  split_ifs
  · exact asks_reuseAllocation (within_outcome hK hL) plan
  · exact within_attemptReserve sha256 hK hL _ _

include hK hL in
/-- What `_reserve` does once the request is verified. -/
lemma within_reserve (job : VerifiedJob) :
    Within K L V (do
      match ← transact (.beginOperation (request.operationKey .reserve senderUid)
          (sha256 (.request request))) with
      | some prior => replayReserve request prior
      | none => beginReserve sha256 request senderUid job) := by
  refine .bind (within_transact hK) fun prior => ?_
  cases prior with
  | some prior => exact asks_replayReserve hL prior
  | none => exact within_beginReserve sha256 hK hL job

end Reservation

/-! ### Release -/

section Release

variable (sha256 : Document → String) {request : ReleaseRequest} {senderUid : ℤ}
  (hK : K (request.operationKey senderUid)) (hL : L request.key)

include hL in
lemma within_releaseAll (records : List ReservationRecord) :
    Within K L V (releaseAll request records) :=
  asks_releaseAll ⟨fun _ => trivial, fun _ _ => trivial, fun _ _ _ => hL⟩ records

include hK hL in
/-- What `_release` does once the request is verified. -/
lemma within_releasePass :
    Within K L V (do
      let records ← transact (.reservations request.key)
      let results ← releaseAll request records
      let response : ReleaseResponse := ⟨request.requestId, results⟩
      let encoded := responseToDict (.release response)
      transact (.completeAllocation request.key
        (releasedState ReservationState.isUnresolved results) encoded)
      transact (.completeOperation (request.operationKey senderUid) encoded .complete)
      return response : Gateway ReleaseResponse) :=
  .bind (within_transact hL) fun _ => .bind (within_releaseAll hL _) fun _ =>
    .bind (within_transact hL) fun _ => .bind (within_transact hK) fun _ => trivial

include hL in
lemma within_retryRelease : Within K L V (retryRelease request) :=
  .bind (within_transact hL) fun _ => .bind (within_releaseAll hL _) fun _ =>
    .bind (within_transact hL) fun _ => trivial

end Release

end Parts

/-! ### The handlers -/

section Handlers

variable {K : OperationKey → Prop} {L : AllocationKey → Prop} (sha256 : Document → String)
  (senderUid : ℤ)

lemma within_evaluateTry (request : ReserveRequest)
    (hK : K (request.operationKey .evaluate senderUid)) :
    Within K L True (evaluateTry sha256 request senderUid) :=
  .bind ⟨trivial, fun _ => trivial⟩ fun job => within_evaluate sha256 hK job

lemma within_reserveTry (request : ReserveRequest)
    (hK : K (request.operationKey .reserve senderUid)) (hL : L request.key) :
    Within K L True (reserveTry sha256 request senderUid) :=
  .bind ⟨trivial, fun _ => trivial⟩ fun job => within_reserve sha256 hK hL job

lemma within_releaseTry (request : ReleaseRequest) (hK : K (request.operationKey senderUid))
    (hL : L request.key) : Within K L True (releaseTry sha256 request senderUid) := by
  refine .bind (within_transact hK) fun prior => ?_
  cases prior with
  | some prior => exact asks_replayRelease prior
  | none =>
    exact .bind (within_transact hL) fun _ => .bind ⟨trivial, fun _ => trivial⟩ fun _ =>
      within_releasePass hK hL

/-- The questions of a handler are those of its body. -/
lemma asks_answer {α : Type} {P : Query → Prop} {body : Gateway α} (h : Procedure.Asks P body)
    (respond : α → Response) (fail : PyError → Response) :
    (answer body respond fail).Asks P := by
  refine Program.Asks.bind h fun result => ?_
  cases result <;> trivial

end Handlers

end QfwSlurm
