import QfwSlurm.Gateway.Isolation
import QfwSlurm.Gateway.Tasks

/-!
# The life of an operation

`complete_operation` updates a row whatever its state is, so what a row can go through rests on who
calls it.  The discipline `operationDiscipline` says that a handler completes the operation it has
begun itself, and only once.  Between the two the row is `started`, so no other handler begins it:
at every point of every interleaving an operation has at most one holder, and only the holder
completes it.  Nothing is assumed about locks, and a handler may be stopped at any point.
-/

namespace QfwSlurm

open Interaction

/-! ### The discipline -/

/-- Where a handler stands with its operation. -/
inductive Standing where
  /-- It has not begun it. -/
  | before
  /-- It has begun it and not completed it. -/
  | holding
  /-- It has completed it, or has not come to begin it. -/
  | over
  deriving DecidableEq

lemma over_ne_holding : Standing.over ≠ .holding := by decide

/-- A handler begins the operation `key` with the content `fingerprint`, once, and completes it
once, if it could begin it. -/
def operationDiscipline (key : Option OperationKey) (fingerprint : Option String) :
    Discipline Query Answer Standing where
  allows standing
    | .transaction (.beginOperation k f) =>
      standing = .before ∧ key = some k ∧ fingerprint = some f
    | .transaction (.completeOperation k _ _) => standing = .holding ∧ key = some k
    | _ => True
  move standing
    | .transaction (.beginOperation _ _), answer =>
      match answer with
      | .ok none => .holding
      | _ => .over
    | .transaction (.completeOperation _ _ _), _ => .over
    | _, _ => standing

section Following

variable {key : Option OperationKey} {fingerprint : Option String} {standing : Standing}
  {α β : Type}

/-- The procedure keeps to the discipline. -/
abbrev Keeps (key : Option OperationKey) (fingerprint : Option String) (standing : Standing)
    (x : Gateway α) : Prop :=
  Procedure.Follows (operationDiscipline key fingerprint) (fun _ _ => True) standing x

/-- A part of a handler that has nothing to do with operations. -/
abbrev Neutral (x : Gateway α) : Prop := Within (fun _ => False) (fun _ => True) True x

/-- Such a part leaves the handler where it stands. -/
lemma Neutral.follows {x : Gateway α} (hx : Neutral x) :
    Procedure.Follows (operationDiscipline key fingerprint) (fun _ s => s = standing) standing
      x := by
  refine Procedure.Follows.of_asks hx (fun q hq => ?_) fun q hq answer => ?_
  · cases q with
    | call c => trivial
    | transaction t => cases t <;> trivial
  · cases q with
    | call c => rfl
    | transaction t => cases t <;> first | rfl | exact hq.elim

lemma Neutral.keeps {x : Gateway α} (hx : Neutral x) : Keeps key fingerprint standing x :=
  hx.follows.mono fun _ _ _ => trivial

lemma Neutral.keeps_bind {x : Gateway α} (hx : Neutral x) {f : α → Gateway β}
    (hf : ∀ a, Keeps key fingerprint standing (f a)) :
    Keeps key fingerprint standing (x >>= f) := by
  refine Procedure.Follows.bind (hx.follows.mono fun r s hs => ?_)
  subst hs
  exact ⟨fun a _ => hf a, fun _ _ => trivial⟩

/-- A transaction that has nothing to do with operations. -/
lemma keeps_transact {t : Transaction} {f : t.Result → Gateway β}
    (hf : ∀ a, Keeps key fingerprint standing (f a))
    (ht : t.Within (fun _ => False) fun _ => True) :
    Keeps key fingerprint standing (transact t >>= f) :=
  Neutral.keeps_bind (within_transact ht) hf

/-- Completing the operation is the last thing a handler does with it. -/
lemma keeps_complete {k : OperationKey} (hkey : key = some k) (response : Json)
    (state : OperationState) {f : Unit → Gateway β} (hf : ∀ a, Neutral (f a)) :
    Keeps key fingerprint .holding (transact (.completeOperation k response state) >>= f) := by
  refine Procedure.Follows.bind ⟨⟨rfl, hkey⟩, fun answer => ?_⟩
  exact ⟨fun a _ => (hf a).keeps, fun _ _ => trivial⟩

/-- The procedure keeps to the discipline and raises in the end. -/
abbrev Raises (key : Option OperationKey) (fingerprint : Option String) (standing : Standing)
    (x : Gateway α) : Prop :=
  Procedure.Follows (operationDiscipline key fingerprint) (fun r _ => ∀ a, r ≠ .ok a) standing x

lemma Neutral.raises_bind {x : Gateway α} (hx : Neutral x) {f : α → Gateway β}
    (hf : ∀ a, Raises key fingerprint standing (f a)) :
    Raises key fingerprint standing (x >>= f) := by
  refine Procedure.Follows.bind (hx.follows.mono fun r s hs => ?_)
  subst hs
  exact ⟨fun a _ => hf a, fun _ _ _ h => nomatch h⟩

lemma raises_throw (error : PyError) :
    Raises key fingerprint standing (throw error : Gateway α) := fun _ h => nomatch h

/-- The operation is completed and an error is raised. -/
lemma raises_complete {k : OperationKey} (hkey : key = some k) (response : Json)
    (state : OperationState) (error : PyError) :
    Raises key fingerprint .holding (do
      transact (.completeOperation k response state)
      throw error : Gateway α) := by
  refine Procedure.Follows.bind ⟨⟨rfl, hkey⟩, fun answer => ?_⟩
  exact ⟨fun _ _ => raises_throw error, fun _ _ _ h => nomatch h⟩

/-- A handler begins its operation, and replays its outcome or carries it out. -/
lemma keeps_begin {k : OperationKey} {content : String} (hkey : key = some k)
    (hfingerprint : fingerprint = some content) {f : Option OperationRecord → Gateway β}
    (hreplay : ∀ prior, Neutral (f (some prior)))
    (hattempt : Keeps key fingerprint .holding (f none)) :
    Keeps key fingerprint .before (transact (.beginOperation k content) >>= f) := by
  refine Procedure.Follows.bind ⟨⟨rfl, hkey, hfingerprint⟩, fun answer => ?_⟩
  refine ⟨fun prior hprior => ?_, fun _ _ => trivial⟩
  have hanswer : answer = .ok prior := hprior
  subst hanswer
  cases prior with
  | none => exact hattempt
  | some prior => exact (hreplay prior).keeps

end Following

/-! ### The handlers keep to it -/

section Handlers

variable (sha256 : Document → String) {request : ReserveRequest} {senderUid : ℤ}
  {key : Option OperationKey} {fingerprint : Option String}

/-- A guarded part that has nothing to do with operations; its handler raises again. -/
lemma keeps_guarded {α β : Type} {x : Gateway α} (hx : Neutral x) {handler : PyError → Gateway α}
    (hhandler : ∀ error, Raises key fingerprint .holding (handler error)) {f : α → Gateway β}
    (hf : ∀ a, Keeps key fingerprint .holding (f a)) :
    Keeps key fingerprint .holding (tryCatch x handler >>= f) := by
  refine Procedure.Follows.bind (Procedure.Follows.tryCatch
    (hx.follows.mono fun r standing hstanding => ?_))
  subst hstanding
  refine ⟨fun a _ => ⟨fun a _ => hf a, fun _ _ => trivial⟩, fun error _ => ?_⟩
  refine (hhandler error).mono fun r standing hr => ?_
  exact ⟨fun a h => absurd h (hr a), fun _ _ => trivial⟩

lemma keeps_attemptEvaluate (hkey : key = some (request.operationKey .evaluate senderUid))
    (job : VerifiedJob) :
    Keeps key fingerprint .holding (attemptEvaluate request senderUid job) := by
  refine keeps_guarded (within_evaluateServices _ _ _)
    (fun error => raises_complete hkey _ _ error) fun results => ?_
  refine keeps_complete hkey _ _ fun _ => ?_
  trivial

lemma raises_recoverAttempt (hkey : key = some (request.operationKey .reserve senderUid))
    (plan : AllocationPlan) (error : PyError) :
    Raises key fingerprint .holding (recoverAttempt request senderUid plan error) := by
  have hjournal : Raises key fingerprint .holding (do
      journalFailedAttempt request senderUid plan error
      throw error : Gateway ReserveResponse) := by
    unfold journalFailedAttempt
    split_ifs
    · exact raises_complete hkey _ _ error
    · rw [bind_assoc]
      refine Neutral.raises_bind (within_transact ?_) fun _ => raises_complete hkey _ _ error
      trivial
  have hrestore : Neutral (restorePlan request plan) := within_transact trivial
  unfold recoverAttempt
  split_ifs
  · exact hrestore.raises_bind fun _ => hjournal
  · exact hjournal
  · exact hrestore.raises_bind fun _ => raises_throw error
  · exact raises_throw error

lemma keeps_attemptReserve (hkey : key = some (request.operationKey .reserve senderUid))
    (job : VerifiedJob) (plan : AllocationPlan) :
    Keeps key fingerprint .holding (attemptReserve sha256 request senderUid job plan) := by
  refine keeps_guarded (within_reserveServices sha256 trivial _ _ _)
    (raises_recoverAttempt hkey plan) fun response => ?_
  refine Neutral.keeps_bind (asks_settleExtension (fun _ _ => trivial) _ _) fun response => ?_
  have hcomplete (encoded : Json) (state : OperationState) :
      Keeps key fingerprint .holding (do
        transact (.completeOperation (request.operationKey .reserve senderUid) encoded state)
        return response : Gateway ReserveResponse) := by
    refine keeps_complete hkey _ _ fun _ => ?_
    trivial
  unfold completeAttempt
  dsimp only
  split_ifs
  · refine keeps_transact (fun _ => hcomplete _ _) ?_
    trivial
  · refine keeps_transact (fun _ => hcomplete _ _) ?_
    trivial
  · exact hcomplete _ _
  · exact hcomplete _ _

lemma keeps_beginReserve (hkey : key = some (request.operationKey .reserve senderUid))
    (job : VerifiedJob) :
    Keeps key fingerprint .holding (beginReserve sha256 request senderUid job) := by
  refine keeps_transact (fun plan => ?_) trivial
  split_ifs
  · refine Neutral.keeps_bind (asks_decodeReserve _ _) fun response => ?_
    refine keeps_complete hkey _ _ fun _ => ?_
    trivial
  · exact keeps_attemptReserve sha256 hkey job plan

lemma keeps_attemptRelease {request : ReleaseRequest}
    (hkey : key = some (request.operationKey senderUid)) :
    Keeps key fingerprint .holding (attemptRelease request senderUid) := by
  refine keeps_transact (fun status => ?_) trivial
  have hverify : Neutral (verifyRelease request senderUid (status.map AllocationRow.jobUid)) :=
    ⟨trivial, fun _ => trivial⟩
  refine hverify.keeps_bind fun _ => ?_
  refine keeps_transact (fun records => ?_) trivial
  refine Neutral.keeps_bind (within_releaseAll trivial _) fun results => ?_
  refine keeps_transact (fun _ => ?_) trivial
  refine keeps_complete hkey _ _ fun _ => ?_
  trivial

/-- A handler keeps to the discipline if its body does. -/
lemma Keeps.answer {α : Type} {standing : Standing} {body : Gateway α}
    (h : Keeps key fingerprint standing body) (respond : α → Response) (fail : PyError → Response) :
    (do return .ok (← answer body respond fail) :
      Program Query Answer (Except PyError Response)).Follows
        (operationDiscipline key fingerprint) (fun _ _ => True) standing := by
  refine Program.Follows.bind (Program.Follows.bind (Program.Follows.mono ?_ h))
  rintro (error | value) standing -
  · trivial
  · trivial

/-- Every task keeps to the discipline of its operation. -/
theorem Task.follows (task : Task) :
    (task.program sha256).Follows
      (operationDiscipline task.operationKey (task.document.map sha256)) (fun _ _ => True)
      .before := by
  cases task with
  | retry request =>
    refine Program.Follows.bind (Program.Follows.mono (fun _ _ _ => trivial)
      (Neutral.keeps (within_retryRelease ?_)))
    trivial
  | handle request senderUid =>
    cases request with
    | evaluate request =>
      have hverify : Neutral (verifyReserve request.toReserveRequest senderUid) :=
        ⟨trivial, fun _ => trivial⟩
      refine Keeps.answer (hverify.keeps_bind fun job => ?_) _ _
      refine keeps_begin rfl rfl (fun prior => ?_) ?_
      · exact asks_replayEvaluate prior
      · exact keeps_attemptEvaluate rfl job
    | reserve request =>
      have hverify : Neutral (verifyReserve request senderUid) := ⟨trivial, fun _ => trivial⟩
      refine Keeps.answer (hverify.keeps_bind fun job => ?_) _ _
      refine keeps_begin rfl rfl (fun prior => ?_) ?_
      · exact asks_replayReserve trivial prior
      · exact keeps_beginReserve sha256 rfl job
    | release request =>
      refine Keeps.answer (keeps_begin rfl rfl (fun prior => ?_) ?_) _ _
      · exact asks_replayRelease prior
      · exact keeps_attemptRelease rfl
    | getReservations request =>
      have hlookup : Neutral (getReservationsTry request senderUid) :=
        .bind ⟨trivial, fun _ => trivial⟩ fun job => .bind ⟨trivial, fun _ => trivial⟩ fun _ =>
          trivial
      exact Keeps.answer hlookup.keeps _ _

end Handlers

/-! ### Rows and their holders -/

/-- What one step may do with the row of an operation. -/
inductive Moves : Option OperationRow → Option OperationRow → Prop
  /-- It leaves it alone. -/
  | stays (row : Option OperationRow) : Moves row row
  /-- From absent to `started`. -/
  | begun (fingerprint : String) : Moves none (some ⟨fingerprint, .started, none⟩)
  /-- From `retryable` to `started`. -/
  | resumed (row : OperationRow) (hstate : row.state = .retryable) :
    Moves (some row) (some { row with state := .started, responseJson := none })
  /-- From `started` to `complete` or `retryable`. -/
  | ended (row : OperationRow) (hstate : row.state = .started) (response : Json)
      (state : OperationState) (hended : state ≠ .started) :
    Moves (some row) (some { row with state := state, responseJson := some response })

/-- A complete operation is not moved. -/
lemma Moves.of_complete {row : OperationRow} {row' : Option OperationRow}
    (h : Moves (some row) row') (hstate : row.state = .complete) : row' = some row := by
  cases h with
  | stays => rfl
  | resumed row hretryable => simp [hstate] at hretryable
  | ended row hstarted response state hended => simp [hstate] at hstarted

/-- The content of an operation is not changed. -/
lemma Moves.fingerprint {row : OperationRow} {row' : Option OperationRow}
    (h : Moves (some row) row') : ∃ later, row' = some later ∧ later.fingerprint = row.fingerprint := by
  cases h with
  | stays => exact ⟨row, rfl, rfl⟩
  | resumed row hretryable => exact ⟨_, rfl, rfl⟩
  | ended row hstarted response state hended => exact ⟨_, rfl, rfl⟩

section Holding

variable {ι : Type} (task : ι → Task)

/-- Every operation has at most one holder, and an operation that has one is `started`. -/
structure Holders (j : Journal) (standing : ι → Standing) : Prop where
  started : ∀ i key, standing i = .holding → (task i).operationKey = some key →
    ∃ row, j.operation key = some row ∧ row.state = .started
  unique : ∀ i k key, standing i = .holding → standing k = .holding →
    (task i).operationKey = some key → (task k).operationKey = some key → i = k

variable {task} {j j' : Journal} {standing : ι → Standing}

/-- Nobody holds an operation that is not `started`. -/
lemma Holders.ne_holding (h : Holders task j standing) {key : OperationKey}
    (hrow : ∀ row, j.operation key = some row → row.state ≠ .started) {i : ι}
    (hkey : (task i).operationKey = some key) : standing i ≠ .holding := by
  intro hi
  obtain ⟨row, hsome, hstate⟩ := h.started i key hi hkey
  exact hrow row hsome hstate

variable [DecidableEq ι]

/-- A task gives up its operation, whose row may then change. -/
lemma Holders.drop (h : Holders task j standing) {i : ι} {last : Standing} (hlast : last ≠ .holding)
    (hrows : ∀ key, (standing i = .holding → (task i).operationKey ≠ some key) →
      j'.operation key = j.operation key) :
    Holders task j' (Function.update standing i last) := by
  have hne {k : ι} (hk : Function.update standing i last k = .holding) :
      k ≠ i ∧ standing k = .holding := by
    by_cases hki : k = i
    · subst hki
      rw [Function.update_self] at hk
      exact absurd hk hlast
    · rw [Function.update_of_ne hki] at hk
      exact ⟨hki, hk⟩
  refine ⟨fun k key hk hkey => ?_, fun k l key hk hl hkey hkey' => ?_⟩
  · obtain ⟨hki, hk⟩ := hne hk
    rw [hrows key fun hi heq => hki (h.unique k i key hk hi hkey heq)]
    exact h.started k key hk hkey
  · exact h.unique k l key (hne hk).2 (hne hl).2 hkey hkey'

/-- A task takes an operation that is absent or `retryable`. -/
lemma Holders.take (h : Holders task j standing) {i : ι} {key : OperationKey}
    (hkey : (task i).operationKey = some key)
    (hrow : ∀ row, j.operation key = some row → row.state ≠ .started) {row : OperationRow}
    (hstate : row.state = .started) :
    Holders task (j.putOperation key row) (Function.update standing i .holding) := by
  have hother {k : ι} (hki : k ≠ i) (hk : Function.update standing i .holding k = .holding)
      {key' : OperationKey} (hkey' : (task k).operationKey = some key') :
      standing k = .holding ∧ key' ≠ key := by
    rw [Function.update_of_ne hki] at hk
    refine ⟨hk, ?_⟩
    rintro rfl
    exact h.ne_holding hrow hkey' hk
  refine ⟨fun k key' hk hkey' => ?_, fun k l key' hk hl hkey' hkey'' => ?_⟩
  · by_cases hki : k = i
    · subst hki
      cases hkey.symm.trans hkey'
      exact ⟨row, Journal.operation_putOperation_self _ _ _, hstate⟩
    · obtain ⟨hk, hne⟩ := hother hki hk hkey'
      rw [Journal.operation_putOperation, if_neg hne]
      exact h.started k key' hk hkey'
  · by_cases hki : k = i
    · by_cases hli : l = i
      · rw [hki, hli]
      · subst hki
        cases hkey.symm.trans hkey'
        exact absurd rfl (hother hli hl hkey'').2
    · by_cases hli : l = i
      · subst hli
        cases hkey.symm.trans hkey''
        exact absurd rfl (hother hki hk hkey').2
      · exact h.unique k l key' (hother hki hk hkey').1 (hother hli hl hkey'').1 hkey' hkey''

/-- What an allowed question of a task does to the operations. -/
structure StepFits (sha256 : Document → String) (task : ι → Task) (j j' : Journal) (i : ι)
    (standing : ι → Standing) : Prop where
  moves : ∀ key, Moves (j.operation key) (j'.operation key)
  content : ∀ key row, j.operation key = none → j'.operation key = some row →
    (task i).operationKey = some key ∧ (task i).document.map sha256 = some row.fingerprint
  holders : Holders task j' standing

omit [DecidableEq ι] in
/-- A question that leaves the operations and the standing alone. -/
lemma StepFits.of_eq (sha256 : Document → String) (h : Holders task j standing) (i : ι)
    (hrows : ∀ key, j'.operation key = j.operation key) : StepFits sha256 task j j' i standing := by
  refine ⟨fun key => ?_, fun key row hnone hsome => ?_, fun k key hk hkey => ?_, h.unique⟩
  · rw [hrows key]
    exact .stays _
  · rw [hrows key, hnone] at hsome
    cases hsome
  · rw [hrows key]
    exact h.started k key hk hkey

/-- A question after which the task has given its operation up, without a change of the rows. -/
lemma StepFits.of_drop (sha256 : Document → String) (h : Holders task j standing) (i : ι)
    {last : Standing} (hlast : last ≠ .holding) :
    StepFits sha256 task j j i (Function.update standing i last) := by
  refine ⟨fun key => .stays _, fun key row hnone hsome => ?_, h.drop hlast fun _ _ => rfl⟩
  rw [hnone] at hsome
  cases hsome

/-- Beginning an operation. -/
lemma StepFits.of_begin {sha256 : Document → String} (h : Holders task j standing) {i : ι}
    {key : OperationKey} {fingerprint : String} (hkey : (task i).operationKey = some key)
    (hcontent : (task i).document.map sha256 = some fingerprint) {t : List Event} (oracle : Oracle)
    (faults : Faults) :
    StepFits sha256 task j
      (surroundings oracle faults (.transaction (.beginOperation key fingerprint)) ⟨j, t⟩).2 i
      (Function.update standing i ((operationDiscipline (task i).operationKey
        ((task i).document.map sha256)).move (standing i)
          (.transaction (.beginOperation key fingerprint))
          (surroundings oracle faults (.transaction (.beginOperation key fingerprint))
            ⟨j, t⟩).1)) := by
  simp only [surroundings]
  cases faults t.length (.beginOperation key fingerprint) with
  | some fault => exact .of_drop sha256 h i over_ne_holding
  | none =>
    simp only [Transaction.apply, Journal.beginOperation]
    cases hrow : j.operation key with
    | none =>
      refine ⟨fun key' => ?_, fun key' row hnone hsome => ?_,
        h.take hkey (fun row hsome => ?_) rfl⟩
      · rw [Journal.operation_putOperation]
        split_ifs with heq
        · rw [heq, hrow]
          exact .begun fingerprint
        · exact .stays _
      · rw [Journal.operation_putOperation] at hsome
        split_ifs at hsome with heq
        · cases hsome
          exact ⟨heq ▸ hkey, hcontent⟩
        · rw [hnone] at hsome
          cases hsome
      · rw [hrow] at hsome
        cases hsome
    | some row =>
      by_cases hfingerprint : row.fingerprint = fingerprint
      swap
      · simp only [hfingerprint, ne_eq, not_false_eq_true, if_true]
        exact .of_drop sha256 h i over_ne_holding
      by_cases hstate : row.state = .retryable
      swap
      · simp only [hfingerprint, ne_eq, not_true, if_false, hstate]
        exact .of_drop sha256 h i over_ne_holding
      simp only [hfingerprint, ne_eq, not_true, if_false, hstate, if_true]
      refine ⟨fun key' => ?_, fun key' later hnone hsome => ?_,
        h.take hkey (fun other hsome => ?_) rfl⟩
      · rw [Journal.operation_putOperation]
        split_ifs with heq
        · rw [heq, hrow]
          have hresumed := Moves.resumed row hstate
          rw [hfingerprint] at hresumed
          exact hresumed
        · exact .stays _
      · rw [Journal.operation_putOperation] at hsome
        split_ifs at hsome with heq
        · rw [heq, hrow] at hnone
          cases hnone
        · rw [hnone] at hsome
          cases hsome
      · rw [hrow] at hsome
        cases hsome
        rw [hstate]
        decide

/-- Completing an operation. -/
lemma StepFits.of_complete (sha256 : Document → String) (h : Holders task j standing) {i : ι}
    {key : OperationKey} (hkey : (task i).operationKey = some key) (hi : standing i = .holding)
    (response : Json) (state : OperationState) {t : List Event} (oracle : Oracle)
    (faults : Faults) :
    StepFits sha256 task j
      (surroundings oracle faults (.transaction (.completeOperation key response state)) ⟨j, t⟩).2 i
      (Function.update standing i .over) := by
  simp only [surroundings]
  cases faults t.length (.completeOperation key response state) with
  | some fault => exact .of_drop sha256 h i over_ne_holding
  | none =>
    simp only [Transaction.apply, Journal.completeOperation]
    by_cases hended : state = .started
    · simp only [hended, if_true]
      exact .of_drop sha256 h i over_ne_holding
    obtain ⟨row, hrow, hstarted⟩ := h.started i key hi hkey
    simp only [hended, if_false, hrow]
    refine ⟨fun key' => ?_, fun key' later hnone hsome => ?_,
      h.drop over_ne_holding fun key' hother => ?_⟩
    · rw [Journal.operation_putOperation]
      split_ifs with heq
      · rw [heq, hrow]
        exact .ended row hstarted response state hended
      · exact .stays _
    · rw [Journal.operation_putOperation] at hsome
      split_ifs at hsome with heq
      · rw [heq, hrow] at hnone
        cases hnone
      · rw [hnone] at hsome
        cases hsome
    · rw [Journal.operation_putOperation, if_neg]
      rintro rfl
      exact hother hi hkey

/-- Every question the discipline allows fits the holders. -/
theorem stepFits (sha256 : Document → String) (h : Holders task j standing) {i : ι} {q : Query}
    (hq : (operationDiscipline (task i).operationKey ((task i).document.map sha256)).allows
      (standing i) q) (t : List Event) (oracle : Oracle) (faults : Faults) :
    StepFits sha256 task j (surroundings oracle faults q ⟨j, t⟩).2 i
      (Function.update standing i ((operationDiscipline (task i).operationKey
        ((task i).document.map sha256)).move (standing i) q
          (surroundings oracle faults q ⟨j, t⟩).1)) := by
  -- a question that has nothing to do with operations
  have hneutral (hwithin : q.Within (fun _ => False) (fun _ => True) True)
      (hmove : ∀ answer, (operationDiscipline (task i).operationKey
        ((task i).document.map sha256)).move (standing i) q answer = standing i) :
      StepFits sha256 task j (surroundings oracle faults q ⟨j, t⟩).2 i
        (Function.update standing i ((operationDiscipline (task i).operationKey
          ((task i).document.map sha256)).move (standing i) q
            (surroundings oracle faults q ⟨j, t⟩).1)) := by
    rw [hmove, Function.update_eq_self]
    refine .of_eq sha256 h i fun key => ?_
    exact (confined_surroundings True oracle faults).frame q j t (.operation key) hwithin id
  cases q with
  | call c => exact hneutral (by cases c <;> trivial) fun _ => rfl
  | transaction transaction =>
    cases transaction with
    | beginOperation key fingerprint => exact .of_begin h hq.2.1 hq.2.2 oracle faults
    | completeOperation key response state =>
      exact .of_complete sha256 h hq.2 hq.1 response state oracle faults
    | _ => exact hneutral trivial fun _ => rfl

end Holding

/-! ### Interleavings -/

section Interleavings

variable {ι : Type} [DecidableEq ι] (sha256 : Document → String) (task : ι → Task)
  (oracle : ι → Oracle) (faults : ι → Faults) (j : Journal)

/-- After every schedule every operation has at most one holder. -/
lemma disciplined_sideBySide (schedule : List ι) :
    ∃ standing, (sideBySide sha256 task oracle faults j schedule).Disciplined
      (fun i => operationDiscipline (task i).operationKey ((task i).document.map sha256))
      (fun _ _ _ => True) (Holders task) standing := by
  refine Pool.Disciplined.after
    (fun s standing t i q h hq => (stepFits sha256 h hq t (oracle i) (faults i)).holders)
    ⟨fun i => (task i).follows sha256, ?_, ?_⟩ schedule
  · intro i key hi
    cases hi
  · intro i k key hi
    cases hi

lemma sideBySide_concat (schedule : List ι) (i : ι) :
    sideBySide sha256 task oracle faults j (schedule ++ [i]) =
      (sideBySide sha256 task oracle faults j schedule).step
        (fun i => surroundings (oracle i) (faults i)) i := by
  rw [sideBySide, after_append, after_cons, after_nil]
  rfl

/-- What the next step does to the operations. -/
lemma step_sideBySide (schedule : List ι) (i : ι) :
    (∀ key, Moves ((sideBySide sha256 task oracle faults j schedule).state.operation key)
      ((sideBySide sha256 task oracle faults j (schedule ++ [i])).state.operation key)) ∧
    ∀ key row, (sideBySide sha256 task oracle faults j schedule).state.operation key = none →
      (sideBySide sha256 task oracle faults j (schedule ++ [i])).state.operation key = some row →
      (task i).operationKey = some key ∧ (task i).document.map sha256 = some row.fingerprint := by
  obtain ⟨standing, h⟩ := disciplined_sideBySide sha256 task oracle faults j schedule
  rw [sideBySide_concat]
  rcases h.step_cases (E := fun i => surroundings (oracle i) (faults i)) i with
    ⟨hstate, -, -⟩ | ⟨q, hallows, hstate, -⟩
  · rw [hstate]
    refine ⟨fun key => .stays _, fun key row hnone hsome => ?_⟩
    rw [hnone] at hsome
    cases hsome
  · rw [hstate]
    have hfits := stepFits sha256 h.inv hallows
      ((sideBySide sha256 task oracle faults j schedule).view i).2.trace (oracle i) (faults i)
    exact ⟨hfits.moves, hfits.content⟩

/-- A property of an operation's row that moves keep is kept for good. -/
lemma row_sideBySide (P : OperationRow → Prop) {key : OperationKey}
    (hmoves : ∀ row row', P row → Moves (some row) row' → ∃ later, row' = some later ∧ P later)
    (schedule : List ι) {row : OperationRow}
    (hrow : (sideBySide sha256 task oracle faults j schedule).state.operation key = some row)
    (hP : P row) (more : List ι) :
    ∃ later, (sideBySide sha256 task oracle faults j (schedule ++ more)).state.operation key =
      some later ∧ P later := by
  induction more using List.reverseRecOn with
  | nil =>
    rw [List.append_nil]
    exact ⟨row, hrow, hP⟩
  | append_singleton more i ih =>
    obtain ⟨later, hlater, hP⟩ := ih
    have hmove := (step_sideBySide sha256 task oracle faults j (schedule ++ more) i).1 key
    rw [hlater] at hmove
    rw [← List.append_assoc]
    exact hmoves later _ hP hmove

/-- The content of every row of a run is that of a request of the run. -/
lemma content_sideBySide (schedule : List ι) {key : OperationKey} {row : OperationRow}
    (hrow : (sideBySide sha256 task oracle faults Journal.empty schedule).state.operation key =
      some row) :
    ∃ k ∈ schedule, (task k).operationKey = some key ∧
      (task k).document.map sha256 = some row.fingerprint := by
  induction schedule using List.reverseRecOn generalizing row with
  | nil => cases hrow
  | append_singleton schedule i ih =>
    obtain ⟨hmoves, hcontent⟩ := step_sideBySide sha256 task oracle faults Journal.empty schedule i
    cases hbefore : (sideBySide sha256 task oracle faults Journal.empty schedule).state.operation
        key with
    | none => exact ⟨i, by simp, hcontent key row hbefore hrow⟩
    | some earlier =>
      obtain ⟨k, hk, hkey, hfingerprint⟩ := ih hbefore
      have hmove := hmoves key
      rw [hbefore] at hmove
      obtain ⟨later, hlater, hsame⟩ := hmove.fingerprint
      cases hrow.symm.trans hlater
      exact ⟨k, List.mem_append_left _ hk, hkey, by rw [hsame]; exact hfingerprint⟩

end Interleavings

/-! ### Requests with other content -/

/-- Where a handler stands whose operation may have other content. -/
inductive Refusal where
  /-- It has not come to begin its operation. -/
  | asking
  /-- Its request was not verified. -/
  | unverified (failure : VerifierFailure)
  /-- It was refused. -/
  | refused (error : PyError)
  /-- It has begun its operation, or replays it. -/
  | admitted

/-- Up to `begin_operation` a handler puts a verification at most. -/
def refusalDiscipline (key : OperationKey) (content : String) :
    Discipline Query Answer Refusal where
  allows
    | .admitted, _ => True
    | .asking, .call (.verifyReserve _ _) => True
    | .asking, .transaction (.beginOperation k f) => k = key ∧ f = content
    | _, _ => False
  move
    | .asking, .call (.verifyReserve _ _), answer =>
      match answer with
      | .ok _ => .asking
      | .error failure => .unverified failure
    | .asking, .transaction (.beginOperation _ _), answer =>
      match answer with
      | .ok _ => .admitted
      | .error error => .refused error
    | refusal, _, _ => refusal

section Refusals

variable {key : OperationKey} {content : String}

/-- A body raises what it was refused with. -/
def RaisesRefusal {α : Type} (r : Except PyError α) : Refusal → Prop
  | .asking => False
  | .unverified failure => r = .error failure.error
  | .refused error => r = .error error
  | .admitted => True

/-- After `begin_operation` the body of a handler is free, or ends with the error. -/
lemma refusal_begin {α : Type} (f : Option OperationRecord → Gateway α) :
    Procedure.Follows (refusalDiscipline key content) RaisesRefusal .asking
      (transact (.beginOperation key content) >>= f) := by
  refine Procedure.Follows.bind ⟨⟨rfl, rfl⟩, fun answer => ?_⟩
  refine ⟨fun prior hprior => ?_, fun error herror => ?_⟩
  · have hanswer : answer = .ok prior := hprior
    subst hanswer
    refine Program.Follows.mono ?_ (Program.Follows.of_asks (Program.asks_true _)
      (fun _ _ => trivial) fun _ _ _ => rfl)
    rintro r s rfl
    trivial
  · have hanswer : answer = .error error := herror
    subst hanswer
    rfl

/-- The same after the request was verified. -/
lemma refusal_verify {α : Type} (request : ReserveRequest) (senderUid : ℤ)
    (f : VerifiedJob → Option OperationRecord → Gateway α) :
    Procedure.Follows (refusalDiscipline key content) RaisesRefusal .asking
      (verifyReserve request senderUid >>= fun job =>
        transact (.beginOperation key content) >>= f job) := by
  refine Procedure.Follows.bind ⟨trivial, fun answer => ?_⟩
  cases answer with
  | ok job => exact ⟨fun job _ => refusal_begin (f job), fun _ h => nomatch h⟩
  | error failure =>
    refine ⟨fun _ h => (nomatch h), fun error herror => ?_⟩
    cases herror
    rfl

/-- A handler that was refused with a conflict answers with it. -/
def AnswersRefusal (r : Except PyError Response) : Refusal → Prop
  | .asking => False
  | .unverified _ => True
  | .refused error => error.errorClass = .requestConflict →
    ∃ response, r = .ok (.error response) ∧ response.errorCode = .requestConflict
  | .admitted => True

/-- Before its operation is begun, a task that has one does nothing else. -/
theorem Task.refusal (sha256 : Document → String) {task : Task} {d : Document}
    (hkey : task.operationKey = some key) (hdocument : task.document = some d) :
    (task.program sha256).Follows (refusalDiscipline key (sha256 d)) AnswersRefusal .asking := by
  have hanswer {α : Type} {body : Gateway α} (respond : α → Response) (fail : PyError → Response)
      (hfail : ∀ error, error.errorClass = .requestConflict →
        ∃ response, fail error = .error response ∧ response.errorCode = .requestConflict)
      (hbody : Procedure.Follows (refusalDiscipline key (sha256 d)) RaisesRefusal .asking body) :
      (do return .ok (← answer body respond fail) :
        Program Query Answer (Except PyError Response)).Follows
          (refusalDiscipline key (sha256 d)) AnswersRefusal .asking := by
    refine Program.Follows.bind (Program.Follows.bind (Program.Follows.mono ?_ hbody))
    intro r s hr
    cases s with
    | asking => exact hr.elim
    | unverified failure =>
      cases hr
      trivial
    | refused error =>
      cases hr
      intro hclass
      obtain ⟨response, hresponse, hcode⟩ := hfail error hclass
      exact ⟨response, congrArg Except.ok hresponse, hcode⟩
    | admitted => cases r <;> trivial
  have hoperation (operation : String) (requestId : ℤ) (error : PyError)
      (hclass : error.errorClass = .requestConflict) :
      ∃ response, operationError operation requestId error = .error response ∧
        response.errorCode = .requestConflict := by
    rw [operationError, hclass]
    exact ⟨_, rfl, rfl⟩
  cases task with
  | retry request => cases hkey
  | handle request senderUid =>
    cases request with
    | getReservations request => cases hkey
    | evaluate request =>
      cases hkey
      cases hdocument
      exact hanswer _ _ (hoperation _ _) (refusal_verify _ _ _)
    | reserve request =>
      cases hkey
      cases hdocument
      exact hanswer _ _ (hoperation _ _) (refusal_verify _ _ _)
    | release request =>
      cases hkey
      cases hdocument
      refine hanswer _ _ (fun error hclass => ?_) (refusal_begin _)
      rw [releaseError, hclass]
      exact ⟨_, rfl, rfl⟩

/-- What a refused handler has done: its trace has no adapter call, and the row of its operation has
other content. -/
structure StaysRefused {ι : Type} (task : ι → Task) (faults : ι → Faults) (i : ι) (key : OperationKey)
    (content : String) (pool : Pool ι Journal Query Answer (Except PyError Response))
    (refusal : Refusal) : Prop where
  follows : (pool.thread i).left.Follows (refusalDiscipline key content) AnswersRefusal refusal
  calls : adapterCalls (pool.thread i).trace = []
  row : ∃ row, pool.state.operation key = some row ∧ row.fingerprint ≠ content
  not_admitted : refusal ≠ .admitted
  unverified : ∀ failure, refusal = .unverified failure →
    ∃ request senderUid, ⟨.call (.verifyReserve request senderUid), .error failure⟩ ∈
      (pool.thread i).trace
  refused : ∀ error, refusal = .refused error →
    (∀ n, faults i n (.beginOperation key content) = none) → error.errorClass = .requestConflict

/-- Beginning an operation that has other content. -/
lemma surroundings_begin_other (oracle : Oracle) (faults : Faults) {j : Journal} (t : List Event)
    {row : OperationRow} (hrow : j.operation key = some row) (hne : row.fingerprint ≠ content) :
    ∃ error, surroundings oracle faults (.transaction (.beginOperation key content)) ⟨j, t⟩ =
        (.error error, j) ∧
      ((∀ n, faults n (.beginOperation key content) = none) →
        error.errorClass = .requestConflict) := by
  simp only [surroundings]
  cases hfault : faults t.length (.beginOperation key content) with
  | some fault =>
    refine ⟨fault.val, rfl, fun hnone => ?_⟩
    rw [hnone] at hfault
    cases hfault
  | none =>
    simp only [Transaction.apply, Journal.beginOperation, hrow, hne, ne_eq, not_false_eq_true,
      if_true]
    exact ⟨_, rfl, fun _ => rfl⟩

/-- A step of a refused handler leaves the journal as it is. -/
lemma StaysRefused.step {ι : Type} [DecidableEq ι] {task : ι → Task} {oracle : ι → Oracle}
    {faults : ι → Faults} {i : ι} {pool : Pool ι Journal Query Answer (Except PyError Response)}
    {refusal : Refusal} (h : StaysRefused task faults i key content pool refusal) :
    (pool.step (fun i => surroundings (oracle i) (faults i)) i).state = pool.state ∧
      ∃ refusal', StaysRefused task faults i key content
        (pool.step (fun i => surroundings (oracle i) (faults i)) i) refusal' := by
  obtain ⟨row, hrow, hne⟩ := h.row
  have hfollows : (pool.view i).1.Follows (refusalDiscipline key content) AnswersRefusal refusal :=
    h.follows
  rcases hfollows.advance (E := surroundings (oracle i) (faults i)) with
    hended | ⟨q, hallows, hnext, hworld⟩
  · -- the handler has ended
    have hsame : pool.step (fun i => surroundings (oracle i) (faults i)) i = pool := by
      rw [Pool.step, hended]
      exact congrArg (Pool.mk pool.state) (Function.update_eq_self i pool.thread)
    rw [hsame]
    exact ⟨rfl, refusal, h⟩
  have hthread := pool.thread_step_self (fun i => surroundings (oracle i) (faults i)) i
  have hstate := pool.step_state (fun i => surroundings (oracle i) (faults i)) i
  rw [hworld] at hthread hstate
  have hquiet (event : Event) (hevent : event.isAdapter = false) :
      adapterCalls ((pool.view i).2.trace ++ [event]) = [] := by
    have hbefore : adapterCalls (pool.view i).2.trace = [] := h.calls
    rw [adapterCalls_append, hbefore]
    simp [adapterCalls, hevent]
  cases refusal with
  | admitted => exact absurd rfl h.not_admitted
  | unverified failure => exact hallows.elim
  | refused error => exact hallows.elim
  | asking =>
    cases q with
    | transaction t =>
      cases t with
      | beginOperation k f =>
        obtain ⟨rfl, rfl⟩ := hallows
        obtain ⟨error, hanswer, hclass⟩ := surroundings_begin_other (oracle i) (faults i)
          (pool.thread i).trace hrow hne
        have hview : surroundings (oracle i) (faults i) (.transaction (.beginOperation k f))
            (pool.view i).2 = (.error error, pool.state) := hanswer
        rw [hview] at hnext hthread hstate
        refine ⟨hstate, .refused error, ?_, ?_, ⟨row, ?_, hne⟩, by rintro ⟨⟩, by rintro _ ⟨⟩, ?_⟩
        · rw [hthread]
          exact hnext
        · rw [hthread]
          exact hquiet _ rfl
        · rw [hstate]
          exact hrow
        · intro other hother hnone
          cases hother
          exact hclass hnone
      | _ => exact hallows.elim
    | call c =>
      cases c with
      | verifyReserve request senderUid =>
        refine ⟨hstate, ?_⟩
        have hcalls : adapterCalls ((pool.step (fun i => surroundings (oracle i) (faults i))
            i).thread i).trace = [] := by
          rw [hthread]
          exact hquiet _ rfl
        have hleft : ((pool.step (fun i => surroundings (oracle i) (faults i)) i).thread
            i).left = (Program.advance (surroundings (oracle i) (faults i)) (pool.view i)).1 := by
          rw [hthread]
        rw [← hleft] at hnext
        cases hverdict : oracle i (pool.thread i).trace.length (.verifyReserve request senderUid) with
        | ok job =>
          have hanswer : (surroundings (oracle i) (faults i) (.call (.verifyReserve request
              senderUid)) (pool.view i).2).1 = .ok job := hverdict
          rw [hanswer] at hnext
          exact ⟨.asking, hnext, hcalls, ⟨row, by rw [hstate]; exact hrow, hne⟩, by rintro ⟨⟩,
            by rintro _ ⟨⟩, by rintro _ ⟨⟩⟩
        | error failure =>
          have hanswer : (surroundings (oracle i) (faults i) (.call (.verifyReserve request
              senderUid)) (pool.view i).2).1 = .error failure := hverdict
          rw [hanswer] at hnext hthread
          refine ⟨.unverified failure, hnext, hcalls, ⟨row, by rw [hstate]; exact hrow, hne⟩,
            by rintro ⟨⟩, ?_, by rintro _ ⟨⟩⟩
          intro other hother
          cases hother
          refine ⟨request, senderUid, ?_⟩
          rw [hthread]
          exact List.mem_append_right _ (List.mem_singleton_self _)
      | _ => exact hallows.elim

end Refusals

section Histories

variable {ι : Type} [DecidableEq ι] (sha256 : Document → String) (task : ι → Task)
  (oracle : ι → Oracle) (faults : ι → Faults)

/-- A task that is not in the schedule has not put a question. -/
lemma thread_of_not_mem (j : Journal) {schedule : List ι} {i : ι} (hi : i ∉ schedule) :
    (sideBySide sha256 task oracle faults j schedule).thread i = ⟨(task i).program sha256, []⟩ := by
  induction schedule using List.reverseRecOn with
  | nil => rfl
  | append_singleton schedule k ih =>
    rw [List.mem_append, List.mem_singleton, not_or] at hi
    rw [sideBySide_concat, Pool.thread_step_of_ne _ _ _ _ hi.2]
    exact ih hi.1

/-- A task that comes to an operation with other content stays refused, whatever else runs. -/
lemma refused_sideBySide (j : Journal) {schedule : List ι} {i : ι} (hi : i ∉ schedule)
    {key : OperationKey} {d : Document} {row : OperationRow}
    (hkey : (task i).operationKey = some key) (hdocument : (task i).document = some d)
    (hrow : (sideBySide sha256 task oracle faults j schedule).state.operation key = some row)
    (hne : row.fingerprint ≠ sha256 d) (more : List ι) :
    ∃ refusal, StaysRefused task faults i key (sha256 d)
      (sideBySide sha256 task oracle faults j (schedule ++ more)) refusal := by
  induction more using List.reverseRecOn with
  | nil =>
    rw [List.append_nil]
    have hthread := thread_of_not_mem sha256 task oracle faults j hi
    refine ⟨.asking, ?_, ?_, ⟨row, hrow, hne⟩, nofun, nofun, nofun⟩
    · rw [hthread]
      exact Task.refusal sha256 hkey hdocument
    · rw [hthread]
      rfl
  | append_singleton more k ih =>
    obtain ⟨refusal, h⟩ := ih
    rw [← List.append_assoc]
    by_cases hik : i = k
    · subst hik
      rw [sideBySide_concat]
      exact h.step.2
    · have hthread : (sideBySide sha256 task oracle faults j (schedule ++ more ++ [k])).thread i =
          (sideBySide sha256 task oracle faults j (schedule ++ more)).thread i := by
        rw [sideBySide_concat, Pool.thread_step_of_ne _ _ _ _ hik]
      obtain ⟨later, hlater, hfingerprint⟩ := h.row
      have hmove := (step_sideBySide sha256 task oracle faults j (schedule ++ more) k).1 key
      rw [hlater] at hmove
      obtain ⟨last, hlast, hsame⟩ := hmove.fingerprint
      refine ⟨refusal, ?_, ?_, ⟨last, hlast, by rw [hsame]; exact hfingerprint⟩, h.not_admitted,
        ?_, h.refused⟩
      · rw [hthread]
        exact h.follows
      · rw [hthread]
        exact h.calls
      · rw [hthread]
        exact h.unverified

/-- Any tasks, interleaved in any order and stopped anywhere.  An operation is begun, completed and
taken up again as `Moves` says, so its content and its complete response stay; a row has the content
of a request of the run, and a later request of the same key with other content is answered with a
conflict, unless it is not verified, changes no row and calls no QPM. -/
theorem operations_move_forward
    (hinjective : ∀ i k d d', (task i).document = some d → (task k).document = some d' →
      sha256 d = sha256 d' → d = d')
    (schedule : List ι) :
    (∀ i key,
      Moves ((sideBySide sha256 task oracle faults Journal.empty schedule).state.operation key)
        ((sideBySide sha256 task oracle faults Journal.empty
          (schedule ++ [i])).state.operation key)) ∧
    (∀ key row,
      (sideBySide sha256 task oracle faults Journal.empty schedule).state.operation key = some row →
      (∃ k ∈ schedule, (task k).operationKey = some key ∧
        (task k).document.map sha256 = some row.fingerprint) ∧
      ∀ more,
        (row.state = .complete →
          (sideBySide sha256 task oracle faults Journal.empty
            (schedule ++ more)).state.operation key = some row) ∧
        (∃ later, (sideBySide sha256 task oracle faults Journal.empty
          (schedule ++ more)).state.operation key = some later ∧
            later.fingerprint = row.fingerprint) ∧
        ∀ i k d d', i ∉ schedule → (task i).operationKey = some key →
          (task k).document = some d → row.fingerprint = sha256 d → (task i).document = some d' →
          d ≠ d' →
          (sideBySide sha256 task oracle faults Journal.empty (schedule ++ more ++ [i])).state =
              (sideBySide sha256 task oracle faults Journal.empty (schedule ++ more)).state ∧
            adapterCalls ((sideBySide sha256 task oracle faults Journal.empty
              (schedule ++ more)).thread i).trace = [] ∧
            ∀ result, ((sideBySide sha256 task oracle faults Journal.empty
              (schedule ++ more)).thread i).left.result = some result →
              (∀ n, faults i n (.beginOperation key (sha256 d')) = none) →
              (∃ request senderUid failure,
                ⟨.call (.verifyReserve request senderUid), .error failure⟩ ∈
                  ((sideBySide sha256 task oracle faults Journal.empty
                    (schedule ++ more)).thread i).trace) ∨
              ∃ response, result = .ok (.error response) ∧
                response.errorCode = .requestConflict) := by
  refine ⟨fun i key => (step_sideBySide sha256 task oracle faults Journal.empty schedule i).1 key,
    fun key row hrow => ⟨content_sideBySide sha256 task oracle faults schedule hrow, fun more =>
      ⟨fun hstate => ?_, ?_, fun i k d d' hi hkey hcontent hfingerprint hdocument hother => ?_⟩⟩⟩
  · obtain ⟨later, hlater, hsame⟩ := row_sideBySide sha256 task oracle faults Journal.empty
      (fun later => later = row) (by
        rintro later row' rfl hmove
        exact ⟨later, hmove.of_complete hstate, rfl⟩) schedule hrow rfl more
    rw [hlater, hsame]
  · exact row_sideBySide sha256 task oracle faults Journal.empty
      (fun later => later.fingerprint = row.fingerprint) (by
        rintro earlier row' hsame hmove
        obtain ⟨later, hlater, hkept⟩ := hmove.fingerprint
        exact ⟨later, hlater, hkept.trans hsame⟩) schedule hrow rfl more
  · have hne : row.fingerprint ≠ sha256 d' := fun heq =>
      hother (hinjective k i d d' hcontent hdocument (hfingerprint.symm.trans heq))
    obtain ⟨refusal, h⟩ := refused_sideBySide sha256 task oracle faults Journal.empty hi hkey
      hdocument hrow hne more
    refine ⟨?_, h.calls, fun result hresult hfaults => ?_⟩
    · rw [sideBySide_concat]
      exact h.step.1
    · have hends := h.follows
      rw [Program.result_eq_some.mp hresult] at hends
      cases refusal with
      | asking => exact hends.elim
      | unverified failure =>
        obtain ⟨request, senderUid, hmem⟩ := h.unverified failure rfl
        exact .inl ⟨request, senderUid, failure, hmem⟩
      | refused error => exact .inr (hends (h.refused error rfl hfaults))
      | admitted => exact absurd rfl h.not_admitted

end Histories

/-- Two reserve requests with one id and different services. -/
def sampleRivals : Bool → Task
  | true => .handle (.reserve (sampleReserve 1 ["qpm-a"])) 1000
  | false => .handle (.reserve (sampleReserve 1 ["qpm-b"])) 1000

/-- The second one is refused while the first is still at work. -/
theorem operations_move_forward_rivals :
    adapterCalls ((sideBySide sampleDigest sampleRivals (fun _ => obliging) (fun _ => noFaults)
      Journal.empty ([true, true] ++ [false, true, false])).thread false).trace = [] := by
  have h := (operations_move_forward sampleDigest sampleRivals (fun _ => obliging)
    (fun _ => noFaults) (by
      intro i k d d' hd hd'
      cases i <;> cases k <;> cases hd <;> cases hd' <;> decide) [true, true]).2
    ((sampleReserve 1 ["qpm-a"]).operationKey .reserve 1000) _ rfl
  exact ((h.2 [false, true, false]).2.2 false true _ _ (by decide) rfl rfl rfl rfl (by decide)).2.1

end QfwSlurm
