import QfwSlurm.Interaction.Interleaving
import QfwSlurm.Gateway.Footprint
import QfwSlurm.Gateway.Run

/-!
# Handlers of different allocations

The journal seen as a family of cells, one for each row a table may have.  A transaction about the
operations in `K` and the allocations in `L` reads and writes the cells of these alone, so handlers
of different allocations with different operation keys keep apart, and in every interleaving each
of them does what it does when they run one after the other.
-/

namespace QfwSlurm

open Interaction

/-! ### Cells -/

/-- A place for a row in one of the three tables. -/
inductive Cell where
  | operation (key : OperationKey)
  | allocation (key : AllocationKey)
  | reservation (key : AllocationKey) (serviceId : String)

/-- What a cell holds. -/
@[reducible] def Cell.Content : Cell → Type
  | .operation _ => Option OperationRow
  | .allocation _ => Option AllocationRow
  | .reservation _ _ => Option ReservationRow

/-- The content of a cell. -/
def Journal.cell (j : Journal) : (c : Cell) → c.Content
  | .operation key => j.operation key
  | .allocation key => j.allocation key
  | .reservation key serviceId => j.reservation key serviceId

/-- The cell belongs to an operation in `K` or an allocation in `L`. -/
def Cell.Within (K : OperationKey → Prop) (L : AllocationKey → Prop) : Cell → Prop
  | .operation key => K key
  | .allocation key => L key
  | .reservation key _ => L key

/-- The journals agree on the rows of the operations in `K` and the allocations in `L`. -/
abbrev Agree (K : OperationKey → Prop) (L : AllocationKey → Prop) (j j' : Journal) : Prop :=
  AgreeOn Journal.cell (Cell.Within K L) j j'

section Agreement

variable {K : OperationKey → Prop} {L : AllocationKey → Prop} {j j' : Journal}

lemma Agree.operation (h : Agree K L j j') {key : OperationKey} (hkey : K key) :
    j.operation key = j'.operation key := h (.operation key) hkey

lemma Agree.allocation (h : Agree K L j j') {key : AllocationKey} (hkey : L key) :
    j.allocation key = j'.allocation key := h (.allocation key) hkey

lemma Agree.reservation (h : Agree K L j j') {key : AllocationKey} (hkey : L key) (s : String) :
    j.reservation key s = j'.reservation key s := h (.reservation key s) hkey

lemma Agree.putOperation (h : Agree K L j j') (key : OperationKey) (row : OperationRow) :
    Agree K L (j.putOperation key row) (j'.putOperation key row) := by
  intro c hc
  cases c with
  | operation key' =>
    have hrow := h.operation hc
    simp only [Journal.cell, Journal.operation_putOperation, hrow]
  | allocation key' => exact h.allocation hc
  | reservation key' s => exact h.reservation hc s

lemma Agree.putAllocation (h : Agree K L j j') (key : AllocationKey) (row : AllocationRow) :
    Agree K L (j.putAllocation key row) (j'.putAllocation key row) := by
  intro c hc
  cases c with
  | operation key' => exact h.operation hc
  | allocation key' =>
    have hrow := h.allocation hc
    simp only [Journal.cell, Journal.allocation_putAllocation, hrow]
  | reservation key' s => exact h.reservation hc s

lemma Agree.putReservation (h : Agree K L j j') (key : AllocationKey) (s : String)
    (row : ReservationRow) : Agree K L (j.putReservation key s row) (j'.putReservation key s row) := by
  intro c hc
  cases c with
  | operation key' => exact h.operation hc
  | allocation key' => exact h.allocation hc
  | reservation key' s' =>
    have hrow := h.reservation hc s'
    simp only [Journal.cell, Journal.reservation_putReservation, hrow]

/-- The rows of an allocation in `L` are listed alike. -/
lemma Agree.reservations (h : Agree K L j j') {key : AllocationKey} (hkey : L key) :
    j.reservations key = j'.reservations key :=
  reservations_congr fun s => h.reservation hkey s

/-- The check on the services that are reserved already reads the rows of the allocation alone. -/
lemma Agree.checkAcceptedServices (h : Agree K L j j') {key : AllocationKey} (hkey : L key)
    (fingerprint : String) (services : List String) :
    j.checkAcceptedServices key fingerprint services =
      j'.checkAcceptedServices key fingerprint services := by
  induction services with
  | nil => rfl
  | cons s services ih =>
    rw [Journal.checkAcceptedServices, Journal.checkAcceptedServices, h.reservation hkey, ih]

end Agreement

/-! ### Transactions are confined to their rows -/

/-- Two transactions end alike: both raise the same error, or both return the same value and leave
journals that agree. -/
inductive EndAlike (K : OperationKey → Prop) (L : AllocationKey → Prop) {α : Type} :
    Except PyError (α × Journal) → Except PyError (α × Journal) → Prop
  | error (e : PyError) : EndAlike K L (.error e) (.error e)
  | ok (a : α) {j j' : Journal} (h : Agree K L j j') : EndAlike K L (.ok (a, j)) (.ok (a, j'))

section Confinement

variable {K : OperationKey → Prop} {L : AllocationKey → Prop} {j j' : Journal}

lemma EndAlike.read {α : Type} (h : Agree K L j j') {result result' : Except PyError α}
    (heq : result = result') : EndAlike K L (Journal.read result j) (Journal.read result' j') := by
  subst heq
  cases result with
  | error e => exact .error e
  | ok a => exact .ok a h

lemma EndAlike.planExtension (h : Agree K L j j') {key : AllocationKey} (hkey : L key)
    (requested : List String) (fingerprint reservationFingerprint : String) (row : AllocationRow)
    (response : Json) :
    EndAlike K L (j.planExtension key requested fingerprint reservationFingerprint row response)
      (j'.planExtension key requested fingerprint reservationFingerprint row response) := by
  simp only [Journal.planExtension, h.checkAcceptedServices hkey]
  cases j'.checkAcceptedServices key reservationFingerprint
      (requested.filter (· ∈ row.serviceSet)) with
  | error e => exact .error e
  | ok _ =>
    simp only [bind, Except.bind]
    split_ifs
    · exact .ok _ h
    · exact .ok _ (h.putAllocation key _)

lemma EndAlike.beginAllocation (h : Agree K L j j') {key : AllocationKey} (hkey : L key)
    (jobUid jobGid : ℤ) (serviceIds : List String) (fingerprint reservationFingerprint : String) :
    EndAlike K L
      (j.beginAllocation key jobUid jobGid serviceIds fingerprint reservationFingerprint)
      (j'.beginAllocation key jobUid jobGid serviceIds fingerprint reservationFingerprint) := by
  simp only [Journal.beginAllocation, h.allocation hkey]
  cases j'.allocation key with
  | none => exact .ok _ (h.putAllocation key _)
  | some row =>
    by_cases hid : row.jobUid = jobUid ∧ row.jobGid = jobGid
    swap
    · simp only [hid, not_false_eq_true, if_true]
      exact .error _
    simp only [hid, not_true, if_false, and_self]
    split
    · exact .planExtension h hkey _ _ _ _ _
    · exact .ok _ (h.putAllocation key _)
    · exact .ok _ (h.putAllocation key _)
    · exact .error _
    · exact .error _
    · exact .error _
    · exact .error _
    all_goals
      by_cases hfingerprint : row.requestFingerprint = fingerprint
      · simp only [hfingerprint, ne_eq, not_true, if_false]
        split
        · exact .error _
        · exact .ok _ h
      · simp only [hfingerprint, ne_eq, not_false_eq_true, if_true]
        exact .ok _ (h.putAllocation key _)

/-- A transaction ends alike on journals that agree on its rows. -/
theorem Transaction.Within.endAlike {t : Transaction} (ht : t.Within K L) (h : Agree K L j j') :
    EndAlike K L (t.apply j) (t.apply j') := by
  cases t with
  | beginOperation key fingerprint =>
    simp only [Transaction.apply, Journal.beginOperation, h.operation ht]
    split
    · split_ifs
      · exact .error _
      · exact .ok _ (h.putOperation key _)
      · exact .ok _ h
    · exact .ok _ (h.putOperation key _)
  | completeOperation key response state =>
    simp only [Transaction.apply, Journal.completeOperation, h.operation ht]
    split_ifs
    · exact .error _
    · split
      · exact .error _
      · exact .ok _ (h.putOperation key _)
  | beginAllocation key jobUid jobGid serviceIds fingerprint reservationFingerprint =>
    exact .beginAllocation h ht _ _ _ _ _
  | acceptedAllocation key jobUid jobGid serviceIds =>
    refine .read h ?_
    rw [Journal.acceptedAllocation, Journal.acceptedAllocation, h.allocation ht]
  | recordReservation key record diagnostic => exact .ok _ (h.putReservation key _ _)
  | restoreAcceptedAllocation key serviceIds response =>
    simp only [Transaction.apply, Journal.restoreAcceptedAllocation, h.allocation ht]
    split
    · exact .error _
    · exact .ok _ (h.putAllocation key _)
  | completeAllocation key state response =>
    simp only [Transaction.apply, Journal.completeAllocation, h.allocation ht]
    split
    · exact .error _
    · exact .ok _ (h.putAllocation key _)
  | setAllocationState key state =>
    simp only [Transaction.apply, Journal.setAllocationState, h.allocation ht]
    split
    · exact .ok _ h
    · exact .ok _ (h.putAllocation key _)
  | reservations key => exact .read h (by rw [h.reservations ht])
  | reservationContext key jobUid jobGid =>
    refine .read h ?_
    rw [Journal.reservationContext, Journal.reservationContext, h.allocation ht,
      h.reservations ht]
  | allocationStatus key => exact .read h (by rw [h.allocation ht])

/-- Writing a row changes its cell alone. -/
lemma cell_putOperation {key : OperationKey} {c : Cell} (hc : c ≠ .operation key) (j : Journal)
    (row : OperationRow) : (j.putOperation key row).cell c = j.cell c := by
  cases c with
  | operation key' =>
    have hne : key' ≠ key := fun heq => hc (heq ▸ rfl)
    simp [Journal.cell, Journal.operation_putOperation, hne]
  | allocation key' => rfl
  | reservation key' s => rfl

lemma cell_putAllocation {key : AllocationKey} {c : Cell} (hc : c ≠ .allocation key) (j : Journal)
    (row : AllocationRow) : (j.putAllocation key row).cell c = j.cell c := by
  cases c with
  | operation key' => rfl
  | allocation key' =>
    have hne : key' ≠ key := fun heq => hc (heq ▸ rfl)
    simp [Journal.cell, Journal.allocation_putAllocation, hne]
  | reservation key' s => rfl

lemma cell_putReservation {key : AllocationKey} {s : String} {c : Cell}
    (hc : c ≠ .reservation key s) (j : Journal) (row : ReservationRow) :
    (j.putReservation key s row).cell c = j.cell c := by
  cases c with
  | operation key' => rfl
  | allocation key' => rfl
  | reservation key' s' =>
    have hne : ¬ (key' = key ∧ s' = s) := by
      rintro ⟨rfl, rfl⟩
      exact hc rfl
    simp [Journal.cell, Journal.reservation_putReservation, hne]

/-- `begin_allocation` leaves the journal alone when no service is missing, or writes a row of the
allocation that is not accepted. -/
lemma beginAllocation_writes {key : AllocationKey} {jobUid jobGid : ℤ} {serviceIds : List String}
    {fingerprint reservationFingerprint : String} {plan : AllocationPlan}
    (h : j.beginAllocation key jobUid jobGid serviceIds fingerprint reservationFingerprint =
      .ok (plan, j')) :
    (j' = j ∧ plan.missingServices = []) ∨
      ∃ row, j' = j.putAllocation key row ∧ row.state ≠ .accepted := by
  have hplan {row : AllocationRow} {response : Json}
      (h : j.planExtension key (sorted serviceIds) fingerprint reservationFingerprint row response =
        .ok (plan, j')) :
      (j' = j ∧ plan.missingServices = []) ∨
        ∃ row, j' = j.putAllocation key row ∧ row.state ≠ .accepted := by
    simp only [Journal.planExtension] at h
    cases hcheck : j.checkAcceptedServices key reservationFingerprint
        ((sorted serviceIds).filter (· ∈ row.serviceSet)) with
    | error e =>
      rw [hcheck] at h
      cases h
    | ok _ =>
      simp only [hcheck, bind, Except.bind] at h
      split_ifs at h <;> cases h
      · exact .inl ⟨rfl, rfl⟩
      · exact .inr ⟨_, rfl, by rintro ⟨⟩⟩
  simp only [Journal.beginAllocation] at h
  cases hrow : j.allocation key with
  | none =>
    rw [hrow] at h
    cases h
    exact .inr ⟨_, rfl, by rintro ⟨⟩⟩
  | some row =>
    rw [hrow] at h
    by_cases hid : row.jobUid = jobUid ∧ row.jobGid = jobGid
    swap
    · simp only [hid, not_false_eq_true, if_true] at h
      cases h
    simp only [hid, not_true, if_false, and_self] at h
    split at h
    · exact hplan h
    · cases h
      exact .inr ⟨_, rfl, by rintro ⟨⟩⟩
    · cases h
      exact .inr ⟨_, rfl, by rintro ⟨⟩⟩
    · cases h
    · cases h
    · cases h
    · cases h
    all_goals
      by_cases hfingerprint : row.requestFingerprint = fingerprint
      · simp only [hfingerprint, ne_eq, not_true, if_false] at h
        split at h <;> cases h
        exact .inl ⟨rfl, rfl⟩
      · simp only [hfingerprint, ne_eq, not_false_eq_true, if_true] at h
        cases h
        exact .inr ⟨_, rfl, by rintro ⟨⟩⟩

/-- A transaction writes the rows it is about alone. -/
theorem Transaction.Within.frame {t : Transaction} (ht : t.Within K L) {result : t.Result}
    (h : t.apply j = .ok (result, j')) {c : Cell} (hc : ¬ c.Within K L) : j'.cell c = j.cell c := by
  have hoperation {key : OperationKey} (hkey : K key) : c ≠ .operation key := by
    rintro rfl
    exact hc hkey
  have hallocation {key : AllocationKey} (hkey : L key) : c ≠ .allocation key := by
    rintro rfl
    exact hc hkey
  have hreservation {key : AllocationKey} (hkey : L key) (s : String) :
      c ≠ .reservation key s := by
    rintro rfl
    exact hc hkey
  have hread {α : Type} {value : Except PyError α} {a : α}
      (h : Journal.read value j = .ok (a, j')) : j'.cell c = j.cell c := by
    cases value <;> cases h
    rfl
  cases t with
  | beginOperation key fingerprint =>
    simp only [Transaction.apply, Journal.beginOperation] at h
    split at h
    · split_ifs at h <;> cases h
      · exact cell_putOperation (hoperation ht) _ _
      · rfl
    · cases h
      exact cell_putOperation (hoperation ht) _ _
  | completeOperation key response state =>
    simp only [Transaction.apply, Journal.completeOperation] at h
    split_ifs at h
    split at h <;> cases h
    exact cell_putOperation (hoperation ht) _ _
  | beginAllocation key jobUid jobGid serviceIds fingerprint reservationFingerprint =>
    rcases beginAllocation_writes h with ⟨rfl, -⟩ | ⟨row, rfl, -⟩
    · rfl
    · exact cell_putAllocation (hallocation ht) _ _
  | acceptedAllocation key jobUid jobGid serviceIds => exact hread h
  | recordReservation key record diagnostic =>
    cases h
    exact cell_putReservation (hreservation ht _) _ _
  | restoreAcceptedAllocation key serviceIds response =>
    simp only [Transaction.apply, Journal.restoreAcceptedAllocation] at h
    split at h <;> cases h
    exact cell_putAllocation (hallocation ht) _ _
  | completeAllocation key state response =>
    simp only [Transaction.apply, Journal.completeAllocation] at h
    split at h <;> cases h
    exact cell_putAllocation (hallocation ht) _ _
  | setAllocationState key state =>
    simp only [Transaction.apply, Journal.setAllocationState] at h
    split at h <;> cases h
    · rfl
    · exact cell_putAllocation (hallocation ht) _ _
  | reservations key => exact hread h
  | reservationContext key jobUid jobGid => exact hread h
  | allocationStatus key => exact hread h

/-- The questions about some operations and allocations are confined to their rows. -/
theorem confined_surroundings (V : Prop) (oracle : Oracle) (faults : Faults) :
    Confined Journal.cell (Cell.Within K L) (Query.Within K L V) (surroundings oracle faults) := by
  have halike (q : Query) (j j' : Journal) (t : List Event) (hq : q.Within K L V)
      (h : Agree K L j j') :
      (surroundings oracle faults q ⟨j, t⟩).1 = (surroundings oracle faults q ⟨j', t⟩).1 ∧
        Agree K L (surroundings oracle faults q ⟨j, t⟩).2
          (surroundings oracle faults q ⟨j', t⟩).2 := by
    cases q with
    | call c => exact ⟨rfl, h⟩
    | transaction transaction =>
      simp only [surroundings]
      cases faults t.length transaction with
      | some fault => exact ⟨rfl, h⟩
      | none =>
        have hend := Transaction.Within.endAlike hq h
        dsimp only
        generalize transaction.apply j = result at hend ⊢
        generalize transaction.apply j' = result' at hend ⊢
        cases hend with
        | error e => exact ⟨rfl, h⟩
        | ok a h => exact ⟨rfl, h⟩
  refine ⟨fun q j j' t hq h => (halike q j j' t hq h).1,
    fun q j j' t hq h => (halike q j j' t hq h).2, fun q j t c hq hc => ?_⟩
  cases q with
  | call call => rfl
  | transaction transaction =>
    simp only [surroundings]
    cases faults t.length transaction with
    | some fault => rfl
    | none =>
      cases happly : transaction.apply j with
      | error e => rfl
      | ok applied => exact Transaction.Within.frame hq happly hc

/-- Only `record_reservation` writes rows of reservations. -/
lemma Transaction.reservation_apply {t : Transaction} {result : t.Result}
    (h : t.apply j = .ok (result, j'))
    (ht : ∀ key record diagnostic, t ≠ .recordReservation key record diagnostic)
    (key : AllocationKey) (s : String) : j'.reservation key s = j.reservation key s := by
  have hread {α : Type} {value : Except PyError α} {a : α}
      (h : Journal.read value j = .ok (a, j')) : j'.reservation key s = j.reservation key s := by
    cases value <;> cases h
    rfl
  cases t with
  | beginOperation key fingerprint =>
    simp only [Transaction.apply, Journal.beginOperation] at h
    split at h
    · split_ifs at h <;> cases h <;> rfl
    · cases h
      rfl
  | completeOperation key response state =>
    simp only [Transaction.apply, Journal.completeOperation] at h
    split_ifs at h
    split at h <;> cases h
    rfl
  | beginAllocation key jobUid jobGid serviceIds fingerprint reservationFingerprint =>
    rcases beginAllocation_writes h with ⟨rfl, -⟩ | ⟨row, rfl, -⟩ <;> rfl
  | acceptedAllocation key jobUid jobGid serviceIds => exact hread h
  | recordReservation key record diagnostic => exact absurd rfl (ht key record diagnostic)
  | restoreAcceptedAllocation key serviceIds response =>
    simp only [Transaction.apply, Journal.restoreAcceptedAllocation] at h
    split at h <;> cases h
    rfl
  | completeAllocation key state response =>
    simp only [Transaction.apply, Journal.completeAllocation] at h
    split at h <;> cases h
    rfl
  | setAllocationState key state =>
    simp only [Transaction.apply, Journal.setAllocationState] at h
    split at h <;> cases h <;> rfl
  | reservations key => exact hread h
  | reservationContext key jobUid jobGid => exact hread h
  | allocationStatus key => exact hread h

/-- A row of a reservation changes when it is recorded. -/
lemma reservation_surroundings (oracle : Oracle) (faults : Faults) (q : Query) (w : GatewayWorld)
    (key : AllocationKey) (s : String) :
    (surroundings oracle faults q w).2.reservation key s = w.state.reservation key s ∨
      ∃ record diagnostic,
        (⟨q, (surroundings oracle faults q w).1⟩ : Event) =
          ⟨.transaction (.recordReservation key record diagnostic), .ok ()⟩ ∧
        record.serviceId = s ∧
        (surroundings oracle faults q w).2.reservation key s = some (record.row diagnostic) := by
  cases q with
  | call c => exact .inl rfl
  | transaction t =>
    simp only [surroundings]
    cases faults w.trace.length t with
    | some fault => exact .inl rfl
    | none =>
      cases happly : t.apply w.state with
      | error error => exact .inl rfl
      | ok applied =>
        by_cases hrecord : ∃ key record diagnostic, t = .recordReservation key record diagnostic
        · obtain ⟨key', record, diagnostic, rfl⟩ := hrecord
          cases happly
          dsimp only
          rw [Journal.recordReservation, Journal.reservation_putReservation]
          split_ifs with heq
          · obtain ⟨rfl, rfl⟩ := heq
            exact .inr ⟨record, diagnostic, rfl, rfl, rfl⟩
          · exact .inl rfl
        · push Not at hrecord
          exact .inl (Transaction.reservation_apply happly hrecord key s)

end Confinement

/-! ### Handlers side by side -/

/-- The allocation an evaluate, reserve or release request names. -/
def Request.allocationKey : Request → Option AllocationKey
  | .evaluate request => some request.toReserveRequest.key
  | .reserve request => some request.key
  | .release request => some request.key
  | .getReservations _ => none

/-- The operation such a request is journalled as. -/
def Request.operationKey (senderUid : ℤ) : Request → Option OperationKey
  | .evaluate request => some (request.toReserveRequest.operationKey .evaluate senderUid)
  | .reserve request => some (request.operationKey .reserve senderUid)
  | .release request => some (request.operationKey senderUid)
  | .getReservations _ => none

/-- The handler of such a request asks about its own operation and allocation. -/
lemma asks_handle (sha256 : Document → String) {request : Request} (senderUid : ℤ)
    (h : request.allocationKey.isSome = true) :
    (handle sha256 request senderUid).Asks
      (Query.Within (fun key => request.operationKey senderUid = some key)
        (fun key => request.allocationKey = some key) True) := by
  cases request with
  | evaluate request =>
    refine asks_answer (within_evaluateTry sha256 senderUid request.toReserveRequest ?_) _ _
    rfl
  | reserve request =>
    refine asks_answer (within_reserveTry sha256 senderUid request ?_ ?_) _ _
    · rfl
    · rfl
  | release request =>
    refine asks_answer (within_releaseTry sha256 senderUid request ?_ ?_) _ _
    · rfl
    · rfl
  | getReservations request => cases h

section Pools

variable {ι : Type} (sha256 : Document → String) (request : ι → Request) (senderUid : ι → ℤ)
  (oracle : ι → Oracle) (faults : ι → Faults)

/-- The handlers of a family of requests, interleaved.  Each has its own answers of the verifier and
the adapter and its own failing journal calls. -/
def interleaved [DecidableEq ι] (j : Journal) (schedule : List ι) :
    Pool ι Journal Query Answer Response :=
  after (Pool.step fun i => surroundings (oracle i) (faults i))
    (Pool.start j fun i => handle sha256 (request i) (senderUid i)) schedule

/-- The journal after the handlers have run one after the other. -/
def oneByOne (j : Journal) (order : List ι) : Journal :=
  serially (fun i => surroundings (oracle i) (faults i))
    (fun i => handle sha256 (request i) (senderUid i)) j order

/-- Handlers of requests for different allocations, with different operation keys, interleaved in
any way from any journal.  None of them touches the rows of another allocation.  When all have
ended, each has returned what it returns when the handlers run one after the other, in any order,
and the rows of the three tables are the same. -/
theorem handlers_keep_apart [DecidableEq ι]
    (hkind : ∀ i, (request i).allocationKey.isSome = true)
    (hkeys : ∀ i k, i ≠ k → (request i).allocationKey ≠ (request k).allocationKey)
    (hoperations : ∀ i k, i ≠ k →
      (request i).operationKey (senderUid i) ≠ (request k).operationKey (senderUid k))
    (j : Journal) (schedule : List ι) :
    (∀ i key, (request i).allocationKey ≠ some key →
      SameRows (interleaved sha256 request senderUid oracle faults j schedule).state
        (interleaved sha256 request senderUid oracle faults j (schedule ++ [i])).state key) ∧
    ((∀ i, ((interleaved sha256 request senderUid oracle faults j schedule).thread
        i).left.result.isSome = true) →
      ∀ order : List ι, order.Nodup → (∀ i, i ∈ order) →
        (∀ before i rest, order = before ++ i :: rest →
          ((interleaved sha256 request senderUid oracle faults j schedule).thread i).left.result =
            some ((handle sha256 (request i) (senderUid i)).run (surroundings (oracle i) (faults i))
              ⟨oneByOne sha256 request senderUid oracle faults j before, []⟩).1) ∧
        (∀ key, (interleaved sha256 request senderUid oracle faults j schedule).state.operation key =
          (oneByOne sha256 request senderUid oracle faults j order).operation key) ∧
        ∀ key, SameRows (oneByOne sha256 request senderUid oracle faults j order)
          (interleaved sha256 request senderUid oracle faults j schedule).state key) := by
  have hasks (i : ι) := asks_handle sha256 (senderUid i) (hkind i)
  have hconfined (i : ι) := confined_surroundings
    (K := fun key => (request i).operationKey (senderUid i) = some key)
    (L := fun key => (request i).allocationKey = some key) True (oracle i) (faults i)
  -- no row belongs to two handlers
  have hapart (i k : ι) (c : Cell) (hik : i ≠ k)
      (hi : c.Within (fun key => (request i).operationKey (senderUid i) = some key)
        fun key => (request i).allocationKey = some key) :
      ¬ c.Within (fun key => (request k).operationKey (senderUid k) = some key)
        fun key => (request k).allocationKey = some key := by
    intro hk
    cases c with
    | operation key => exact hoperations i k hik (hi.trans hk.symm)
    | allocation key => exact hkeys i k hik (hi.trans hk.symm)
    | reservation key s => exact hkeys i k hik (hi.trans hk.symm)
  refine ⟨fun i key hkey => ?_, fun hended order hnodup hall => ?_⟩
  · have hframe (c : Cell) (hc : ¬ c.Within
        (fun key => (request i).operationKey (senderUid i) = some key)
        fun key => (request i).allocationKey = some key) :
        (interleaved sha256 request senderUid oracle faults j (schedule ++ [i])).state.cell c =
          (interleaved sha256 request senderUid oracle faults j schedule).state.cell c := by
      rw [interleaved, after_append, after_cons, after_nil]
      exact (hconfined i).advance_frame (Pool.asks_after hasks j schedule i) _ hc
    exact ⟨hframe (.allocation key) hkey, fun s => hframe (.reservation key s) hkey⟩
  · obtain ⟨hresults, hcells⟩ := Pool.as_serially hconfined hasks hapart j schedule hended hnodup hall
    exact ⟨hresults, fun key => hcells (.operation key),
      fun key => ⟨hcells (.allocation key), fun s => hcells (.reservation key s)⟩⟩

end Pools

/-- A reserve request of the sample job, and one of another job. -/
def sampleRequests : Bool → Request
  | true => .reserve (sampleReserve 1 ["qpm-a"])
  | false => .reserve { sampleReserve 2 ["qpm-b"] with canonicalJobId := 8 }

/-- The handlers of the two requests take turns and end as they do one after the other. -/
theorem handlers_keep_apart_turns :
    ((interleaved sampleDigest sampleRequests (fun _ => 1000) (fun _ => obliging)
        (fun _ => noFaults) Journal.empty ((List.replicate 9 [true, false]).flatten)).thread
          false).left.result =
      some ((handle sampleDigest (sampleRequests false) 1000).run (surroundings obliging noFaults)
        ⟨oneByOne sampleDigest sampleRequests (fun _ => 1000) (fun _ => obliging)
          (fun _ => noFaults) Journal.empty [true], []⟩).1 :=
  ((handlers_keep_apart sampleDigest sampleRequests (fun _ => 1000) (fun _ => obliging)
    (fun _ => noFaults) (by decide) (by decide) (by decide) Journal.empty
    ((List.replicate 9 [true, false]).flatten)).2 (by decide) [true, false] (by decide)
      (by decide)).1 [true] false [] rfl

end QfwSlurm
