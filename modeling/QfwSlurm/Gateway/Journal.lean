import QfwSlurm.Protocol.StoredResponse
import Mathlib.Data.List.AList
import Mathlib.Data.List.Sort
import Mathlib.Data.List.Dedup
import Mathlib.Data.Prod.Lex

/-!
# The gateway journal

The three SQLite tables of `gateway/qfw_slurm_gateway/journal.py` and the methods of `Journal` on
them.  A table is an association list with distinct keys, its key being the primary key of the
table; the columns `updated_ns` are left out, since no method reads them back.

Every method is one transaction.  A method that raises has changed nothing, so a transaction is a
function `Journal → Except PyError (α × Journal)`: an error carries no new journal.
-/

namespace QfwSlurm

/-- A table with a primary key. -/
abbrev Table (K R : Type) := AList (fun _ : K => R)

/-- Reading a table after one row was written. -/
lemma lookup_insert_ite {K R : Type} [DecidableEq K] (t : Table K R) (k k' : K) (r : R) :
    (t.insert k r).lookup k' = if k' = k then some r else t.lookup k' := by
  split_ifs with h
  · rw [h, AList.lookup_insert]
  · exact AList.lookup_insert_ne h

/-- `sorted` on texts: by code point, as Python and SQLite's binary collation order them. -/
def sorted (texts : List String) : List String := texts.insertionSort (· ≤ ·)

/-! ### The rows -/

inductive Operation where
  | evaluate
  | reserve
  | release
  deriving DecidableEq

inductive OperationState where
  | started
  | complete
  | retryable
  deriving DecidableEq

/-- The scope of an operation: the whole allocation, or one component of a heterogeneous job. -/
inductive Scope where
  | allocation
  | heterogeneous (heteroJobId : ℤ) (heteroComponent : Option ℤ)
  deriving DecidableEq

inductive AllocationState where
  | reserving
  | extending
  | accepted
  | delayed
  | rejected
  | rollingBack
  | rolledBack
  | releaseIncomplete
  | released
  deriving DecidableEq

/-- The text stored in the `state` column of an allocation. -/
def AllocationState.text : AllocationState → String
  | .reserving => "reserving"
  | .extending => "extending"
  | .accepted => "accepted"
  | .delayed => "delayed"
  | .rejected => "rejected"
  | .rollingBack => "rolling-back"
  | .rolledBack => "rolled-back"
  | .releaseIncomplete => "release-incomplete"
  | .released => "released"

/-- The states of a reservation row. -/
inductive RecordState where
  | pending
  | accepted
  | delayed
  | rejected
  | rolledBack
  | rollbackFailed
  | released
  | staleRuntime
  | releaseFailed
  deriving DecidableEq

/-- The primary key of `operations`. -/
structure OperationKey where
  senderUid : ℤ
  operation : Operation
  requestId : ℤ
  scope : Scope := .allocation
  deriving DecidableEq

structure OperationRow where
  fingerprint : String
  state : OperationState
  responseJson : Option Json

/-- The primary key of `allocations`. -/
structure AllocationKey where
  clusterName : String
  canonicalJobId : ℤ
  deriving DecidableEq

structure AllocationRow where
  jobUid : ℤ
  jobGid : ℤ
  serviceSet : List String
  requestFingerprint : String
  state : AllocationState
  responseJson : Option Json

/-- The `UPDATE` that starts an allocation's reservation again. -/
def AllocationRow.restart (row : AllocationRow) (serviceSet : List String) (fingerprint : String) :
    AllocationRow :=
  { row with
    serviceSet := serviceSet
    requestFingerprint := fingerprint
    state := .reserving
    responseJson := none }

/-- A row of `reservations` without its key. -/
structure ReservationRow where
  reservationId : Option ℤ
  qpmRuntimeId : Option String
  qpmGeneration : Option ℤ
  requestFingerprint : Option String
  state : RecordState
  diagnostic : Option String
  deriving DecidableEq

/-- A prior outcome of an operation, as `begin_operation` returns it. -/
structure OperationRecord where
  state : OperationState
  response : Option Json

structure ReservationRecord where
  serviceId : String
  reservationId : Option ℤ
  qpmRuntimeId : Option String
  qpmGeneration : Option ℤ
  state : RecordState
  requestFingerprint : Option String := none
  deriving DecidableEq

/-- The row a record is stored as. -/
def ReservationRecord.row (record : ReservationRecord) (diagnostic : Option String) :
    ReservationRow :=
  { reservationId := record.reservationId
    qpmRuntimeId := record.qpmRuntimeId
    qpmGeneration := record.qpmGeneration
    requestFingerprint := record.requestFingerprint
    state := record.state
    diagnostic := diagnostic }

/-- The record a row is read back as. -/
def ReservationRow.record (serviceId : String) (row : ReservationRow) : ReservationRecord :=
  { serviceId := serviceId
    reservationId := row.reservationId
    qpmRuntimeId := row.qpmRuntimeId
    qpmGeneration := row.qpmGeneration
    state := row.state
    requestFingerprint := row.requestFingerprint }

structure AllocationPlan where
  existingResponse : Option Json
  existingServices : List String
  missingServices : List String

/-- `AllocationPlan.is_extension` -/
def AllocationPlan.isExtension (plan : AllocationPlan) : Bool :=
  plan.existingResponse.isSome && !plan.missingServices.isEmpty

/-- The journal: its three tables. -/
structure Journal where
  operations : Table OperationKey OperationRow
  allocations : Table AllocationKey AllocationRow
  reservationRows : Table (AllocationKey × String) ReservationRow

namespace Journal

/-- A journal that was just created. -/
def empty : Journal := ⟨∅, ∅, ∅⟩

/-- The row of an operation. -/
def operation (j : Journal) (key : OperationKey) : Option OperationRow := j.operations.lookup key

/-- The row of an allocation. -/
def allocation (j : Journal) (key : AllocationKey) : Option AllocationRow :=
  j.allocations.lookup key

/-- The row of an allocation's reservation on one service. -/
def reservation (j : Journal) (key : AllocationKey) (serviceId : String) : Option ReservationRow :=
  j.reservationRows.lookup (key, serviceId)

/-- Write the row of an operation. -/
def putOperation (j : Journal) (key : OperationKey) (row : OperationRow) : Journal :=
  { j with operations := j.operations.insert key row }

/-- Write the row of an allocation. -/
def putAllocation (j : Journal) (key : AllocationKey) (row : AllocationRow) : Journal :=
  { j with allocations := j.allocations.insert key row }

/-- Write the row of a reservation. -/
def putReservation (j : Journal) (key : AllocationKey) (serviceId : String)
    (row : ReservationRow) : Journal :=
  { j with reservationRows := j.reservationRows.insert (key, serviceId) row }

@[simp] lemma operation_empty (key : OperationKey) : empty.operation key = none := rfl

@[simp] lemma allocation_empty (key : AllocationKey) : empty.allocation key = none := rfl

@[simp] lemma reservation_empty (key : AllocationKey) (s : String) :
    empty.reservation key s = none := rfl

lemma operation_putOperation (j : Journal) (key key' : OperationKey) (row : OperationRow) :
    (j.putOperation key row).operation key' = if key' = key then some row else j.operation key' :=
  lookup_insert_ite _ _ _ _

@[simp] lemma operation_putOperation_self (j : Journal) (key : OperationKey) (row : OperationRow) :
    (j.putOperation key row).operation key = some row := by
  rw [operation_putOperation, if_pos rfl]

@[simp] lemma operation_putAllocation (j : Journal) (key : AllocationKey) (key' : OperationKey)
    (row : AllocationRow) : (j.putAllocation key row).operation key' = j.operation key' := rfl

@[simp] lemma operation_putReservation (j : Journal) (key : AllocationKey) (s : String)
    (key' : OperationKey) (row : ReservationRow) :
    (j.putReservation key s row).operation key' = j.operation key' := rfl

@[simp] lemma allocation_putOperation (j : Journal) (key : OperationKey) (key' : AllocationKey)
    (row : OperationRow) : (j.putOperation key row).allocation key' = j.allocation key' := rfl

lemma allocation_putAllocation (j : Journal) (key key' : AllocationKey) (row : AllocationRow) :
    (j.putAllocation key row).allocation key' =
      if key' = key then some row else j.allocation key' :=
  lookup_insert_ite _ _ _ _

@[simp] lemma allocation_putAllocation_self (j : Journal) (key : AllocationKey)
    (row : AllocationRow) : (j.putAllocation key row).allocation key = some row := by
  rw [allocation_putAllocation, if_pos rfl]

@[simp] lemma allocation_putReservation (j : Journal) (key key' : AllocationKey) (s : String)
    (row : ReservationRow) :
    (j.putReservation key s row).allocation key' = j.allocation key' := rfl

@[simp] lemma reservation_putOperation (j : Journal) (key : OperationKey) (key' : AllocationKey)
    (s : String) (row : OperationRow) :
    (j.putOperation key row).reservation key' s = j.reservation key' s := rfl

@[simp] lemma reservation_putAllocation (j : Journal) (key key' : AllocationKey) (s : String)
    (row : AllocationRow) : (j.putAllocation key row).reservation key' s = j.reservation key' s :=
  rfl

lemma reservation_putReservation (j : Journal) (key key' : AllocationKey) (s s' : String)
    (row : ReservationRow) :
    (j.putReservation key s row).reservation key' s' =
      if key' = key ∧ s' = s then some row else j.reservation key' s' := by
  simp only [reservation, putReservation, lookup_insert_ite, Prod.mk.injEq]

@[simp] lemma reservation_putReservation_self (j : Journal) (key : AllocationKey) (s : String)
    (row : ReservationRow) : (j.putReservation key s row).reservation key s = some row := by
  rw [reservation_putReservation, if_pos ⟨rfl, rfl⟩]

/-! ### Operations -/

/-- `Journal.begin_operation` -/
def beginOperation (key : OperationKey) (fingerprint : String) (j : Journal) :
    Except PyError (Option OperationRecord × Journal) :=
  match j.operation key with
  | some row =>
    if row.fingerprint ≠ fingerprint then
      .error ⟨.requestConflict, "request ID reused with different content"⟩
    else if row.state = .retryable then
      .ok (none, j.putOperation key { row with state := .started, responseJson := none })
    else .ok (some ⟨row.state, row.responseJson⟩, j)
  | none => .ok (none, j.putOperation key ⟨fingerprint, .started, none⟩)

/-- `Journal.complete_operation` -/
def completeOperation (key : OperationKey) (response : Json) (state : OperationState)
    (j : Journal) : Except PyError (Unit × Journal) :=
  if state = .started then .error ⟨.journalError, "operation completion state is invalid"⟩
  else
    match j.operation key with
    | none => .error ⟨.journalError, "operation disappeared before completion"⟩
    | some row =>
      .ok ((), j.putOperation key { row with state := state, responseJson := some response })

/-! ### Allocations -/

/-- The check of `begin_allocation` on the services that are both requested and reserved.  Python
visits them in the order of a set; the model visits them in the order of the request, and the order
decides only which service a refusal names. -/
def checkAcceptedServices (j : Journal) (key : AllocationKey) (reservationFingerprint : String) :
    List String → Except PyError Unit
  | [] => .ok ()
  | serviceId :: rest =>
    match j.reservation key serviceId with
    | none => .error ⟨.journalError, "accepted allocation lacks reservation state"⟩
    | some row =>
      if row.state ≠ .accepted then
        .error ⟨.journalError, "accepted allocation lacks reservation state"⟩
      else if row.requestFingerprint ≠ some reservationFingerprint then
        .error ⟨.requestConflict, s!"accepted workload changed for {reprText serviceId}"⟩
      else checkAcceptedServices j key reservationFingerprint rest

/-- The branch of `begin_allocation` for an accepted allocation with the stored response. -/
def planExtension (key : AllocationKey) (requested : List String)
    (fingerprint reservationFingerprint : String) (row : AllocationRow) (response : Json)
    (j : Journal) : Except PyError (AllocationPlan × Journal) := do
  let existing := row.serviceSet
  checkAcceptedServices j key reservationFingerprint (requested.filter (· ∈ existing))
  let missing := requested.filter (· ∉ existing)
  if missing = [] then return (⟨some response, existing, []⟩, j)
  let combined := sorted (existing ++ missing).dedup
  return (⟨some response, existing, missing⟩,
    j.putAllocation key
      { row with serviceSet := combined, requestFingerprint := fingerprint, state := .extending })

/-- `Journal.begin_allocation` -/
def beginAllocation (key : AllocationKey) (jobUid jobGid : ℤ) (serviceIds : List String)
    (fingerprint reservationFingerprint : String) (j : Journal) :
    Except PyError (AllocationPlan × Journal) :=
  let requested := sorted serviceIds
  match j.allocation key with
  | none =>
    .ok (⟨none, [], requested⟩,
      j.putAllocation key ⟨jobUid, jobGid, requested, fingerprint, .reserving, none⟩)
  | some row =>
    if ¬ (row.jobUid = jobUid ∧ row.jobGid = jobGid) then
      .error ⟨.requestConflict, "allocation identity changed"⟩
    else
      match row.state, row.responseJson with
      | .accepted, some response =>
        planExtension key requested fingerprint reservationFingerprint row response j
      | .delayed, _ | .rolledBack, _ =>
        .ok (⟨none, [], requested⟩, j.putAllocation key (row.restart requested fingerprint))
      | .reserving, _ | .rollingBack, _ | .extending, _ =>
        .error ⟨.journalError, "allocation has an incomplete transaction"⟩
      | .released, _ => .error ⟨.requestConflict, "allocation was already released"⟩
      | .accepted, none | .rejected, _ | .releaseIncomplete, _ =>
        if row.requestFingerprint ≠ fingerprint then
          .ok (⟨none, [], requested⟩, j.putAllocation key (row.restart requested fingerprint))
        else
          match row.responseJson with
          | none => .error ⟨.journalError, "allocation has no durable outcome"⟩
          | some response => .ok (⟨some response, [], []⟩, j)

/-- `Journal.accepted_allocation` -/
def acceptedAllocation (key : AllocationKey) (jobUid jobGid : ℤ) (serviceIds : List String)
    (j : Journal) : Except PyError (Option Json) :=
  match j.allocation key with
  | none => .ok none
  | some row =>
    if row.jobUid ≠ jobUid ∨ row.jobGid ≠ jobGid then
      .error ⟨.requestConflict, "allocation identity changed"⟩
    else if ¬ ∀ s ∈ serviceIds, s ∈ row.serviceSet then
      .error ⟨.requestConflict, "requested service is not reserved"⟩
    else if row.state ≠ .accepted then .ok none
    else .ok row.responseJson

/-- `Journal.restore_accepted_allocation` -/
def restoreAcceptedAllocation (key : AllocationKey) (serviceIds : List String) (response : Json)
    (j : Journal) : Except PyError (Unit × Journal) :=
  match j.allocation key with
  | none => .error ⟨.journalError, "allocation disappeared during extension"⟩
  | some row =>
    .ok ((), j.putAllocation key
      { row with
        serviceSet := sorted serviceIds
        state := .accepted
        responseJson := some response })

/-- `Journal.complete_allocation` -/
def completeAllocation (key : AllocationKey) (state : AllocationState) (response : Json)
    (j : Journal) : Except PyError (Unit × Journal) :=
  match j.allocation key with
  | none => .error ⟨.journalError, "allocation disappeared before completion"⟩
  | some row =>
    .ok ((), j.putAllocation key { row with state := state, responseJson := some response })

/-- `Journal.set_allocation_state` -/
def setAllocationState (key : AllocationKey) (state : AllocationState) (j : Journal) : Journal :=
  match j.allocation key with
  | none => j
  | some row => j.putAllocation key { row with state := state }

/-! ### Reservations -/

/-- `Journal.record_reservation` -/
def recordReservation (key : AllocationKey) (record : ReservationRecord)
    (diagnostic : Option String) (j : Journal) : Journal :=
  j.putReservation key record.serviceId (record.row diagnostic)

/-- `Journal.reservations`: the rows of an allocation in the order of their service ids. -/
def reservations (j : Journal) (key : AllocationKey) : List ReservationRecord :=
  (j.reservationRows.entries.filterMap fun entry =>
    if entry.1.1 = key then some (entry.2.record entry.1.2) else none).insertionSort
      fun a b => a.serviceId ≤ b.serviceId

/-- The checks of `reservation_context` on the rows of an accepted allocation. -/
def checkContext (expected : List String) (allRecords : List ReservationRecord) :
    Except PyError (List ReservationRecord) :=
  let records := allRecords.filter (·.serviceId ∈ expected)
  if expected = [] ∨ ¬ expected.Nodup then
    .error ⟨.journalError, "allocation service set is malformed"⟩
  else if ∃ item ∈ allRecords, item.state = .accepted ∧ item.serviceId ∉ expected then
    .error ⟨.journalError, "journal contains an unexpected active reservation"⟩
  else if records.map (·.serviceId) ≠ sorted expected then
    .error ⟨.journalError, "accepted allocation reservation set is incomplete"⟩
  else if ∃ item ∈ records, item.state ≠ .accepted ∨ item.reservationId = none then
    .error ⟨.journalError, "accepted allocation contains inactive reservations"⟩
  else .ok records

/-- `Journal.reservation_context` -/
def reservationContext (key : AllocationKey) (jobUid jobGid : ℤ) (j : Journal) :
    Except PyError (List ReservationRecord) :=
  match j.allocation key with
  | none => .error ⟨.allocationNotFound, "allocation is not in the journal"⟩
  | some row =>
    if row.jobUid ≠ jobUid ∨ row.jobGid ≠ jobGid then
      .error ⟨.requestConflict, "allocation identity changed"⟩
    else if row.state = .released then
      .error ⟨.allocationReleased, "allocation reservations were released"⟩
    else if row.state ≠ .accepted then
      .error ⟨.allocationNotAccepted,
        s!"allocation state is {reprText row.state.text}, not accepted"⟩
    else checkContext row.serviceSet (j.reservations key)

/-- `Journal.nonterminal_allocations`, each row with its key; the order is that of the two `TEXT`
columns of the key. -/
def nonterminalAllocations (j : Journal) : List (AllocationKey × AllocationRow) :=
  ((j.allocations.entries.map fun entry => (entry.1, entry.2)).filter fun entry =>
    entry.2.state ≠ .released ∧ entry.2.state ≠ .rejected).insertionSort fun a b =>
      toLex (a.1.clusterName, toString a.1.canonicalJobId) ≤
        toLex (b.1.clusterName, toString b.1.canonicalJobId)

/-! ### Enumerating rows -/

/-- The rows `reservations` lists are those of the table. -/
lemma mem_reservations {j : Journal} {key : AllocationKey} {record : ReservationRecord} :
    record ∈ j.reservations key ↔
      ∃ row, j.reservation key record.serviceId = some row ∧ row.record record.serviceId = record := by
  simp only [reservations, List.mem_insertionSort, List.mem_filterMap, reservation]
  constructor
  · rintro ⟨⟨⟨k, s⟩, row⟩, hmem, hrec⟩
    split_ifs at hrec with hk
    cases hk
    cases hrec
    exact ⟨row, AList.mem_lookup_iff.mpr hmem, rfl⟩
  · rintro ⟨row, hrow, hrec⟩
    refine ⟨⟨(key, record.serviceId), row⟩, AList.mem_lookup_iff.mp hrow, ?_⟩
    rw [if_pos rfl, hrec]

/-- The services of an allocation's rows, read off the keys of the table. -/
lemma map_serviceId_filterMap (entries : List (Σ _ : AllocationKey × String, ReservationRow))
    (key : AllocationKey) :
    ((entries.filterMap fun entry =>
      if entry.1.1 = key then some (entry.2.record entry.1.2) else none).map (·.serviceId)) =
      entries.keys.filterMap fun k => if k.1 = key then some k.2 else none := by
  induction entries with
  | nil => rfl
  | cons entry entries ih =>
    rw [List.keys_cons, List.filterMap_cons, List.filterMap_cons]
    by_cases h : entry.1.1 = key
    · simp only [h, if_true, List.map_cons, ih]
      rfl
    · simp only [h, if_false, ih]

/-- No two rows of an allocation are for one service. -/
lemma nodup_reservations (j : Journal) (key : AllocationKey) :
    ((j.reservations key).map (·.serviceId)).Nodup := by
  have hperm := (List.perm_insertionSort (fun a b : ReservationRecord => a.serviceId ≤ b.serviceId)
    (j.reservationRows.entries.filterMap fun entry =>
      if entry.1.1 = key then some (entry.2.record entry.1.2) else none)).map (·.serviceId)
  refine hperm.nodup_iff.mpr ?_
  rw [map_serviceId_filterMap]
  refine List.Nodup.filterMap ?_ j.reservationRows.keys_nodup
  rintro ⟨k, s⟩ ⟨k', s'⟩ t h h'
  dsimp only at h h'
  split_ifs at h h' with hk hk'
  · rw [hk, hk', Option.some.inj h, Option.some.inj h']
  all_goals simp_all

/-- The rows of an allocation are listed in the order of their service ids. -/
lemma sorted_reservations (j : Journal) (key : AllocationKey) :
    ((j.reservations key).map (·.serviceId)).Pairwise (· ≤ ·) := by
  rw [List.pairwise_map]
  have htotal : Std.Total fun a b : ReservationRecord => a.serviceId ≤ b.serviceId :=
    ⟨fun a b => le_total a.serviceId b.serviceId⟩
  have htrans : IsTrans ReservationRecord fun a b => a.serviceId ≤ b.serviceId :=
    ⟨fun a b c => le_trans⟩
  exact List.pairwise_insertionSort _ _

/-- An allocation is listed as nonterminal exactly when its row is in another state than
`released` and `rejected`. -/
lemma mem_nonterminalAllocations {j : Journal} {key : AllocationKey} {row : AllocationRow} :
    (key, row) ∈ j.nonterminalAllocations ↔
      j.allocation key = some row ∧ row.state ≠ .released ∧ row.state ≠ .rejected := by
  simp only [nonterminalAllocations, List.mem_insertionSort, List.mem_filter, List.mem_map,
    allocation, decide_eq_true_eq]
  refine and_congr_left fun _ => ⟨?_, fun h => ⟨⟨key, row⟩, AList.mem_lookup_iff.mp h, rfl⟩⟩
  rintro ⟨⟨k, r⟩, hmem, heq⟩
  cases heq
  exact AList.mem_lookup_iff.mpr hmem

end Journal

/-! ### Sorted service lists -/

@[simp] lemma mem_sorted {texts : List String} {s : String} : s ∈ sorted texts ↔ s ∈ texts :=
  List.mem_insertionSort _

lemma sorted_perm (texts : List String) : (sorted texts).Perm texts := List.perm_insertionSort _ _

lemma sorted_pairwise (texts : List String) : (sorted texts).Pairwise (· ≤ ·) :=
  List.pairwise_insertionSort _ _

@[simp] lemma sorted_nodup {texts : List String} : (sorted texts).Nodup ↔ texts.Nodup :=
  (sorted_perm texts).nodup_iff

@[simp] lemma sorted_eq_nil {texts : List String} : sorted texts = [] ↔ texts = [] := by
  constructor
  · intro h
    have hperm := sorted_perm texts
    rw [h] at hperm
    exact List.nil_perm.mp hperm
  · rintro rfl
    rfl

/-- A list in order is its own sorted list. -/
lemma sorted_eq_self {texts : List String} (h : texts.Pairwise (· ≤ ·)) : sorted texts = texts :=
  h.insertionSort_eq

/-- Two lists with the same entries, both in order and without duplicates, are equal. -/
lemma eq_of_mem_iff_of_sorted {l l' : List String} (hl : l.Pairwise (· ≤ ·)) (hn : l.Nodup)
    (hl' : l'.Pairwise (· ≤ ·)) (hn' : l'.Nodup) (h : ∀ s, s ∈ l ↔ s ∈ l') : l = l' :=
  ((List.perm_ext_iff_of_nodup hn hn').mpr h).eq_of_pairwise' hl hl'

/-! ### Reading the rows of an allocation again -/

/-- Listed rows are those the table has for their services. -/
lemma filterMap_reservations {j : Journal} {key : AllocationKey} {records : List ReservationRecord}
    (h : ∀ item ∈ records, item ∈ j.reservations key) :
    ((records.map (·.serviceId)).filterMap fun s =>
      (j.reservation key s).map (ReservationRow.record s)) = records := by
  rw [List.filterMap_map]
  refine (List.filterMap_congr fun item hitem => ?_).trans List.filterMap_some
  obtain ⟨row, hrow, hrecord⟩ := Journal.mem_reservations.mp (h item hitem)
  simp [hrow, hrecord]

/-- The list depends on the rows of the allocation alone. -/
lemma reservations_congr {j j' : Journal} {key : AllocationKey}
    (h : ∀ s, j'.reservation key s = j.reservation key s) :
    j'.reservations key = j.reservations key := by
  have hmem (item : ReservationRecord) :
      item ∈ j'.reservations key ↔ item ∈ j.reservations key := by
    simp only [Journal.mem_reservations, h]
  have hservices : (j'.reservations key).map (·.serviceId) =
      (j.reservations key).map (·.serviceId) := by
    refine eq_of_mem_iff_of_sorted (Journal.sorted_reservations j' key)
      (Journal.nodup_reservations j' key) (Journal.sorted_reservations j key)
      (Journal.nodup_reservations j key) fun s => ?_
    simp only [List.mem_map, hmem]
  rw [← filterMap_reservations (j := j') fun item hitem => hitem, hservices]
  simp only [h]
  exact filterMap_reservations fun item hitem => hitem

/-! ### Several writes -/

/-- The row a list of writes leaves for a service: that of the last write to it. -/
def written (writes : List (String × ReservationRow)) (serviceId : String) :
    Option ReservationRow :=
  (writes.reverse.find? (·.1 = serviceId)).map (·.2)

@[simp] lemma written_nil (s : String) : written [] s = none := rfl

lemma written_append (writes more : List (String × ReservationRow)) (s : String) :
    written (writes ++ more) s = (written more s).or (written writes s) := by
  simp only [written, List.reverse_append, List.find?_append, Option.map_or]

lemma written_singleton (s t : String) (row : ReservationRow) :
    written [(t, row)] s = if t = s then some row else none := by
  by_cases h : t = s <;> simp [written, h]

/-- A service that no write names keeps its row. -/
lemma written_eq_none {writes : List (String × ReservationRow)} {s : String}
    (h : ∀ write ∈ writes, write.1 ≠ s) : written writes s = none := by
  simp only [written, Option.map_eq_none_iff, List.find?_eq_none, List.mem_reverse]
  intro write hwrite
  simpa using h write hwrite

/-- The row left for a service was written to it. -/
lemma mem_of_written {writes : List (String × ReservationRow)} {s : String} {row : ReservationRow}
    (h : written writes s = some row) : (s, row) ∈ writes := by
  obtain ⟨⟨t, r⟩, hfind, hrow⟩ := Option.map_eq_some_iff.mp h
  have hmem := List.mem_of_find?_eq_some hfind
  have ht : t = s := by simpa using List.find?_some hfind
  cases ht
  cases hrow
  exact List.mem_reverse.mp hmem

/-- When each entry of a list writes to a service of its own, the row left for that service is the
one its entry leaves. -/
lemma written_flatMap {α : Type} {l : List α} {f : α → List (String × ReservationRow)}
    {k : α → String} (hf : ∀ x ∈ l, ∀ write ∈ f x, write.1 = k x) (hnodup : (l.map k).Nodup)
    {x : α} (hx : x ∈ l) : written (l.flatMap f) (k x) = written (f x) (k x) := by
  induction l with
  | nil => cases hx
  | cons y l ih =>
    rw [List.map_cons, List.nodup_cons] at hnodup
    have hrest := ih (fun z hz => hf z (List.mem_cons_of_mem y hz)) hnodup.2
    rw [List.flatMap_cons, written_append]
    rcases List.mem_cons.mp hx with rfl | hx
    · have hnone : written (l.flatMap f) (k x) = none := by
        refine written_eq_none fun write hwrite heq => hnodup.1 ?_
        obtain ⟨z, hz, hwrite⟩ := List.mem_flatMap.mp hwrite
        rw [← heq, hf z (List.mem_cons_of_mem x hz) write hwrite]
        exact List.mem_map_of_mem hz
      rw [hnone, Option.none_or]
    · have hnone : written (f y) (k x) = none := by
        refine written_eq_none fun write hwrite heq => hnodup.1 ?_
        rw [← hf y List.mem_cons_self write hwrite, heq]
        exact List.mem_map_of_mem hx
      rw [hrest hx, hnone, Option.or_none]

/-- A service that no entry writes to keeps its row. -/
lemma written_flatMap_none {α : Type} {l : List α} {f : α → List (String × ReservationRow)}
    {k : α → String} (hf : ∀ x ∈ l, ∀ write ∈ f x, write.1 = k x) {s : String}
    (hs : s ∉ l.map k) : written (l.flatMap f) s = none := by
  refine written_eq_none fun write hwrite heq => hs ?_
  obtain ⟨x, hx, hwrite⟩ := List.mem_flatMap.mp hwrite
  rw [← heq, hf x hx write hwrite]
  exact List.mem_map_of_mem hx

namespace Journal

/-- Write several reservation rows of an allocation, in order. -/
def writeAll (key : AllocationKey) (writes : List (String × ReservationRow)) (j : Journal) :
    Journal :=
  writes.foldl (fun j write => j.putReservation key write.1 write.2) j

@[simp] lemma writeAll_nil (key : AllocationKey) (j : Journal) : j.writeAll key [] = j := rfl

@[simp] lemma writeAll_singleton (key : AllocationKey) (write : String × ReservationRow)
    (j : Journal) : j.writeAll key [write] = j.putReservation key write.1 write.2 := rfl

@[simp] lemma writeAll_append (key : AllocationKey) (writes more : List (String × ReservationRow))
    (j : Journal) : j.writeAll key (writes ++ more) = (j.writeAll key writes).writeAll key more :=
  List.foldl_append ..

@[simp] lemma operation_writeAll (key : AllocationKey) (writes : List (String × ReservationRow))
    (j : Journal) (key' : OperationKey) :
    (j.writeAll key writes).operation key' = j.operation key' := by
  induction writes generalizing j with
  | nil => rfl
  | cons write writes ih => exact ih _

@[simp] lemma allocation_writeAll (key key' : AllocationKey)
    (writes : List (String × ReservationRow)) (j : Journal) :
    (j.writeAll key writes).allocation key' = j.allocation key' := by
  induction writes generalizing j with
  | nil => rfl
  | cons write writes ih => exact ih _

lemma reservation_writeAll (key key' : AllocationKey) (writes : List (String × ReservationRow))
    (j : Journal) (s : String) :
    (j.writeAll key writes).reservation key' s =
      if key' = key then (written writes s).or (j.reservation key' s)
      else j.reservation key' s := by
  induction writes using List.reverseRecOn with
  | nil => simp
  | append_singleton writes write ih =>
    rw [writeAll_append, writeAll_singleton, reservation_putReservation, ih, written_append,
      written_singleton]
    by_cases hkey : key' = key
    · by_cases hs : s = write.1
      · simp [hkey, hs]
      · simp [hkey, hs, Ne.symm hs]
    · simp [hkey]

end Journal

end QfwSlurm
