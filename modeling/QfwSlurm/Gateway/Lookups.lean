import QfwSlurm.Gateway.AcceptedSet
import QfwSlurm.Gateway.Isolation
import QfwSlurm.Gateway.Tasks

/-!
# Lookups in the middle of a handler

A lookup can read the journal between any two transactions of a handler for the same allocation.
`Guarded` is what makes such a reading safe: while the allocation is accepted, its accepted rows
have the ids of the stored response, so the checks of `reservation_context` either fail or find
exactly these ids.

A handler leaves the rows of an allocation alone or takes accepted rows away, then it works on an
allocation that is not accepted, and once it has settled the outcome it writes no row of it any
more.  `allocationDiscipline` says so, and what the rows are after it has settled is what they are
when it ends.
-/

namespace QfwSlurm

open Interaction

/-! ### Readings of guarded rows -/

/-- While the allocation is accepted, its accepted rows have the ids of the stored response. -/
def Guarded (j : Journal) (key : AllocationKey) : Prop :=
  ∀ row, j.allocation key = some row → row.state = .accepted →
    ∃ stored response, row.responseJson = some stored ∧
      responseFromDict stored = .ok (.reserve response) ∧ response.decision = .accepted ∧
      response.results.map (·.serviceId) = row.serviceSet ∧ row.serviceSet.Pairwise (· ≤ ·) ∧
      ∀ item ∈ response.results, ∀ r, j.reservation key item.serviceId = some r →
        r.state = .accepted → r.reservationId = item.reservationId

section Reading

variable {j j' : Journal} {key : AllocationKey}

lemma Guarded.of_not_accepted
    (h : ∀ row, j.allocation key = some row → row.state ≠ .accepted) : Guarded j key :=
  fun row hrow hstate => absurd hstate (h row hrow)

/-- Accepted rows may go. -/
lemma Guarded.of_rows (h : Guarded j key) (hallocation : j'.allocation key = j.allocation key)
    (hrows : ∀ s r, j'.reservation key s = some r → r.state = .accepted →
      j.reservation key s = some r) : Guarded j' key := by
  intro row hrow hstate
  rw [hallocation] at hrow
  obtain ⟨stored, response, hstored, hread, hdecision, hservices, hordered, hids⟩ :=
    h row hrow hstate
  exact ⟨stored, response, hstored, hread, hdecision, hservices, hordered,
    fun item hitem r hr haccepted => hids item hitem r (hrows _ r hr haccepted) haccepted⟩

lemma Guarded.of_sameRows (h : Guarded j key) (hrows : SameRows j j' key) : Guarded j' key :=
  h.of_rows hrows.allocation_eq fun s r hr _ => by rw [← hrows.reservation_eq s]; exact hr

/-- An accepted set is guarded. -/
lemma Sound.guarded (h : Sound j key) : Guarded j key := by
  intro row hrow hstate
  have hset := h.accepted row hrow hstate
  obtain ⟨stored, response, hstored, hread, hdecision, hpairs⟩ := hset.response
  have hservices : response.results.map (·.serviceId) = row.serviceSet := by
    have hfirst := congrArg (List.map Prod.fst) hpairs
    rw [List.map_map, List.map_map] at hfirst
    have hleft : (Prod.fst ∘ ServiceResult.pair) = (·.serviceId) := rfl
    have hright : (Prod.fst ∘ fun s => (s, j.reservedId key s)) = id := rfl
    rw [hleft, hright, List.map_id] at hfirst
    exact hfirst
  refine ⟨stored, response, hstored, hread, hdecision, hservices, hset.ordered,
    fun item hitem r hr haccepted => ?_⟩
  have hmem : item.pair ∈ row.serviceSet.map fun s => (s, j.reservedId key s) := by
    rw [← hpairs]
    exact List.mem_map_of_mem hitem
  obtain ⟨s, -, hpair⟩ := List.mem_map.mp hmem
  have hs : s = item.serviceId := congrArg Prod.fst hpair
  have hid : j.reservedId key s = item.reservationId := congrArg Prod.snd hpair
  rw [← hid, hs, Journal.reservedId, hr]
  rfl

/-- A record the journal lists is one of its rows. -/
lemma row_of_mem_reservations {item : ReservationRecord} (h : item ∈ j.reservations key) :
    ∃ r, j.reservation key item.serviceId = some r ∧ r.state = item.state ∧
      r.reservationId = item.reservationId := by
  obtain ⟨r, hr, hitem⟩ := Journal.mem_reservations.mp h
  exact ⟨r, hr, by rw [← hitem]; rfl, by rw [← hitem]; rfl⟩

/-- What the checks of `reservation_context` let through. -/
lemma records_of_checkContext {expected : List String} {all records : List ReservationRecord}
    (h : Journal.checkContext expected all = .ok records) :
    records = all.filter (·.serviceId ∈ expected) ∧
      records.map (·.serviceId) = sorted expected ∧
      ∀ item ∈ records, item.state = .accepted ∧ ∃ id, item.reservationId = some id := by
  unfold Journal.checkContext at h
  dsimp only at h
  split_ifs at h with hmalformed hunexpected hincomplete hinactive
  cases h
  refine ⟨rfl, not_not.mp hincomplete, fun item hitem => ?_⟩
  have hactive : ¬ (item.state ≠ .accepted ∨ item.reservationId = none) :=
    fun hbad => hinactive ⟨item, hitem, hbad⟩
  rw [not_or, not_not] at hactive
  exact ⟨hactive.1, Option.ne_none_iff_exists'.mp hactive.2⟩

/-- A reading of guarded rows fails, or finds the pairs of the stored response in rows that are
accepted. -/
theorem Guarded.context (h : Guarded j key) {jobUid jobGid : ℤ} {records : List ReservationRecord}
    (hcontext : j.reservationContext key jobUid jobGid = .ok records) :
    ∃ row stored response, j.allocation key = some row ∧ row.state = .accepted ∧
      row.responseJson = some stored ∧ responseFromDict stored = .ok (.reserve response) ∧
      response.decision = .accepted ∧
      records.map (fun item => (item.serviceId, item.reservationId)) =
        response.results.map ServiceResult.pair ∧
      ∀ item ∈ records, ∃ r, j.reservation key item.serviceId = some r ∧ r.state = .accepted ∧
        r.reservationId = item.reservationId ∧ ∃ id, item.reservationId = some id := by
  unfold Journal.reservationContext at hcontext
  cases hrow : j.allocation key with
  | none =>
    rw [hrow] at hcontext
    cases hcontext
  | some row =>
    simp only [hrow] at hcontext
    split_ifs at hcontext with hidentity hreleased haccepted
    have hstate : row.state = .accepted := not_not.mp haccepted
    obtain ⟨stored, response, hstored, hread, hdecision, hservices, hordered, hids⟩ :=
      h row hrow hstate
    obtain ⟨hrecords, hnames, hactive⟩ := records_of_checkContext hcontext
    have hrows (item : ReservationRecord) (hitem : item ∈ records) :
        ∃ r, j.reservation key item.serviceId = some r ∧ r.state = .accepted ∧
          r.reservationId = item.reservationId := by
      have hlisted : item ∈ j.reservations key := by
        rw [hrecords] at hitem
        exact (List.mem_filter.mp hitem).1
      obtain ⟨r, hr, hrstate, hrid⟩ := row_of_mem_reservations hlisted
      exact ⟨r, hr, hrstate.trans (hactive item hitem).1, hrid⟩
    rw [sorted_eq_self hordered, ← hservices] at hnames
    refine ⟨row, stored, response, rfl, hstate, hstored, hread, hdecision, ?_, fun item hitem => ?_⟩
    · -- both lists are the services with the ids of their rows
      have hleft : records.map (fun item => (item.serviceId, item.reservationId)) =
          (records.map (·.serviceId)).map fun s => (s, j.reservedId key s) := by
        rw [List.map_map]
        refine List.map_congr_left fun item hitem => ?_
        obtain ⟨r, hr, -, hid⟩ := hrows item hitem
        simp [Journal.reservedId, hr, hid]
      have hright : response.results.map ServiceResult.pair =
          (response.results.map (·.serviceId)).map fun s => (s, j.reservedId key s) := by
        rw [List.map_map]
        refine List.map_congr_left fun item hitem => ?_
        have hname : item.serviceId ∈ records.map (·.serviceId) := by
          rw [hnames]
          exact List.mem_map_of_mem hitem
        obtain ⟨record, hrecord, hsame⟩ := List.mem_map.mp hname
        obtain ⟨r, hr, hrstate, -⟩ := hrows record hrecord
        rw [hsame] at hr
        have hid := hids item hitem r hr hrstate
        simp [ServiceResult.pair, Journal.reservedId, hr, hid]
      rw [hleft, hright, hnames]
    · obtain ⟨r, hr, hrstate, hid⟩ := hrows item hitem
      exact ⟨r, hr, hrstate, hid, (hactive item hitem).2⟩

end Reading

/-! ### The rows of an allocation during a task -/

/-- The transaction does not write to the rows of the allocation. -/
def Transaction.Spares (key : AllocationKey) : Transaction → Prop
  | .beginAllocation k _ _ _ _ _ | .recordReservation k _ _ | .restoreAcceptedAllocation k _ _
  | .completeAllocation k _ _ | .setAllocationState k _ => k ≠ key
  | _ => True

/-- The transaction does not make a row of the allocation accepted, nor begins to. -/
def Transaction.Harmless (key : AllocationKey) : Transaction → Prop
  | .recordReservation k record _ => k = key → record.state ≠ .accepted
  | .beginAllocation k _ _ _ _ _ | .restoreAcceptedAllocation k _ _ => k ≠ key
  | .completeAllocation k state _ | .setAllocationState k state => k = key → state ≠ .accepted
  | _ => True

def Query.Spares (key : AllocationKey) : Query → Prop
  | .transaction t => t.Spares key
  | .call _ => True

def Query.Harmless (key : AllocationKey) : Query → Prop
  | .transaction t => t.Harmless key
  | .call _ => True

/-- Where a task stands with the rows of an allocation. -/
inductive Progress where
  /-- It has made none of them accepted. -/
  | untouched
  /-- It works on an allocation that is not accepted. -/
  | working
  /-- It has settled the outcome. -/
  | settled

/-- A task works on an allocation once `begin_allocation` has found services missing, and has
settled the outcome with `complete_allocation` or `restore_accepted_allocation`. -/
def allocationDiscipline (key : AllocationKey) : Discipline Query Answer Progress where
  allows
    | .untouched, .transaction (.beginAllocation _ _ _ _ _ _) => True
    | .untouched, q => q.Harmless key
    | .working, .transaction (.setAllocationState k state) => k = key → state ≠ .accepted
    | .working, _ => True
    | .settled, q => q.Spares key
  move
    | .untouched, .transaction (.beginAllocation k _ _ _ _ _), answer =>
      match answer with
      | .ok plan => if k = key ∧ plan.missingServices ≠ [] then .working else .untouched
      | .error _ => .untouched
    | .working, .transaction (.completeAllocation k _ _), answer =>
      match answer with
      | .ok _ => if k = key then .settled else .working
      | .error _ => .working
    | .working, .transaction (.restoreAcceptedAllocation k _ _), answer =>
      match answer with
      | .ok _ => if k = key then .settled else .working
      | .error _ => .working
    | progress, _, _ => progress

/-- What the standing says of the rows. -/
def Progress.Fits (key : AllocationKey) (j : Journal) : Progress → Prop
  | .untouched => Guarded j key
  | .working => ∀ row, j.allocation key = some row → row.state ≠ .accepted
  | .settled => True

section Rows

variable {key : AllocationKey} {j j' : Journal}

/-- A transaction that spares the allocation keeps its rows. -/
lemma Transaction.Spares.sameRows {t : Transaction} (ht : t.Spares key) {result : t.Result}
    (h : t.apply j = .ok (result, j')) : SameRows j j' key := by
  have hwithin (hw : t.Within (fun _ => True) fun k => k ≠ key) : SameRows j j' key := by
    refine ⟨?_, fun s => ?_⟩
    · exact hw.frame h (c := .allocation key) fun hne => hne rfl
    · exact hw.frame h (c := .reservation key s) fun hne => hne rfl
  have hread {α : Type} {value : Except PyError α} {a : α}
      (h : Journal.read value j = .ok (a, j')) : SameRows j j' key := by
    cases value <;> cases h
    exact SameRows.refl j key
  cases t with
  | beginOperation => exact hwithin trivial
  | completeOperation => exact hwithin trivial
  | beginAllocation => exact hwithin ht
  | recordReservation => exact hwithin ht
  | restoreAcceptedAllocation => exact hwithin ht
  | completeAllocation => exact hwithin ht
  | setAllocationState => exact hwithin ht
  | acceptedAllocation => exact hread h
  | reservations => exact hread h
  | reservationContext => exact hread h
  | allocationStatus => exact hread h

/-- A harmless transaction keeps the rows guarded. -/
lemma Guarded.of_harmless (hj : Guarded j key) {t : Transaction} (ht : t.Harmless key)
    {result : t.Result} (h : t.apply j = .ok (result, j')) : Guarded j' key := by
  -- a row of the allocation is written that is not accepted
  have hput {k : AllocationKey} {row : AllocationRow} (hrow : k = key → row.state ≠ .accepted) :
      Guarded (j.putAllocation k row) key := by
    by_cases hk : key = k
    · refine .of_not_accepted fun other hother => ?_
      rw [hk, Journal.allocation_putAllocation_self] at hother
      cases hother
      exact hrow hk.symm
    · exact hj.of_sameRows ⟨by rw [Journal.allocation_putAllocation, if_neg hk], fun s => rfl⟩
  have hspares (hs : t.Spares key) : Guarded j' key := hj.of_sameRows (hs.sameRows h)
  cases t with
  | beginOperation => exact hspares trivial
  | completeOperation => exact hspares trivial
  | beginAllocation => exact hspares ht
  | recordReservation k record diagnostic =>
    cases h
    refine hj.of_rows rfl fun s r hr haccepted => ?_
    rw [Journal.recordReservation, Journal.reservation_putReservation] at hr
    split_ifs at hr with hwritten
    · cases hr
      exact absurd haccepted (ht hwritten.1.symm)
    · exact hr
  | restoreAcceptedAllocation => exact hspares ht
  | completeAllocation k state response =>
    simp only [Transaction.apply, Journal.completeAllocation] at h
    split at h <;> cases h
    exact hput ht
  | setAllocationState k state =>
    simp only [Transaction.apply, Journal.setAllocationState] at h
    split at h <;> cases h
    · exact hj
    · exact hput ht
  | acceptedAllocation => exact hspares trivial
  | reservations => exact hspares trivial
  | reservationContext => exact hspares trivial
  | allocationStatus => exact hspares trivial

/-- An allocation that is not accepted stays so, unless its outcome is settled. -/
lemma Progress.Fits.working {t : Transaction} (hj : Progress.working.Fits key j)
    (ht : (allocationDiscipline key).allows .working (.transaction t)) {result : t.Result}
    (h : t.apply j = .ok (result, j')) :
    ((allocationDiscipline key).move .working (.transaction t) (.ok result)).Fits key j' := by
  have hput {k : AllocationKey} {row : AllocationRow} (hrow : k = key → row.state ≠ .accepted) :
      Progress.working.Fits key (j.putAllocation k row) := by
    intro other hother
    rw [Journal.allocation_putAllocation] at hother
    split_ifs at hother with hk
    · cases hother
      exact hrow hk.symm
    · exact hj other hother
  have hsame (hrow : j'.allocation key = j.allocation key) : Progress.working.Fits key j' := by
    intro other hother
    rw [hrow] at hother
    exact hj other hother
  have hspares (hs : t.Spares key) : Progress.working.Fits key j' :=
    hsame (hs.sameRows h).allocation_eq
  cases t with
  | beginOperation => exact hspares trivial
  | completeOperation => exact hspares trivial
  | beginAllocation =>
    rcases beginAllocation_writes h with ⟨rfl, -⟩ | ⟨row, rfl, hrow⟩
    · exact hj
    · exact hput fun _ => hrow
  | recordReservation k record diagnostic =>
    cases h
    exact hsame rfl
  | restoreAcceptedAllocation k serviceIds response =>
    by_cases hk : k = key
    · simp only [allocationDiscipline, hk, if_true]
      trivial
    · simp only [allocationDiscipline, hk, if_false]
      exact hspares hk
  | completeAllocation k state response =>
    by_cases hk : k = key
    · simp only [allocationDiscipline, hk, if_true]
      trivial
    · simp only [allocationDiscipline, hk, if_false]
      exact hspares hk
  | setAllocationState k state =>
    simp only [Transaction.apply, Journal.setAllocationState] at h
    split at h <;> cases h
    · exact hj
    · exact hput ht
  | acceptedAllocation => exact hspares trivial
  | reservations => exact hspares trivial
  | reservationContext => exact hspares trivial
  | allocationStatus => exact hspares trivial

/-- A harmless transaction keeps the rows guarded; `begin_allocation` does too, or begins the work
on the allocation. -/
lemma Progress.Fits.untouched {t : Transaction} (hj : Guarded j key)
    (ht : (allocationDiscipline key).allows .untouched (.transaction t)) {result : t.Result}
    (h : t.apply j = .ok (result, j')) :
    ((allocationDiscipline key).move .untouched (.transaction t) (.ok result)).Fits key j' := by
  cases t with
  | beginAllocation k jobUid jobGid serviceIds fingerprint reservationFingerprint =>
    rcases beginAllocation_writes h with ⟨rfl, hnone⟩ | ⟨row, rfl, hrow⟩
    · simp only [allocationDiscipline, hnone, ne_eq, not_true, and_false, if_false]
      exact hj
    · simp only [allocationDiscipline]
      by_cases hk : k = key
      · have hnot : ∀ other, (j.putAllocation k row).allocation key = some other →
            other.state ≠ .accepted := by
          intro other hother
          rw [hk, Journal.allocation_putAllocation_self] at hother
          cases hother
          exact hrow
        split_ifs
        · exact hnot
        · exact .of_not_accepted hnot
      · simp only [hk, false_and, if_false]
        have hspares : (Transaction.beginAllocation k jobUid jobGid serviceIds fingerprint
          reservationFingerprint).Spares key := hk
        exact hj.of_sameRows (hspares.sameRows h)
  | _ =>
    refine hj.of_harmless ?_ h
    exact ht

/-- Every allowed question leaves rows that fit the standing. -/
lemma Progress.Fits.step (oracle : Oracle) (w : GatewayWorld) {progress : Progress} {q : Query}
    (hw : progress.Fits key w.state) (hq : (allocationDiscipline key).allows progress q) :
    ((allocationDiscipline key).move progress q (surroundings oracle noFaults q w).1).Fits key
      ((surroundings oracle noFaults).respond q w).2.state := by
  cases q with
  | call c => cases progress <;> exact hw
  | transaction t =>
    cases happly : t.apply w.state with
    | error error =>
      have hanswer : surroundings oracle noFaults (.transaction t) w = (.error error, w.state) := by
        simp only [surroundings, noFaults, happly]
      simp only [Environment.respond, hanswer]
      cases progress with
      | untouched => cases t <;> exact hw
      | working => cases t <;> exact hw
      | settled => trivial
    | ok applied =>
      obtain ⟨result, j'⟩ := applied
      have hanswer : surroundings oracle noFaults (.transaction t) w = (.ok result, j') := by
        simp only [surroundings, noFaults, happly]
      simp only [Environment.respond, hanswer]
      cases progress with
      | untouched => exact .untouched hw hq happly
      | working => exact .working hw hq happly
      | settled => trivial

end Rows

/-! ### The tasks keep to it -/

section Tasks

variable {key : AllocationKey} {progress : Progress} {α β : Type}

/-- The procedure keeps to the discipline and ends as stated. -/
abbrev Proceeds (key : AllocationKey) (Post : Except PyError α → Progress → Prop)
    (progress : Progress) (x : Gateway α) : Prop :=
  Procedure.Follows (allocationDiscipline key) Post progress x

lemma Query.Spares.allows {q : Query} (h : q.Spares key) :
    (allocationDiscipline key).allows progress q := by
  cases q with
  | call c => cases progress <;> trivial
  | transaction t =>
    cases progress with
    | settled => exact h
    | untouched =>
      cases t <;> first
        | trivial
        | exact h
        | exact fun heq => absurd heq h
    | working =>
      cases t <;> first
        | trivial
        | exact fun heq => absurd heq h

lemma Query.Spares.move {q : Query} (h : q.Spares key) (answer : Answer q) :
    (allocationDiscipline key).move progress q answer = progress := by
  cases q with
  | call c => cases progress <;> rfl
  | transaction t =>
    cases progress with
    | settled => cases t <;> rfl
    | untouched =>
      cases t with
      | beginAllocation k jobUid jobGid serviceIds fingerprint reservationFingerprint =>
        have hk : k ≠ key := h
        cases answer with
        | error error => rfl
        | ok plan => simp only [allocationDiscipline, hk, false_and, if_false]
      | _ => rfl
    | working =>
      cases t with
      | completeAllocation k state response =>
        have hk : k ≠ key := h
        cases answer with
        | error error => rfl
        | ok _ => simp only [allocationDiscipline, hk, if_false]
      | restoreAcceptedAllocation k serviceIds response =>
        have hk : k ≠ key := h
        cases answer with
        | error error => rfl
        | ok _ => simp only [allocationDiscipline, hk, if_false]
      | _ => rfl

/-- Statements that write no row of the allocation, and what comes after them. -/
lemma proceeds_spares {Post : Except PyError β → Progress → Prop} {x : Gateway α}
    {f : α → Gateway β} (hx : Procedure.Asks (Query.Spares key) x)
    (hf : ∀ a, Proceeds key Post progress (f a)) (herror : ∀ e, Post (.error e) progress) :
    Proceeds key Post progress (x >>= f) :=
  Procedure.Follows.asks_bind hx (fun _ hq => hq.allows) (fun _ hq answer => hq.move answer) hf
    herror

/-- A procedure that writes no row of the allocation. -/
lemma proceeds_of_spares {x : Gateway α} (hx : Procedure.Asks (Query.Spares key) x) :
    Proceeds key (fun _ _ => True) progress x :=
  (Procedure.Follows.of_asks hx (fun _ hq => hq.allows) fun _ hq answer =>
    hq.move answer).mono fun _ _ _ => trivial

/-- Storing the outcome settles it. -/
lemma proceeds_completeAllocation {Post : Except PyError β → Progress → Prop}
    (state : AllocationState) (response : Json) {f : Unit → Gateway β}
    (hf : ∀ a, Proceeds key Post .settled (f a)) (herror : ∀ e, Post (.error e) .working) :
    Proceeds key Post .working (transact (.completeAllocation key state response) >>= f) := by
  refine Procedure.Follows.bind ⟨trivial, fun answer => ?_⟩
  cases answer with
  | ok a =>
    simp only [allocationDiscipline, if_true]
    exact ⟨fun a _ => hf a, fun e h => nomatch h⟩
  | error error =>
    refine ⟨fun a h => (nomatch h), fun e h => ?_⟩
    cases h
    exact herror error

/-- So does restoring the accepted set. -/
lemma proceeds_restorePlan {request : ReserveRequest} (hkey : request.key = key)
    {Post : Except PyError β → Progress → Prop} (plan : AllocationPlan) {f : Unit → Gateway β}
    (hf : ∀ a, Proceeds key Post .settled (f a)) (herror : ∀ e, Post (.error e) .working) :
    Proceeds key Post .working (restorePlan request plan >>= f) := by
  refine Procedure.Follows.bind ⟨trivial, fun answer => ?_⟩
  cases answer with
  | ok a =>
    simp only [allocationDiscipline, hkey, if_true]
    exact ⟨fun a _ => hf a, fun e h => nomatch h⟩
  | error error =>
    refine ⟨fun a h => (nomatch h), fun e h => ?_⟩
    cases h
    exact herror error

section Reservations

variable (sha256 : Document → String) {request : ReserveRequest} (hkey : request.key = key)
  (senderUid : ℤ)

/-- The attempt at the QPMs is work on the allocation. -/
lemma attemptAsks_working :
    AttemptAsks request fun q => (allocationDiscipline key).allows .working q ∧
      ∀ answer, (allocationDiscipline key).move .working q answer = .working :=
  ⟨fun _ => ⟨trivial, fun _ => rfl⟩, fun _ _ => ⟨trivial, fun _ => rfl⟩,
    fun _ _ => ⟨trivial, fun _ => rfl⟩, fun _ _ => ⟨trivial, fun _ => rfl⟩,
    ⟨fun _ => nofun, fun _ => rfl⟩⟩

include hkey in
/-- After a failed attempt an extension is restored, or the failure is stored. -/
lemma proceeds_recoverAttempt (plan : AllocationPlan) (error : PyError) :
    Proceeds key (fun r _ => ∀ a, r ≠ .ok a) .working
      (recoverAttempt request senderUid plan error) := by
  have hlast {p : Progress} (response : Json) (state : OperationState) :
      Proceeds key (fun r _ => ∀ a, r ≠ .ok a) p (do
        transact (.completeOperation (request.operationKey .reserve senderUid) response state)
        throw error : Gateway ReserveResponse) :=
    proceeds_spares (asks_transact trivial) (fun _ => fun _ h => nomatch h) fun _ _ h => nomatch h
  unfold recoverAttempt journalFailedAttempt
  by_cases hextension : plan.isExtension = true
  · simp only [hextension, if_true, not_true, if_false]
    refine proceeds_restorePlan hkey plan (fun _ => ?_) fun _ _ h => nomatch h
    split_ifs
    · exact hlast _ _
    · exact fun _ h => nomatch h
  · simp only [hextension, if_false, not_false_eq_true, if_true, Bool.false_eq_true]
    split_ifs
    · rw [bind_assoc, hkey]
      exact proceeds_completeAllocation _ _ (fun _ => hlast _ _) fun _ _ h => nomatch h
    · exact fun _ h => nomatch h

include hkey in
/-- The outcome of an extension that was not accepted is settled; any other is still to be stored. -/
lemma proceeds_settleExtension (plan : AllocationPlan) (response : ReserveResponse) :
    Proceeds key (fun r p => ∀ a, r = .ok a →
        (p = .working ∧ (plan.isExtension = false ∨ a.decision = .accepted)) ∨
        (p = .settled ∧ plan.isExtension = true ∧ a.decision ≠ .accepted)) .working
      (settleExtension request plan response) := by
  unfold settleExtension
  by_cases hextension : plan.isExtension = true
  · simp only [hextension, if_true]
    split_ifs with hdecision
    · refine proceeds_spares (asks_decodeReserve _ _) (fun previous => ?_) fun e a h => nomatch h
      intro a ha
      cases ha
      exact .inl ⟨rfl, .inr rfl⟩
    · refine proceeds_restorePlan hkey plan (fun _ => ?_) fun e a h => nomatch h
      intro a ha
      cases ha
      exact .inr ⟨rfl, trivial, hdecision⟩
  · simp only [hextension, if_false, Bool.false_eq_true]
    intro a ha
    cases ha
    exact .inl ⟨rfl, .inl trivial⟩

include hkey in
/-- The outcome is stored if it is not settled yet. -/
lemma proceeds_completeAttempt (plan : AllocationPlan) (response : ReserveResponse)
    {p : Progress}
    (h : (p = .working ∧ (plan.isExtension = false ∨ response.decision = .accepted)) ∨
      (p = .settled ∧ plan.isExtension = true ∧ response.decision ≠ .accepted)) :
    Proceeds key (fun _ _ => True) p (completeAttempt request senderUid plan response) := by
  have hlast {p : Progress} (encoded : Json) (state : OperationState) :
      Proceeds key (fun _ _ => True) p (do
        transact (.completeOperation (request.operationKey .reserve senderUid) encoded state)
        return response : Gateway ReserveResponse) :=
    proceeds_spares (asks_transact trivial) (fun _ => trivial) fun _ => trivial
  have hstate : decisionState response.decision = .accepted ↔ response.decision = .accepted := by
    cases response.decision <;> simp [decisionState]
  unfold completeAttempt
  rcases h with ⟨rfl, hstore⟩ | ⟨rfl, hextension, hdecision⟩
  · have hcondition : ¬ plan.isExtension = true ∨ decisionState response.decision = .accepted := by
      rw [hstate, Bool.not_eq_true]
      exact hstore
    simp only [hcondition, if_true]
    rw [hkey]
    exact proceeds_completeAllocation _ _ (fun _ => hlast _ _) fun _ => trivial
  · have hcondition : ¬ (¬ plan.isExtension = true ∨
        decisionState response.decision = .accepted) := by
      rw [hstate, not_or, not_not]
      exact ⟨hextension, hdecision⟩
    simp only [hcondition, if_false]
    exact hlast _ _

include hkey in
lemma proceeds_attemptReserve (job : VerifiedJob) (plan : AllocationPlan) :
    Proceeds key (fun _ _ => True) .working
      (attemptReserve sha256 request senderUid job plan) := by
  have hattempt : AttemptAsks request fun q => (allocationDiscipline key).allows .working q ∧
      ∀ answer, (allocationDiscipline key).move .working q answer = .working := attemptAsks_working
  have hservices := Procedure.Follows.of_asks (asks_reserveServices sha256 hattempt job
    plan.missingServices (sha256 (reservationDocument request))) (fun _ hq => hq.1) fun _ hq => hq.2
  refine Procedure.Follows.bind (Procedure.Follows.tryCatch (hservices.mono fun r p hp => ?_))
  subst hp
  refine ⟨fun response _ => ⟨fun response _ => ?_, fun _ _ => trivial⟩, fun error _ => ?_⟩
  · refine Procedure.Follows.bind ((proceeds_settleExtension hkey plan response).mono
      fun r p hp => ?_)
    exact ⟨fun response hr => proceeds_completeAttempt hkey senderUid plan response (hp response hr),
      fun _ _ => trivial⟩
  · refine (proceeds_recoverAttempt hkey senderUid plan error).mono fun r p hr => ?_
    exact ⟨fun response h => absurd h (hr response), fun _ _ => trivial⟩

include hkey in
lemma proceeds_beginReserve (job : VerifiedJob) :
    Proceeds key (fun _ _ => True) .untouched (beginReserve sha256 request senderUid job) := by
  refine Procedure.Follows.bind ⟨trivial, fun answer => ?_⟩
  cases answer with
  | error error => exact ⟨fun a h => (nomatch h), fun _ _ => trivial⟩
  | ok plan =>
    refine ⟨fun a ha => ?_, fun _ _ => trivial⟩
    cases ha
    by_cases hmissing : plan.missingServices = []
    · simp only [allocationDiscipline, hmissing, ne_eq, not_true, and_false, if_false, if_true]
      refine proceeds_spares (asks_decodeReserve _ _) (fun response => ?_) fun _ => trivial
      exact proceeds_spares (asks_transact trivial) (fun _ => trivial) fun _ => trivial
    · simp only [allocationDiscipline, hmissing, ne_eq, not_false_eq_true, and_true, hkey, if_true,
        if_false]
      exact proceeds_attemptReserve sha256 hkey senderUid job plan

end Reservations

/-- A handler keeps to the discipline if its body does. -/
lemma Proceeds.answer {body : Gateway α} (h : Proceeds key (fun _ _ => True) progress body)
    (respond : α → Response) (fail : PyError → Response) :
    (do return .ok (← answer body respond fail) :
      Program Query Answer (Except PyError Response)).Follows (allocationDiscipline key)
        (fun _ _ => True) progress := by
  refine Program.Follows.bind (Program.Follows.bind (Program.Follows.mono ?_ h))
  rintro (error | value) progress -
  · trivial
  · trivial

/-- Questions about other allocations and about operations write no row of the allocation. -/
lemma Query.Within.spares {q : Query} {K : OperationKey → Prop} {L : AllocationKey → Prop}
    {V : Prop} (hq : q.Within K L V) (hL : ¬ L key) : q.Spares key := by
  have hne {k : AllocationKey} (hk : L k) : k ≠ key := by
    rintro rfl
    exact hL hk
  cases q with
  | call c => trivial
  | transaction t =>
    cases t <;> first
      | trivial
      | exact hne hq

/-- A release pass makes no row accepted. -/
lemma passAsks_harmless (request : ReleaseRequest) : PassAsks request (Query.Harmless key) := by
  refine ⟨fun _ => trivial, fun _ _ => trivial, fun record outcome diagnostic _ => ?_⟩
  cases outcome <;> exact nofun

/-- The state after a release pass is not accepted. -/
lemma releasedState_ne_accepted (unresolved : ReservationState → Bool)
    (results : List ReleaseResult) : releasedState unresolved results ≠ .accepted := by
  unfold releasedState
  split_ifs <;> exact nofun

/-- A procedure that makes no row of the allocation accepted. -/
lemma proceeds_of_harmless {x : Gateway α} (hx : Procedure.Asks (Query.Harmless key) x) :
    Proceeds key (fun _ _ => True) .untouched x := by
  refine (Procedure.Follows.of_asks hx (fun q hq => ?_) fun q hq answer => ?_).mono
    fun _ _ _ => trivial
  · cases q with
    | call c => trivial
    | transaction t => cases t <;> trivial
  · cases q with
    | call c => rfl
    | transaction t =>
      cases t with
      | beginAllocation k jobUid jobGid serviceIds fingerprint reservationFingerprint =>
        have hk : k ≠ key := hq
        cases answer with
        | error error => rfl
        | ok plan => simp only [allocationDiscipline, hk, false_and, if_false]
      | _ => rfl

/-- Every task keeps to the discipline of every allocation. -/
theorem Task.proceeds (sha256 : Document → String) (task : Task) (key : AllocationKey) :
    (task.program sha256).Follows (allocationDiscipline key) (fun _ _ => True) .untouched := by
  cases task with
  | retry request =>
    have hretry : Procedure.Asks (Query.Harmless key) (retryRelease request) :=
      .bind (asks_transact trivial) fun _ =>
        .bind (asks_releaseAll (passAsks_harmless request) _) fun results =>
          .bind (asks_transact fun _ => releasedState_ne_accepted _ results) fun _ => trivial
    exact Program.Follows.bind (Program.Follows.mono (fun _ _ _ => trivial)
      (proceeds_of_harmless hretry))
  | handle request senderUid =>
    cases request with
    | evaluate request =>
      refine Proceeds.answer (proceeds_of_spares ?_) _ _
      exact (within_evaluateTry (K := fun _ => True) (L := fun _ => False) sha256 senderUid _
        trivial).mono fun q hq => hq.spares id
    | getReservations request =>
      have hlookup : Procedure.Asks (Query.Spares key) (getReservationsTry request senderUid) :=
        .bind ⟨trivial, fun _ => trivial⟩ fun job => .bind ⟨trivial, fun _ => trivial⟩ fun _ =>
          trivial
      exact Proceeds.answer (proceeds_of_spares hlookup) _ _
    | release request =>
      refine Proceeds.answer (proceeds_of_harmless ?_) _ _
      refine .bind (asks_transact trivial) fun prior => ?_
      cases prior with
      | some prior => exact asks_replayRelease prior
      | none =>
        exact .bind (asks_transact trivial) fun _ => .bind ⟨trivial, fun _ => trivial⟩ fun _ =>
          .bind (asks_transact trivial) fun _ =>
            .bind (asks_releaseAll (passAsks_harmless request) _) fun results =>
              .bind (asks_transact fun _ => releasedState_ne_accepted _ results) fun _ =>
                .bind (asks_transact trivial) fun _ => trivial
    | reserve request =>
      by_cases hkey : request.key = key
      · have hverify : Procedure.Asks (Query.Spares key) (verifyReserve request senderUid) :=
          ⟨trivial, fun _ => trivial⟩
        refine Proceeds.answer (proceeds_spares hverify (fun job => ?_) fun _ => trivial) _ _
        refine proceeds_spares (asks_transact trivial) (fun prior => ?_) fun _ => trivial
        cases prior with
        | some prior => exact proceeds_of_spares (asks_replayReserve trivial prior)
        | none => exact proceeds_beginReserve sha256 hkey senderUid job
      · refine Proceeds.answer (proceeds_of_spares ?_) _ _
        exact (within_reserveTry (K := fun _ => True) (L := fun k => k = request.key) sha256
          senderUid request trivial rfl).mono fun q hq => hq.spares fun h => hkey h.symm

end Tasks

/-! ### The response that was stored last -/

/-- The response an event stores for the allocation as accepted. -/
def Event.storedAccepted (key : AllocationKey) : Event → Option Json
  | ⟨.transaction (.completeAllocation k .accepted response), .ok _⟩ =>
    if k = key then some response else none
  | ⟨.transaction (.restoreAcceptedAllocation k _ response), .ok _⟩ =>
    if k = key then some response else none
  | _ => none

/-- The response that was stored last for the allocation as accepted. -/
def lastAccepted (key : AllocationKey) (history : List Event) : Option Json :=
  (history.filterMap (Event.storedAccepted key)).getLast?

/-- An accepted allocation has the response that was stored last. -/
def KeepsLast (key : AllocationKey) (history : List Event) (j : Journal) : Prop :=
  ∀ row, j.allocation key = some row → row.state = .accepted →
    row.responseJson = lastAccepted key history

section History

variable {key : AllocationKey} {history : List Event} {j j' : Journal}

lemma lastAccepted_concat (event : Event) :
    lastAccepted key (history ++ [event]) =
      (event.storedAccepted key).or (lastAccepted key history) := by
  cases hstored : event.storedAccepted key with
  | none => simp [lastAccepted, hstored]
  | some response => simp [lastAccepted, hstored]

/-- An event that stores nothing and leaves the allocation's row alone. -/
lemma KeepsLast.of_eq (h : KeepsLast key history j) {event : Event}
    (hevent : event.storedAccepted key = none)
    (hrow : j'.allocation key = j.allocation key) : KeepsLast key (history ++ [event]) j' := by
  intro row hsome hstate
  rw [hrow] at hsome
  rw [lastAccepted_concat, hevent, Option.none_or]
  exact h row hsome hstate

/-- Every transaction keeps the response of an accepted allocation, or stores another one. -/
lemma KeepsLast.transaction (h : KeepsLast key history j) {t : Transaction}
    (ht : ∀ state, t = .setAllocationState key state → state ≠ .accepted) {result : t.Result}
    (happly : t.apply j = .ok (result, j')) :
    KeepsLast key (history ++ [⟨.transaction t, .ok result⟩]) j' := by
  have hput {k : AllocationKey} {row : AllocationRow} {event : Event}
      (hevent : k ≠ key → event.storedAccepted key = none)
      (hrow : k = key → row.state = .accepted → event.storedAccepted key = row.responseJson ∧
        row.responseJson.isSome = true) :
      KeepsLast key (history ++ [event]) (j.putAllocation k row) := by
    by_cases hk : k = key
    · intro other hother hstate
      rw [hk, Journal.allocation_putAllocation_self] at hother
      cases hother
      obtain ⟨hstored, hsome⟩ := hrow hk hstate
      rw [lastAccepted_concat, hstored, Option.or_of_isSome hsome]
    · refine h.of_eq (hevent hk) ?_
      rw [Journal.allocation_putAllocation, if_neg (Ne.symm hk)]
  have hspares (hs : t.Spares key)
      (hevent : Event.storedAccepted key ⟨.transaction t, .ok result⟩ = none) :
      KeepsLast key (history ++ [⟨.transaction t, .ok result⟩]) j' :=
    h.of_eq hevent (hs.sameRows happly).allocation_eq
  cases t with
  | beginOperation => exact hspares trivial rfl
  | completeOperation => exact hspares trivial rfl
  | beginAllocation =>
    rcases beginAllocation_writes happly with ⟨rfl, -⟩ | ⟨row, rfl, hrow⟩
    · exact h.of_eq rfl rfl
    · exact hput (fun _ => rfl) fun _ hstate => absurd hstate hrow
  | recordReservation k record diagnostic =>
    cases happly
    exact h.of_eq rfl rfl
  | restoreAcceptedAllocation k serviceIds response =>
    simp only [Transaction.apply, Journal.restoreAcceptedAllocation] at happly
    split at happly <;> cases happly
    refine hput (fun hk => if_neg hk) fun hk _ => ⟨?_, rfl⟩
    exact if_pos hk
  | completeAllocation k state response =>
    simp only [Transaction.apply, Journal.completeAllocation] at happly
    split at happly <;> cases happly
    refine hput (fun hk => ?_) fun hk hstate => ?_
    · cases state <;> first | rfl | exact if_neg hk
    · have haccepted : state = .accepted := hstate
      subst haccepted
      exact ⟨if_pos hk, rfl⟩
  | setAllocationState k state =>
    simp only [Transaction.apply, Journal.setAllocationState] at happly
    split at happly <;> cases happly
    · exact h.of_eq rfl rfl
    · refine hput (fun _ => rfl) fun hk hstate => ?_
      subst hk
      exact absurd hstate (ht state rfl)
  | acceptedAllocation => exact hspares trivial rfl
  | reservations => exact hspares trivial rfl
  | reservationContext => exact hspares trivial rfl
  | allocationStatus => exact hspares trivial rfl

/-- Every allowed question does. -/
lemma KeepsLast.step {past : List Event} (oracle : Oracle) (w : GatewayWorld) {progress : Progress}
    {q : Query} (hq : (allocationDiscipline key).allows progress q)
    (h : KeepsLast key (past ++ w.trace) w.state) :
    KeepsLast key (past ++ ((surroundings oracle noFaults).respond q w).2.trace)
      ((surroundings oracle noFaults).respond q w).2.state := by
  simp only [Environment.respond, ← List.append_assoc]
  cases q with
  | call c => exact h.of_eq rfl rfl
  | transaction t =>
    cases happly : t.apply w.state with
    | error error =>
      have hanswer : surroundings oracle noFaults (.transaction t) w = (.error error, w.state) := by
        simp only [surroundings, noFaults, happly]
      rw [hanswer]
      refine h.of_eq ?_ rfl
      cases t with
      | completeAllocation k state response => cases state <;> rfl
      | _ => rfl
    | ok applied =>
      obtain ⟨result, j'⟩ := applied
      have hanswer : surroundings oracle noFaults (.transaction t) w = (.ok result, j') := by
        simp only [surroundings, noFaults, happly]
      rw [hanswer]
      refine h.transaction (fun state heq => ?_) happly
      subst heq
      cases progress with
      | untouched => exact hq rfl
      | working => exact hq rfl
      | settled => exact absurd rfl hq

end History

/-! ### Every point of a run -/

section Points

variable {sha256 : Document → String}

/-- At every point of a task that is run from a reachable journal, the rows of every allocation are
guarded, and an accepted allocation has the response that was stored last. -/
theorem guarded_upTo {j : Journal} (hj : Reachable sha256 j) {past : List Event}
    {key : AllocationKey} (hpast : KeepsLast key past j) (step : Step) (n : ℕ) :
    Guarded (step.upTo sha256 j n).2.state key ∧
      KeepsLast key (past ++ (step.upTo sha256 j n).2.trace) (step.upTo sha256 j n).2.state := by
  obtain ⟨progress, hfollows, hfits, hkeeps⟩ := (step.task.proceeds sha256 key).runFor
    (fun (w : GatewayWorld) progress =>
      progress.Fits key w.state ∧ KeepsLast key (past ++ w.trace) w.state)
    (fun w progress q hw hq => ⟨hw.1.step step.oracle w hq, hw.2.step step.oracle w hq⟩)
    (w := ⟨j, []⟩)
    ⟨(sound_of_reachable hj key).guarded, by rw [List.append_nil]; exact hpast⟩ n
  refine ⟨?_, hkeeps⟩
  cases progress with
  | untouched => exact hfits
  | working => exact .of_not_accepted hfits
  | settled =>
    -- the rest of the task writes no row of the allocation
    have hasks : (step.upTo sha256 j n).1.Asks (Query.Spares key) :=
      hfollows.asks fun q hq answer => Query.Spares.move hq answer
    have hrest : SameRows (step.upTo sha256 j n).2.state
        ((step.upTo sha256 j n).1.run (surroundings step.oracle noFaults)
          (step.upTo sha256 j n).2).2.state key := by
      refine Program.run_invariant (R := fun j j' => SameRows j j' key)
        (fun j => SameRows.refl j key) (fun h h' => h.trans h') _ (fun q w hq => ?_) hasks _
      cases q with
      | call c => exact SameRows.refl _ _
      | transaction t =>
        simp only [surroundings, noFaults]
        cases happly : t.apply w.state with
        | error error => exact SameRows.refl _ _
        | ok applied => exact Transaction.Spares.sameRows hq happly
    rw [Step.run_upTo] at hrest
    exact (sound_of_reachable (hj.step step) key).guarded.of_sameRows hrest.symm

/-- After every run an accepted allocation has the response that was stored last. -/
lemma keepsLast_runTrace (steps : List Step) (key : AllocationKey) :
    KeepsLast key (runTrace sha256 Journal.empty steps) (journalAfter sha256 Journal.empty steps) := by
  induction steps using List.reverseRecOn with
  | nil => exact fun row hrow => nomatch hrow
  | append_singleton steps step ih =>
    obtain ⟨n, hn⟩ := step.exists_upTo sha256 (journalAfter sha256 Journal.empty steps)
    have hlast := (guarded_upTo ⟨steps, rfl⟩ ih step n).2
    rw [hn] at hlast
    rw [runTrace_concat, journalAfter_concat]
    exact hlast

end Points

/-- An exception of a lookup is answered with an error. -/
lemma lookupError_isError (requestId : ℤ) (error : PyError) :
    ∃ response, lookupError requestId error = .error response := by
  unfold lookupError
  split
  · exact ⟨_, rfl⟩
  · exact ⟨_, rfl⟩
  · exact ⟨_, rfl⟩
  · exact ⟨_, rfl⟩
  · exact ⟨_, rfl⟩
  · split_ifs
    · exact ⟨_, rfl⟩
    · exact ⟨_, rfl⟩

/-- How a lookup is answered: it is not verified, `reservation_context` refuses, or the records it
found are listed. -/
lemma serve_lookup_cases (sha256 : Document → String) (j : Journal)
    (request : GetReservationsRequest) (senderUid : ℤ) (oracle : Oracle) :
    (∃ failure : VerifierFailure, oracle 0 (.verifyLookup request senderUid) = .error failure ∧
      (serve sha256 j (.getReservations request) senderUid oracle).1 =
        lookupError request.requestId failure.error) ∨
    (∃ (job : VerifiedJob) (error : PyError),
      j.reservationContext ⟨request.clusterName, job.canonicalJobId⟩ job.uid job.gid =
        .error error ∧
      (serve sha256 j (.getReservations request) senderUid oracle).1 =
        lookupError request.requestId error) ∨
    ∃ (job : VerifiedJob) (records : List ReservationRecord),
      oracle 0 (.verifyLookup request senderUid) = .ok job ∧
      j.reservationContext ⟨request.clusterName, job.canonicalJobId⟩ job.uid job.gid =
        .ok records ∧
      (serve sha256 j (.getReservations request) senderUid oracle).1 = .getReservations
        ⟨request.requestId, job.canonicalJobId, records.filterMap fun item =>
          item.reservationId.map fun id => ⟨item.serviceId, id⟩⟩ := by
  have hverify := exec_invoke oracle noFaults ⟨j, []⟩ (.verifyLookup request senderUid)
    (Except.mapError VerifierFailure.error)
  rw [serve, handle, getReservations, run_answer]
  unfold getReservationsTry verifyLookup
  cases hjob : oracle 0 (.verifyLookup request senderUid) with
  | error failure =>
    rw [List.length_nil, hjob] at hverify
    rw [Procedure.exec_bind_error hverify]
    exact .inl ⟨failure, rfl, rfl⟩
  | ok job =>
    rw [List.length_nil, hjob, List.nil_append] at hverify
    rw [Procedure.exec_bind_ok hverify]
    dsimp only
    have htransact := exec_transact_noFaults oracle
      ⟨j, [⟨.call (.verifyLookup request senderUid), .ok job⟩]⟩
      (.reservationContext ⟨request.clusterName, job.canonicalJobId⟩ job.uid job.gid)
    cases hcontext : j.reservationContext ⟨request.clusterName, job.canonicalJobId⟩ job.uid
      job.gid with
    | error error =>
      rw [Transaction.apply, hcontext] at htransact
      rw [Procedure.exec_bind_error htransact]
      exact .inr (.inl ⟨job, error, hcontext, rfl⟩)
    | ok records =>
      rw [Transaction.apply, hcontext] at htransact
      rw [Procedure.exec_bind_ok htransact]
      exact .inr (.inr ⟨job, records, rfl, hcontext, rfl⟩)

/-- A lookup is answered with an error, or with the records that were found. -/
lemma serve_lookup (sha256 : Document → String) (j : Journal) (request : GetReservationsRequest)
    (senderUid : ℤ) (oracle : Oracle) :
    (∃ error, (serve sha256 j (.getReservations request) senderUid oracle).1 = .error error) ∨
      ∃ (job : VerifiedJob) (records : List ReservationRecord),
        oracle 0 (.verifyLookup request senderUid) = .ok job ∧
        j.reservationContext ⟨request.clusterName, job.canonicalJobId⟩ job.uid job.gid =
          .ok records ∧
        (serve sha256 j (.getReservations request) senderUid oracle).1 = .getReservations
          ⟨request.requestId, job.canonicalJobId, records.filterMap fun item =>
            item.reservationId.map fun id => ⟨item.serviceId, id⟩⟩ := by
  rcases serve_lookup_cases sha256 j request senderUid oracle with
    ⟨failure, -, hresponse⟩ | ⟨job, error, -, hresponse⟩ | hfound
  · rw [hresponse]
    exact .inl (lookupError_isError _ _)
  · rw [hresponse]
    exact .inl (lookupError_isError _ _)
  · exact .inr hfound

/-- The listed reservations are the services and ids of the records, when each has an id. -/
lemma pairs_of_records {records : List ReservationRecord}
    (h : ∀ item ∈ records, ∃ id, item.reservationId = some id) :
    (records.filterMap fun item => item.reservationId.map fun id =>
      (⟨item.serviceId, id⟩ : Reservation)).map
        (fun item => (item.serviceId, some item.reservationId)) =
      records.map fun item => (item.serviceId, item.reservationId) := by
  rw [List.map_filterMap]
  rw [← List.filterMap_eq_map]
  refine List.filterMap_congr fun item hitem => ?_
  obtain ⟨id, hid⟩ := h item hitem
  simp [hid]

/-- At every point of every step of a run, a lookup is answered with an error, or with exactly the
services and ids of the accepted response that was stored last for the allocation, and the rows of
all of them are still accepted. -/
theorem lookup_finds_last_accepted (sha256 : Document → String) (steps : List Step) (step : Step)
    (n : ℕ) (request : GetReservationsRequest) (senderUid : ℤ) (oracle : Oracle) :
    (∃ error, (serve sha256 (step.upTo sha256 (journalAfter sha256 Journal.empty steps) n).2.state
      (.getReservations request) senderUid oracle).1 = .error error) ∨
    ∃ response stored accepted,
      (serve sha256 (step.upTo sha256 (journalAfter sha256 Journal.empty steps) n).2.state
        (.getReservations request) senderUid oracle).1 = .getReservations response ∧
      lastAccepted ⟨request.clusterName, response.canonicalJobId⟩
        (runTrace sha256 Journal.empty steps ++
          (step.upTo sha256 (journalAfter sha256 Journal.empty steps) n).2.trace) = some stored ∧
      responseFromDict stored = .ok (.reserve accepted) ∧ accepted.decision = .accepted ∧
      response.reservations.map (fun item => (item.serviceId, some item.reservationId)) =
        accepted.results.map ServiceResult.pair ∧
      ∀ item ∈ response.reservations, ∃ row,
        (step.upTo sha256 (journalAfter sha256 Journal.empty steps) n).2.state.reservation
          ⟨request.clusterName, response.canonicalJobId⟩ item.serviceId = some row ∧
        row.state = .accepted ∧ row.reservationId = some item.reservationId := by
  rcases serve_lookup sha256 (step.upTo sha256 (journalAfter sha256 Journal.empty steps) n).2.state
    request senderUid oracle with herror | ⟨job, records, -, hcontext, hresponse⟩
  · exact .inl herror
  refine .inr ?_
  obtain ⟨hguarded, hkeeps⟩ := guarded_upTo ⟨steps, rfl⟩ (keepsLast_runTrace steps _) step n
  obtain ⟨row, stored, accepted, hrow, hstate, hstored, hread, hdecision, hpairs, hrecords⟩ :=
    hguarded.context hcontext
  have hids := pairs_of_records fun item hitem => by
    obtain ⟨-, -, -, -, hid⟩ := hrecords item hitem
    exact hid
  refine ⟨_, stored, accepted, hresponse, ?_, hread, hdecision, hids.trans hpairs, ?_⟩
  · rw [← hkeeps row hrow hstate, hstored]
  · intro item hitem
    obtain ⟨record, hrecord, hitem⟩ := List.mem_filterMap.mp hitem
    obtain ⟨id, hid, rfl⟩ := Option.map_eq_some_iff.mp hitem
    obtain ⟨r, hr, hrstate, hrid, -⟩ := hrecords record hrecord
    exact ⟨r, hr, hrstate, hrid.trans hid⟩

/-- A lookup finds the first service once it was reserved, and still does while the operation of an
extension is begun; from `begin_allocation` on it is refused. -/
example : [2, 3].map (fun n => (serve sampleDigest
      ((Step.handle (.reserve (sampleReserve 2 ["qpm-b"])) (by decide) 1000 obliging).upTo
        sampleDigest sampleAccepted n).2.state
      (.getReservations ⟨9, "cluster", 7, 1000, 1000⟩) 1000 obliging).1) =
    [.getReservations ⟨9, 7, [⟨"qpm-a", 5⟩]⟩,
      errorResponse .allocationNotAccepted 9 "allocation state is 'extending', not accepted"] := by
  decide

end QfwSlurm
