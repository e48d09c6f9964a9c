import QfwSlurm.Gateway.Lookups
import QfwSlurm.Gateway.Outcomes
import QfwSlurm.Native.Admission

/-!
# What is on record for an allocation

The reservations of an accepted allocation that are on record are those of its accepted rows, with
their ids.  A lookup finds them (`onRecord_of_context`), and so does an accepted answer to a reserve
request, unless it repeats a stored one (`onRecord_of_answers`).
-/

namespace QfwSlurm

open Wire Native

/-- The reservations of an accepted allocation of a user that are on record: those of the accepted
rows. -/
structure Journal.OnRecord (j : Journal) (key : AllocationKey) (jobUid jobGid : ℤ)
    (pairs : List (String × ℕ)) : Prop where
  allocation : ∃ row, j.allocation key = some row ∧ row.state = .accepted ∧
    (row.jobUid = jobUid ∧ row.jobGid = jobGid) ∧ (pairs.map Prod.fst).Perm row.serviceSet
  rows : ∀ s id, (s, id) ∈ pairs ↔ ∃ row, j.reservation key s = some row ∧
    row.state = .accepted ∧ row.reservationId = some (id : ℤ)

section Rows

variable {j : Journal} {key : AllocationKey} {jobUid jobGid : ℤ} {pairs : List (String × ℕ)}

/-- A list of services and ids is on record when it has the accepted rows, and each of its ids is
there and not negative. -/
lemma Journal.OnRecord.of_items {row : AllocationRow} (hrow : j.allocation key = some row)
    (hstate : row.state = .accepted) (hidentity : row.jobUid = jobUid ∧ row.jobGid = jobGid)
    (items : List (String × Option ℤ))
    (hpairs : pairs.map (fun pair => (pair.1, some (pair.2 : ℤ))) = items)
    (hservices : (items.map Prod.fst).Perm row.serviceSet)
    (hitems : ∀ s id, (s, some id) ∈ items ↔ ∃ r, j.reservation key s = some r ∧
      r.state = .accepted ∧ r.reservationId = some id) :
    j.OnRecord key jobUid jobGid pairs := by
  subst hpairs
  constructor
  · refine ⟨row, hrow, hstate, hidentity, ?_⟩
    rwa [List.map_map] at hservices
  · intro s id
    have hinjective : Function.Injective fun pair : String × ℕ => (pair.1, some (pair.2 : ℤ)) := by
      rintro ⟨s, n⟩ ⟨s', n'⟩ h
      obtain ⟨hs, hn⟩ := Prod.mk.inj h
      exact Prod.ext hs (Int.ofNat.inj (Option.some.inj hn))
    rw [← hitems, ← List.mem_map_of_injective hinjective]

end Rows

/-! ### Lookups -/

/-- The reservations of a lookup, as the client reads them. -/
def GetReservationsResponse.pairs (response : GetReservationsResponse) : List (String × ℕ) :=
  response.reservations.map fun item => (item.serviceId, item.reservationId.toNat)

section Lookups

variable {j : Journal} {key : AllocationKey} {jobUid jobGid : ℤ} {records : List ReservationRecord}

/-- An accepted row is among the records of the allocation. -/
lemma mem_records_of_checkContext {expected : List String} {all : List ReservationRecord}
    (h : Journal.checkContext expected all = .ok records) {item : ReservationRecord}
    (hitem : item ∈ all) (hstate : item.state = .accepted) : item ∈ records := by
  obtain ⟨hrecords, -, -⟩ := records_of_checkContext h
  unfold Journal.checkContext at h
  dsimp only at h
  split_ifs at h with hmalformed hunexpected
  rw [hrecords]
  refine List.mem_filter.mpr ⟨hitem, decide_eq_true ?_⟩
  by_contra hnot
  exact hunexpected ⟨item, hitem, hstate, hnot⟩

/-- What `reservation_context` returns is what is on record. -/
lemma onRecord_of_context (h : j.reservationContext key jobUid jobGid = .ok records)
    {response : GetReservationsResponse}
    (hresponse : response.reservations = records.filterMap fun item =>
      item.reservationId.map fun id => ⟨item.serviceId, id⟩)
    (hpositive : ∀ item ∈ response.reservations, 0 < item.reservationId) :
    j.OnRecord key jobUid jobGid response.pairs := by
  unfold Journal.reservationContext at h
  cases hrow : j.allocation key with
  | none =>
    rw [hrow] at h
    cases h
  | some row =>
  rw [hrow] at h
  dsimp only at h
  split_ifs at h with hidentity hreleased haccepted
  push Not at hidentity
  obtain ⟨hrecords, hnames, hactive⟩ := records_of_checkContext h
  have hrecorded := pairs_of_records fun item hitem => (hactive item hitem).2
  rw [← hresponse] at hrecorded
  refine .of_items hrow (not_not.mp haccepted) hidentity
    (records.map fun item => (item.serviceId, item.reservationId)) ?_ ?_ fun s id => ?_
  · rw [← hrecorded, GetReservationsResponse.pairs, List.map_map]
    refine List.map_congr_left fun item hitem => ?_
    simp [Int.toNat_of_nonneg (hpositive item hitem).le]
  · rw [List.map_map]
    refine (List.Perm.of_eq ?_).trans (sorted_perm row.serviceSet)
    exact hnames
  · constructor
    · intro hmem
      obtain ⟨record, hrecord, hsame⟩ := List.mem_map.mp hmem
      obtain ⟨rfl, hid⟩ := Prod.mk.inj hsame
      obtain ⟨r, hr, hstate, hrid⟩ :=
        row_of_mem_reservations (List.mem_filter.mp (hrecords ▸ hrecord)).1
      exact ⟨r, hr, hstate.trans (hactive record hrecord).1, hrid.trans hid⟩
    · rintro ⟨r, hr, hstate, hid⟩
      have hlisted : r.record s ∈ j.reservations key := Journal.mem_reservations.mpr ⟨r, hr, rfl⟩
      exact List.mem_map.mpr
        ⟨r.record s, mem_records_of_checkContext h hlisted hstate, Prod.ext rfl hid⟩

end Lookups

/-! ### Answers to reserve requests -/

section Answers

variable {j : Journal} {request : ReserveRequest} {response : ReserveResponse}

/-- What an accepted allocation answers with is what is on record. -/
lemma onRecord_of_answers (hsound : Sound j request.key) (h : j.Answers request response)
    (hids : ∀ item ∈ response.results, ∃ id, item.reservationId = some id ∧ 0 < id) :
    j.OnRecord request.key request.jobUid request.jobGid
      (response.results.map ServiceResult.tuple) := by
  obtain ⟨row, stored, hrow, hstate, hidentity, hread, hsame⟩ := h
  have hset := hsound.accepted row hrow hstate
  obtain ⟨value, other, hvalue, hother, -, hpairs⟩ := hset.storedResponse
  obtain rfl : other = stored := Option.some.inj (hother.symm.trans (hvalue ▸ hread))
  rw [hsame] at hpairs
  refine .of_items hrow hstate hidentity
    (row.serviceSet.map fun s => (s, j.reservedId request.key s)) ?_ ?_ fun s id => ?_
  · rw [← hpairs, List.map_map]
    refine List.map_congr_left fun item hitem => ?_
    obtain ⟨id, hid, hpositive⟩ := hids item hitem
    simp [ServiceResult.tuple, ServiceResult.pair, nativeNumber, hid, hpositive.le]
  · rw [List.map_map]
    exact List.Perm.of_eq (List.map_id _)
  · constructor
    · intro hmem
      obtain ⟨s', hs, heq⟩ := List.mem_map.mp hmem
      obtain ⟨rfl, hid⟩ := Prod.mk.inj heq
      obtain ⟨r, id', hr, haccepted, hrid⟩ := hset.accepted s' hs
      refine ⟨r, hr, haccepted, ?_⟩
      rw [← hid, Journal.reservedId, hr]
      rfl
    · rintro ⟨r, hr, haccepted, hid⟩
      refine List.mem_map.mpr ⟨s, hset.others s r hr haccepted, ?_⟩
      rw [Journal.reservedId, hr]
      exact Prod.ext rfl hid

end Answers

end QfwSlurm
