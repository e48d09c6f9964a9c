import QfwSlurm.Gateway.AllOrNothing
import QfwSlurm.Gateway.Run

/-!
# The rows that attempts and passes leave

Which reservation rows an allocation has after an attempt or after a release pass, service by
service.  An attempt contacts no service twice and a pass visits no row twice, so every service has
one row to speak of.
-/

namespace QfwSlurm

open Interaction

/-! ### Attempts -/

/-- The row of a grant that stands. -/
def Grant.row (fingerprint : String) (g : Grant) : ReservationRow :=
  (answeredRecord g.serviceId g.qpm g.reply fingerprint).row none

@[simp] lemma Grant.row_state (fingerprint : String) (g : Grant) :
    (g.row fingerprint).state = .accepted := by
  simp [Grant.row, answeredRecord, ReservationRecord.row, g.accepted,
    AdmissionDecision.recordState]

@[simp] lemma Grant.row_reservationId (fingerprint : String) (g : Grant) :
    (g.row fingerprint).reservationId = some g.id := g.reservationId_eq

@[simp] lemma Grant.row_requestFingerprint (fingerprint : String) (g : Grant) :
    (g.row fingerprint).requestFingerprint = some fingerprint := rfl

/-- The row of a grant that was rolled back. -/
def Undo.row (fingerprint : String) (u : Undo) : ReservationRow :=
  (u.record fingerprint).row u.diagnostic

@[simp] lemma Undo.row_state (fingerprint : String) (u : Undo) :
    (u.row fingerprint).state = u.state := rfl

@[simp] lemma Undo.row_reservationId (fingerprint : String) (u : Undo) :
    (u.row fingerprint).reservationId = some u.grant.id := rfl

/-- The row a contact leaves for its service, if it writes one. -/
def Contact.row (fingerprint serviceId : String) : Contact → Option ReservationRow
  | unresolved _ => none
  | unmarked _ _ => none
  | unanswered qpm _ => some ((pendingRecord serviceId qpm fingerprint).row none)
  | unrecorded qpm _ _ => some ((pendingRecord serviceId qpm fingerprint).row none)
  | answered qpm reply => some ((answeredRecord serviceId qpm reply fingerprint).row none)

lemma written_contact (fingerprint serviceId : String) (c : Contact) :
    written (c.writes fingerprint serviceId) serviceId = c.row fingerprint serviceId := by
  cases c <;> simp [Contact.writes, Contact.row, written]

lemma fst_of_mem_contact {fingerprint serviceId : String} {c : Contact} :
    ∀ write ∈ c.writes fingerprint serviceId, write.1 = serviceId := by
  cases c <;> simp [Contact.writes]

/-- A contact that ended an attempt leaves no accepted row and no reservation id. -/
lemma Contact.row_of_not_accepts {c : Contact} (hc : c.accepts = false) {fingerprint serviceId : String}
    {row : ReservationRow} (h : c.row fingerprint serviceId = some row) :
    row.reservationId = none ∧
      (row.state = .pending ∨ row.state = .delayed ∨ row.state = .rejected) := by
  cases c with
  | answered qpm reply =>
    cases h
    have hdecision : reply.val.decision ≠ .accepted := by simpa [Contact.accepts] using hc
    have hreserved := reply.property
    cases hd : reply.val.decision with
    | accepted => exact absurd hd hdecision
    | delayed =>
      simp only [Admission.Reserved, hd] at hreserved
      simp [answeredRecord, ReservationRecord.row, hreserved, hd, AdmissionDecision.recordState]
    | rejected =>
      simp only [Admission.Reserved, hd] at hreserved
      simp [answeredRecord, ReservationRecord.row, hreserved, hd, AdmissionDecision.recordState]
  | unresolved failure => cases h
  | unmarked qpm fault => cases h
  | unanswered qpm failure =>
    cases h
    exact ⟨rfl, .inl rfl⟩
  | unrecorded qpm reply fault =>
    cases h
    exact ⟨rfl, .inl rfl⟩

section Attempts

variable (sha256 : Document → String) (request : ReserveRequest) {a : Attempt}
  {serviceIds : List String}

/-- The rows of an attempt, where the fingerprint of its rows is that of the request. -/
abbrev Attempt.rows (a : Attempt) (s : String) : Option ReservationRow :=
  written (a.writes sha256 request (request.reservationFingerprint sha256)) s

lemma fst_of_mem_grantWrites (fingerprint : String) (grants : List Grant) :
    ∀ g ∈ grants, ∀ write ∈ g.contact.writes fingerprint g.serviceId, write.1 = g.serviceId :=
  fun _ _ => fst_of_mem_contact

/-- The row of a granted service in an accepted attempt. -/
lemma Attempt.rows_accepted (hfor : a.For serviceIds) (hnodup : serviceIds.Nodup)
    (hstop : a.stop = none) {g : Grant} (hg : g ∈ a.grants) :
    a.rows sha256 request g.serviceId = some (g.row (request.reservationFingerprint sha256)) := by
  simp only [Attempt.For, hstop] at hfor
  simp only [Attempt.rows, Attempt.writes, hstop, Option.elim_none, List.append_nil, grantWrites]
  rw [written_flatMap (k := Grant.serviceId) (fst_of_mem_grantWrites _ _)
    (by rw [hfor]; exact hnodup) hg, written_contact]
  rfl

/-- Without failing journal calls, every grant of a stopped attempt was recorded. -/
lemma Attempt.unrecordedGrant_eq_nil (hfaultless : a.Faultless) {stop : Stop}
    (hstop : a.stop = some stop) : stop.contact.unrecordedGrant stop.serviceId = [] := by
  have hcontact := (hfaultless stop hstop).1
  cases hc : stop.contact with
  | unrecorded qpm reply fault =>
    rw [hc] at hcontact
    exact hcontact.elim
  | _ => rfl

/-- Without failing journal calls, a stopped attempt gives back exactly its grants. -/
lemma Attempt.undos_eq (hfor : a.For serviceIds) (hfaultless : a.Faultless) {stop : Stop}
    (hstop : a.stop = some stop) : stop.rollback.undos.map Undo.grant = a.grants.reverse := by
  simp only [Attempt.For, hstop] at hfor
  rw [hfor.2.2.2, Attempt.unrecordedGrant_eq_nil hfaultless hstop, List.append_nil]

/-- The reservations that were granted during an attempt. -/
lemma Attempt.granted_events (hfor : a.For serviceIds) (hfaultless : a.Faultless)
    (job : VerifiedJob) (fingerprint : String) :
    granted (a.events sha256 request job fingerprint) = a.grants.map Grant.pair := by
  rw [Attempt.events, granted_append, granted_grantEvents]
  cases hstop : a.stop with
  | none => simp [granted]
  | some stop =>
    have hfor := hfor
    simp only [Attempt.For, hstop] at hfor
    rw [Option.elim_some, Stop.events, granted_append,
      granted_of_not_accepts request job fingerprint hfor.2.1,
      Attempt.unrecordedGrant_eq_nil hfaultless hstop,
      (granted_rollback (sha256 (reservationDocument request)) stop.rollback request.key).2.2.1]
    simp

/-- The reservations that were passed to `adapter.release` during an attempt. -/
lemma Attempt.returned_events (job : VerifiedJob) (fingerprint : String) :
    returned (a.events sha256 request job fingerprint) =
      a.stop.elim [] fun stop =>
        (stop.rollback.undos.map Undo.grant).map fun g => (g.serviceId, some g.id) := by
  rw [Attempt.events, returned_append, returned_grantEvents, List.nil_append]
  cases a.stop with
  | none => rfl
  | some stop =>
    rw [Option.elim_some, Stop.events, returned_append, returned_contact, returned_rollback]
    rfl

lemma fst_of_mem_undos {fingerprint : String} {undos : List Undo} :
    ∀ u ∈ undos, ∀ write ∈ u.writes fingerprint, write.1 = u.grant.serviceId := by
  intro u _ write hwrite
  unfold Undo.writes at hwrite
  split at hwrite
  · rw [List.mem_singleton.mp hwrite]
  · cases hwrite

/-- The services of the undone grants are distinct, and the service that ended the attempt is not
among them. -/
lemma Attempt.nodup_undos (hfor : a.For serviceIds) (hfaultless : a.Faultless)
    (hnodup : serviceIds.Nodup) {stop : Stop} (hstop : a.stop = some stop) :
    (stop.rollback.undos.map fun u => u.grant.serviceId).Nodup ∧
      stop.serviceId ∉ stop.rollback.undos.map fun u => u.grant.serviceId := by
  have hundos := Attempt.undos_eq hfor hfaultless hstop
  have hservices : (stop.rollback.undos.map fun u => u.grant.serviceId) =
      (a.grants.map Grant.serviceId).reverse := by
    rw [← List.map_reverse, ← hundos, List.map_map]
    rfl
  simp only [Attempt.For, hstop] at hfor
  obtain ⟨⟨rest, hrest⟩, -⟩ := hfor
  rw [hrest, List.nodup_append] at hnodup
  rw [hservices, List.nodup_reverse, List.mem_reverse]
  exact ⟨hnodup.1, fun hmem => hnodup.2.2 _ hmem _ List.mem_cons_self rfl⟩

/-- The row of a grant that was rolled back. -/
lemma Attempt.rows_undone (hfor : a.For serviceIds) (hfaultless : a.Faultless)
    (hnodup : serviceIds.Nodup) {stop : Stop} (hstop : a.stop = some stop) {u : Undo}
    (hu : u ∈ stop.rollback.undos) :
    a.rows sha256 request u.grant.serviceId =
      some (u.row (request.reservationFingerprint sha256)) := by
  obtain ⟨hundos, -⟩ := Attempt.nodup_undos hfor hfaultless hnodup hstop
  have hwrite := (hfaultless stop hstop).2.2 u hu
  have hrow : written (stop.rollback.undos.flatMap
      (Undo.writes · (sha256 (reservationDocument request)))) u.grant.serviceId =
      some (u.row (request.reservationFingerprint sha256)) := by
    rw [written_flatMap (k := fun u => u.grant.serviceId) fst_of_mem_undos hundos hu]
    simp [Undo.writes, hwrite, written_singleton, Undo.row]
  simp only [Attempt.rows, Attempt.writes, hstop, Option.elim_some]
  rw [written_append, written_append, hrow]
  rfl

/-- The row of the service that ended an attempt. -/
lemma Attempt.rows_stop (hfor : a.For serviceIds) (hfaultless : a.Faultless)
    (hnodup : serviceIds.Nodup) {stop : Stop} (hstop : a.stop = some stop) :
    a.rows sha256 request stop.serviceId =
      stop.contact.row (request.reservationFingerprint sha256) stop.serviceId := by
  obtain ⟨-, hundone⟩ := Attempt.nodup_undos hfor hfaultless hnodup hstop
  simp only [Attempt.For, hstop] at hfor
  obtain ⟨⟨rest, hrest⟩, -⟩ := hfor
  have hgranted : stop.serviceId ∉ a.grants.map Grant.serviceId := by
    rw [hrest, List.nodup_append] at hnodup
    exact fun hmem => hnodup.2.2 _ hmem _ List.mem_cons_self rfl
  simp only [Attempt.rows, Attempt.writes, hstop, Option.elim_some]
  rw [written_append, written_append, written_contact,
    written_flatMap_none fst_of_mem_undos hundone, grantWrites,
    written_flatMap_none (fst_of_mem_grantWrites _ _) hgranted, Option.none_or, Option.or_none]

/-- An attempt writes to the services it contacted alone. -/
lemma Attempt.rows_eq_none (hfor : a.For serviceIds) (hfaultless : a.Faultless) {s : String}
    (hgranted : s ∉ a.grants.map Grant.serviceId)
    (hstopped : ∀ stop, a.stop = some stop → s ≠ stop.serviceId) :
    a.rows sha256 request s = none := by
  have hgrants : written (grantWrites (request.reservationFingerprint sha256) a.grants) s = none :=
    written_flatMap_none (fst_of_mem_grantWrites _ _) hgranted
  cases hstop : a.stop with
  | none =>
    simp only [Attempt.rows, Attempt.writes, hstop, Option.elim_none, List.append_nil]
    exact hgrants
  | some stop =>
    have hundos := Attempt.undos_eq hfor hfaultless hstop
    have hundone : s ∉ stop.rollback.undos.map fun u => u.grant.serviceId := by
      intro hmem
      obtain ⟨u, hu, rfl⟩ := List.mem_map.mp hmem
      have hgrant : u.grant ∈ a.grants.reverse := hundos ▸ List.mem_map_of_mem hu
      exact hgranted (List.mem_map_of_mem (List.mem_reverse.mp hgrant))
    have hcontact : written (stop.contact.writes (request.reservationFingerprint sha256)
        stop.serviceId) s = none :=
      written_eq_none fun write hwrite heq =>
        hstopped stop hstop (heq ▸ fst_of_mem_contact write hwrite)
    simp only [Attempt.rows, Attempt.writes, hstop, Option.elim_some]
    rw [written_append, written_append, hgrants, hcontact,
      written_flatMap_none fst_of_mem_undos hundone]
    rfl

/-- The services an attempt was granted or stopped at are among those it was made for. -/
lemma Attempt.mem_of_for (hfor : a.For serviceIds) :
    (∀ g ∈ a.grants, g.serviceId ∈ serviceIds) ∧
      ∀ stop, a.stop = some stop → stop.serviceId ∈ serviceIds := by
  cases hstop : a.stop with
  | none =>
    simp only [Attempt.For, hstop] at hfor
    refine ⟨fun g hg => hfor ▸ List.mem_map_of_mem hg, by rintro _ ⟨⟩⟩
  | some stop =>
    simp only [Attempt.For, hstop] at hfor
    obtain ⟨⟨rest, rfl⟩, -⟩ := hfor
    refine ⟨fun g hg => List.mem_append_left _ (List.mem_map_of_mem hg), ?_⟩
    rintro _ ⟨⟩
    exact List.mem_append_right _ List.mem_cons_self

/-- A service the attempt was not made for keeps its row. -/
lemma Attempt.rows_of_not_mem (hfor : a.For serviceIds) (hfaultless : a.Faultless) {s : String}
    (hs : s ∉ serviceIds) : a.rows sha256 request s = none := by
  obtain ⟨hgrants, hstops⟩ := Attempt.mem_of_for hfor
  refine Attempt.rows_eq_none sha256 request hfor hfaultless (fun hmem => hs ?_)
    fun stop hstop heq => hs (heq ▸ hstops stop hstop)
  obtain ⟨g, hg, rfl⟩ := List.mem_map.mp hmem
  exact hgrants g hg

/-- The three kinds of rows an attempt writes. -/
lemma Attempt.rows_cases (hfor : a.For serviceIds) (hfaultless : a.Faultless)
    (hnodup : serviceIds.Nodup) {s : String} {row : ReservationRow}
    (h : a.rows sha256 request s = some row) :
    (a.stop = none ∧ ∃ g ∈ a.grants, g.serviceId = s ∧
      row = g.row (request.reservationFingerprint sha256)) ∨
    ∃ stop, a.stop = some stop ∧
      ((∃ u ∈ stop.rollback.undos, u.grant.serviceId = s ∧
        row = u.row (request.reservationFingerprint sha256)) ∨
      s = stop.serviceId ∧
        stop.contact.row (request.reservationFingerprint sha256) stop.serviceId = some row) := by
  by_cases hgranted : s ∈ a.grants.map Grant.serviceId
  · obtain ⟨g, hg, rfl⟩ := List.mem_map.mp hgranted
    cases hstop : a.stop with
    | none =>
      rw [Attempt.rows_accepted sha256 request hfor hnodup hstop hg] at h
      exact .inl ⟨rfl, g, hg, rfl, (Option.some.inj h).symm⟩
    | some stop =>
      have hundos := Attempt.undos_eq hfor hfaultless hstop
      have hmem : g ∈ stop.rollback.undos.map Undo.grant := hundos ▸ List.mem_reverse.mpr hg
      obtain ⟨u, hu, rfl⟩ := List.mem_map.mp hmem
      rw [Attempt.rows_undone sha256 request hfor hfaultless hnodup hstop hu] at h
      exact .inr ⟨stop, rfl, .inl ⟨u, hu, rfl, (Option.some.inj h).symm⟩⟩
  · by_cases hstopped : ∀ stop, a.stop = some stop → s ≠ stop.serviceId
    · rw [Attempt.rows_eq_none sha256 request hfor hfaultless hgranted hstopped] at h
      cases h
    · push Not at hstopped
      obtain ⟨stop, hstop, rfl⟩ := hstopped
      rw [Attempt.rows_stop sha256 request hfor hfaultless hnodup hstop] at h
      exact .inr ⟨stop, hstop, .inr ⟨rfl, h⟩⟩

/-- A stopped attempt leaves no accepted row. -/
lemma Attempt.state_ne_accepted (hfor : a.For serviceIds) (hfaultless : a.Faultless)
    (hnodup : serviceIds.Nodup) {stop : Stop} (hstop : a.stop = some stop) {s : String}
    {row : ReservationRow} (h : a.rows sha256 request s = some row) : row.state ≠ .accepted := by
  rcases Attempt.rows_cases sha256 request hfor hfaultless hnodup h with
    ⟨hnone, -⟩ | ⟨other, hother, ⟨u, -, -, rfl⟩ | ⟨-, hrow⟩⟩
  · exact nomatch hstop.symm.trans hnone
  · simp only [Undo.row_state, Undo.state]
    split <;> simp
  · simp only [Attempt.For, hother] at hfor
    rcases (Contact.row_of_not_accepts hfor.2.1 hrow).2 with hs | hs | hs <;> simp [hs]

end Attempts

/-! ### Passes -/

section Passes

variable {j : Journal} {key : AllocationKey} {visits : List Visit}

/-- A visit writes to the service of its row alone. -/
lemma fst_of_mem_visits : ∀ v ∈ visits, ∀ write ∈ v.writes, write.1 = v.record.serviceId := by
  intro v _ write hwrite
  unfold Visit.writes at hwrite
  split at hwrite
  · cases hwrite
  · rw [List.mem_singleton.mp hwrite]

/-- No service is visited twice. -/
lemma Passes.nodup (h : Passes (j.reservations key) visits) :
    (visits.map fun v => v.record.serviceId).Nodup := by
  have hservices : (visits.map fun v => v.record.serviceId) =
      ((j.reservations key).filter (·.reservationId ≠ none)).map (·.serviceId) := by
    rw [← h.1, List.map_map]
    rfl
  rw [hservices]
  exact (Journal.nodup_reservations j key).sublist (List.filter_sublist.map _)

/-- The row a pass leaves where it disposes of a row. -/
def ReservationRow.disposed (row : ReservationRow) (disposal : Disposal) : ReservationRow :=
  { row with
    state := disposal.outcome.1.journalState
    diagnostic := disposal.outcome.2 }

/-- The row of a visited service after the pass. -/
lemma Passes.written_visit (h : Passes (j.reservations key) visits) {v : Visit} (hv : v ∈ visits)
    {row : ReservationRow} (hrow : v.record = row.record v.record.serviceId) :
    written (visits.flatMap Visit.writes) v.record.serviceId =
      v.disposal.map row.disposed := by
  rw [written_flatMap (k := fun v => v.record.serviceId) fst_of_mem_visits h.nodup hv]
  unfold Visit.writes
  cases v.disposal with
  | none => rfl
  | some disposal =>
    rw [written_singleton, if_pos rfl, hrow]
    rfl

/-- What a pass does with the row of a service. -/
lemma Passes.cases (h : Passes (j.reservations key) visits) (s : String) :
    (j.reservation key s = none ∧ written (visits.flatMap Visit.writes) s = none) ∨
    (∃ row, j.reservation key s = some row ∧ row.reservationId = none ∧
      written (visits.flatMap Visit.writes) s = none) ∨
    ∃ row, j.reservation key s = some row ∧ row.reservationId ≠ none ∧
      ∃ v ∈ visits, v.record = row.record s ∧ v.Sound ∧
        written (visits.flatMap Visit.writes) s = v.disposal.map row.disposed := by
  have hmem (v : Visit) (hv : v ∈ visits) : ∃ row,
      j.reservation key v.record.serviceId = some row ∧
        row.record v.record.serviceId = v.record ∧ row.reservationId ≠ none := by
    have hrecord : v.record ∈ (j.reservations key).filter (·.reservationId ≠ none) :=
      h.1 ▸ List.mem_map_of_mem hv
    obtain ⟨hin, hid⟩ := List.mem_filter.mp hrecord
    obtain ⟨row, hrow, heq⟩ := Journal.mem_reservations.mp hin
    refine ⟨row, hrow, heq, ?_⟩
    rw [← heq] at hid
    exact of_decide_eq_true hid
  have hunvisited (hnone : ∀ row, j.reservation key s = some row → row.reservationId = none) :
      written (visits.flatMap Visit.writes) s = none := by
    refine written_flatMap_none fst_of_mem_visits fun hs => ?_
    obtain ⟨v, hv, rfl⟩ := List.mem_map.mp hs
    obtain ⟨row, hrow, -, hid⟩ := hmem v hv
    exact hid (hnone row hrow)
  cases hrow : j.reservation key s with
  | none => exact .inl ⟨rfl, hunvisited fun row h => nomatch hrow.symm.trans h⟩
  | some row =>
    by_cases hid : row.reservationId = none
    · refine .inr (.inl ⟨row, rfl, hid, hunvisited fun other hother => ?_⟩)
      cases hrow.symm.trans hother
      exact hid
    · refine .inr (.inr ⟨row, rfl, hid, ?_⟩)
      have hin : row.record s ∈ (j.reservations key).filter (·.reservationId ≠ none) :=
        List.mem_filter.mpr ⟨Journal.mem_reservations.mpr ⟨row, hrow, rfl⟩, decide_eq_true hid⟩
      rw [← h.1] at hin
      obtain ⟨v, hv, hrecord⟩ := List.mem_map.mp hin
      have hservice : v.record.serviceId = s := by rw [hrecord]; rfl
      refine ⟨v, hv, hrecord, h.2 v hv, ?_⟩
      rw [← hservice]
      exact h.written_visit hv (by rw [hservice, hrecord])

/-- A pass never makes a row accepted. -/
lemma Disposal.journalState_ne_accepted (disposal : Disposal) :
    disposal.outcome.1.journalState ≠ .accepted := by
  cases h : disposal.outcome.1 <;> simp [ReleaseOutcome.journalState]

end Passes

end QfwSlurm
