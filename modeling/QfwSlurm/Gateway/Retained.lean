import QfwSlurm.Interaction.Holdings
import QfwSlurm.Gateway.Provenance
import QfwSlurm.Gateway.Vouched

/-!
# What the journal retains

A reservation is held from the `adapter.reserve` call that granted it until an `adapter.release`
call for it returns a confirming status.  `heldFor` is the account of what is held for an
allocation, read off the trace alone, and `Retained` says that the journal still knows all of it:
the row of the service carries the id, is not journalled as gone, and the allocation is listed as
nonterminal.

`Step.Safe` is the condition on the answers under which a step loses nothing.  It names the ways
in which the handlers can lose a reservation: a rollback that takes an unconfirmed status for a
release, a reserve request that asks for a service whose last release failed, a rejection that
closes an allocation with such a service, and a release that finds a restarted QPM.
-/

namespace QfwSlurm

open Interaction

/-! ### What is held -/

/-- The reservation that an event grants to the allocation. -/
def Event.grantedFor (key : AllocationKey) : Event → Option (String × ℤ)
  | ⟨.call (.reserve binding request job), answer⟩ =>
    if request.key = key then Event.granted ⟨.call (.reserve binding request job), answer⟩
    else none
  | _ => none

/-- What is held for the allocation after a trace, from what was held before. -/
def heldFor (key : AllocationKey) (held : List (String × ℤ)) (events : List Event) :
    List (String × ℤ) :=
  heldAfter (Event.grantedFor key) Event.confirmed held events

/-- A row of a reservation that a release pass still has to dispose of. -/
def ReservationRow.Outstanding (row : ReservationRow) : Prop :=
  row.reservationId ≠ none ∧ row.state.isTerminal = false

/-- The journal has the reservation in a row that is not gone, and lists its allocation. -/
structure Journal.Retains (j : Journal) (key : AllocationKey) (pair : String × ℤ) : Prop where
  row : ∃ row, j.reservation key pair.1 = some row ∧ row.reservationId = some pair.2 ∧
    row.state ≠ .released ∧ row.state ≠ .rolledBack
  listed : ∃ row, (key, row) ∈ j.nonterminalAllocations

/-- What the journal has to say of what is held, so that every step can go on from it. -/
structure Covers (j : Journal) (key : AllocationKey) (held : List (String × ℤ)) : Prop where
  outstanding : ∀ pair ∈ held, ∃ row, j.reservation key pair.1 = some row ∧
    row.reservationId = some pair.2 ∧ row.state.isTerminal = false
  listed : held ≠ [] → ∃ row, j.allocation key = some row ∧ row.state ≠ .released ∧
    row.state ≠ .rejected

lemma Covers.nil (j : Journal) (key : AllocationKey) : Covers j key [] :=
  ⟨fun _ h => absurd h List.not_mem_nil, fun h => absurd rfl h⟩

lemma Covers.retains {j : Journal} {key : AllocationKey} {held : List (String × ℤ)}
    (h : Covers j key held) {pair : String × ℤ} (hpair : pair ∈ held) : j.Retains key pair := by
  obtain ⟨row, hrow, hid, hstate⟩ := h.outstanding pair hpair
  obtain ⟨allocation, hallocation, hlisted⟩ := h.listed (List.ne_nil_of_mem hpair)
  refine ⟨⟨row, hrow, hid, ?_, ?_⟩, allocation,
    Journal.mem_nonterminalAllocations.mpr ⟨hallocation, hlisted⟩⟩
  · intro hreleased
    rw [hreleased] at hstate
    cases hstate
  · intro hrolledBack
    rw [hrolledBack] at hstate
    cases hstate

/-- Less is covered by the same rows. -/
lemma Covers.mono {j j' : Journal} {key : AllocationKey} {held held' : List (String × ℤ)}
    (h : Covers j key held) (hrows : SameRows j j' key) (hsub : held' ⊆ held) :
    Covers j' key held' := by
  refine ⟨fun pair hpair => ?_, fun hne => ?_⟩
  · rw [hrows.reservation_eq]
    exact h.outstanding pair (hsub hpair)
  · rw [hrows.allocation_eq]
    exact h.listed fun hnil => hne (List.subset_nil.mp (hnil ▸ hsub))

/-! ### The account of a trace -/

section Account

variable (key : AllocationKey) (held : List (String × ℤ)) {events : List Event}

/-- The account reads the calls to the adapter alone. -/
lemma heldFor_adapterCalls (events : List Event) :
    heldFor key held (adapterCalls events) = heldFor key held events := by
  refine heldAfter_filter _ _ ?_ held events
  rintro ⟨t | c, answer⟩ hevent
  · exact ⟨rfl, rfl⟩
  · cases c <;> first | exact ⟨rfl, rfl⟩ | cases hevent

lemma grantedFor_eq_none {event : Event} (h : ¬ event.ReservesFor key) :
    event.grantedFor key = none := by
  obtain ⟨t | c, answer⟩ := event
  · rfl
  · cases c with
    | reserve binding request job => exact if_neg h
    | _ => rfl

lemma granted_of_grantedFor {event : Event} {pair : String × ℤ}
    (h : event.grantedFor key = some pair) : event.granted = some pair := by
  obtain ⟨t | c, answer⟩ := event
  · cases h
  · cases c with
    | reserve binding request job =>
      rw [Event.grantedFor] at h
      split_ifs at h
      exact h
    | _ => cases h

/-- Where nothing is granted for the allocation, what was confirmed goes and the rest stays. -/
lemma mem_heldFor_iff (h : ∀ event ∈ events, ¬ event.ReservesFor key) {pair : String × ℤ} :
    pair ∈ heldFor key held events ↔ pair ∈ held ∧ pair ∉ confirmed events := by
  have hnone : events.filterMap (Event.grantedFor key) = [] :=
    List.filterMap_eq_nil_iff.mpr fun event hevent => grantedFor_eq_none key (h event hevent)
  exact mem_heldAfter_of_no_grant _ _ hnone

/-- What is held was held before or granted since. -/
lemma mem_heldFor {pair : String × ℤ} (h : pair ∈ heldFor key held events) :
    pair ∈ held ∨ pair ∈ granted events := by
  refine (mem_heldAfter _ _ h).imp_right fun hgranted => ?_
  obtain ⟨event, hevent, hpair⟩ := List.mem_filterMap.mp hgranted
  exact List.mem_filterMap.mpr ⟨event, hevent, granted_of_grantedFor key hpair⟩

/-- What is held after events that end without a grant was held or granted before, and was not
given back in the end. -/
lemma mem_heldFor_append {more : List Event} (hmore : ∀ event ∈ more, ¬ event.ReservesFor key)
    {pair : String × ℤ} (h : pair ∈ heldFor key held (events ++ more)) :
    (pair ∈ held ∨ pair ∈ granted events) ∧ pair ∉ confirmed more := by
  rw [heldFor, heldAfter_append, ← heldFor, ← heldFor, mem_heldFor_iff key _ hmore] at h
  exact ⟨mem_heldFor key held h.1, h.2⟩

end Account

/-! ### What a step must not do -/

/-- A failed step of the release of a reservation: its QPM is not found, or does not confirm. -/
def Event.refusesRelease : Event → Bool
  | ⟨.call (.resolve _), .error _⟩ => true
  | ⟨.call (.release _ _ _), .error _⟩ => true
  | ⟨.call (.release _ _ _), .ok reply⟩ => ¬ reply.confirms
  | _ => false

/-- What the answers to a reserve request have to be for the journal to lose nothing. -/
structure SafeReserve (j : Journal) (request : ReserveRequest) (events : List Event) : Prop where
  /-- A release call of the rollback that returned has a confirming status. -/
  confirms : RepliesConfirm events
  /-- No service is asked whose row is of a reservation that was not disposed of. -/
  vacant : ∀ s ∈ asked events, ∀ row, j.reservation request.key s = some row → ¬ row.Outstanding
  /-- A new set that is rejected and rolled back finds nothing outstanding. -/
  settled : (∀ row, j.allocation request.key = some row → row.state = .accepted →
      row.responseJson = none) →
    (∃ s, (s, .rejected) ∈ decided events) → (∀ event ∈ events, event.refusesRelease = false) →
    NothingLeft request.key j

/-- What the answers to a release request have to be: if nothing fails, every QPM is the incarnation
that granted the reservation. -/
def SafeRelease (j : Journal) (key : AllocationKey) (events : List Event) : Prop :=
  (∀ event ∈ events, event.refusesRelease = false) →
    ∀ s row, j.reservation key s = some row → row.Outstanding →
      ∀ qpm : Incarnation, (⟨.call (.resolve s), .ok qpm⟩ : Event) ∈ events →
        some qpm.runtimeId = row.qpmRuntimeId

/-- The condition on a step, as far as it is about the allocation. -/
def Step.Safe (sha256 : Document → String) (key : AllocationKey) (j : Journal) : Step → Prop
  | .handle (.reserve request) valid senderUid oracle => request.key = key →
    SafeReserve j request
      ((Step.handle (.reserve request) valid senderUid oracle).trace sha256 j)
  | .handle (.release request) valid senderUid oracle => request.key = key →
    SafeRelease j key ((Step.handle (.release request) valid senderUid oracle).trace sha256 j)
  | _ => True

lemma isAdapter_of_refusesRelease {event : Event} (h : event.refusesRelease = true) :
    event.isAdapter = true := by
  obtain ⟨t | c, answer⟩ := event
  · cases h
  · cases c <;> first | rfl | cases h

/-- The condition reads the calls to the adapter alone. -/
lemma safeReserve_adapterCalls {j : Journal} {request : ReserveRequest} {events : List Event} :
    SafeReserve j request (adapterCalls events) ↔ SafeReserve j request events := by
  have hrefuses : (∀ event ∈ adapterCalls events, event.refusesRelease = false) ↔
      ∀ event ∈ events, event.refusesRelease = false := by
    refine ⟨fun h event hevent => ?_, fun h event hevent => h event (List.mem_of_mem_filter hevent)⟩
    by_contra hrefuses
    have htrue := Bool.eq_true_of_not_eq_false hrefuses
    exact hrefuses (h event (List.mem_filter.mpr ⟨hevent, isAdapter_of_refusesRelease htrue⟩))
  have hconfirms : RepliesConfirm (adapterCalls events) ↔ RepliesConfirm events := by
    refine ⟨fun h event hevent => ?_, fun h event hevent => h event (List.mem_of_mem_filter hevent)⟩
    obtain ⟨t | c, answer⟩ := event
    · rfl
    · cases c with
      | release binding id reason => exact h _ (List.mem_filter.mpr ⟨hevent, rfl⟩)
      | _ => rfl
  constructor
  · intro h
    refine ⟨hconfirms.mp h.confirms, ?_, ?_⟩
    · simpa only [asked_adapterCalls] using h.vacant
    · simpa only [decided_adapterCalls, hrefuses] using h.settled
  · intro h
    refine ⟨hconfirms.mpr h.confirms, ?_, ?_⟩
    · simpa only [asked_adapterCalls] using h.vacant
    · simpa only [decided_adapterCalls, hrefuses] using h.settled

/-! ### Attempts -/

section Attempts

variable {sha256 : Document → String} {request : ReserveRequest} {job : VerifiedJob} {a : Attempt}
  {serviceIds : List String} {j j' : Journal} {held : List (String × ℤ)}

/-- The events of an attempt for a request, with the fingerprint of its rows. -/
abbrev Attempt.askedEvents (sha256 : Document → String) (request : ReserveRequest)
    (job : VerifiedJob) (a : Attempt) : List Event :=
  a.events sha256 request job (request.reservationFingerprint sha256)

/-- A rollback asks no QPM for a reservation. -/
lemma not_reservesFor_rollback (r : Rollback) (key other : AllocationKey) (fingerprint : String) :
    ∀ event ∈ r.events key fingerprint, ¬ event.ReservesFor other := by
  intro event hevent hreserves
  rcases List.mem_cons.mp hevent with rfl | hevent
  · exact hreserves
  · obtain ⟨u, -, hevent⟩ := List.mem_flatMap.mp hevent
    rcases List.mem_cons.mp hevent with rfl | hevent
    · exact hreserves
    · rw [List.mem_singleton.mp hevent] at hreserves
      exact hreserves

/-- The confirmed releases of a rollback are those that returned. -/
lemma mem_confirmed_rollback {r : Rollback} {key : AllocationKey} {fingerprint : String} {u : Undo}
    (hu : u ∈ r.undos) {reply : ReleaseReply} (hanswer : u.answer = .ok reply)
    (hconfirms : RepliesConfirm (r.events key fingerprint)) :
    u.grant.pair ∈ confirmed (r.events key fingerprint) := by
  have hevent : (⟨.call (.release u.grant.binding (some u.grant.id) 1), .ok reply⟩ : Event) ∈
      r.events key fingerprint := by
    refine List.mem_cons_of_mem _ (List.mem_flatMap.mpr ⟨u, hu, ?_⟩)
    rw [Undo.events, hanswer]
    exact List.mem_cons_self
  have hreply : reply.confirms := by
    have hobjects := hconfirms _ hevent
    simpa [Event.objects] using hobjects
  refine List.mem_filterMap.mpr ⟨_, hevent, ?_⟩
  rw [Event.confirmed, if_pos hreply]
  rfl

/-- What is held after an attempt was held before, or is a grant of an accepted attempt, or one
whose release raised in the rollback. -/
lemma Attempt.held_cases (hfor : a.For serviceIds) (hfaultless : a.Faultless)
    (hconfirms : RepliesConfirm (a.askedEvents sha256 request job)) {key : AllocationKey}
    {pair : String × ℤ} (h : pair ∈ heldFor key held (a.askedEvents sha256 request job)) :
    pair ∈ held ∨ (a.stop = none ∧ ∃ g ∈ a.grants, g.pair = pair) ∨
      ∃ stop, a.stop = some stop ∧ ∃ u ∈ stop.rollback.undos, u.grant.pair = pair ∧
        ∃ failure, u.answer = .error failure := by
  cases hstop : a.stop with
  | none =>
    refine (mem_heldFor key held h).imp_right fun hgranted => .inl ⟨rfl, ?_⟩
    rw [Attempt.granted_events sha256 request hfor hfaultless] at hgranted
    exact List.mem_map.mp hgranted
  | some stop =>
    -- the rollback comes last and grants nothing
    have hgrants := Attempt.granted_events sha256 request hfor hfaultless job
      (request.reservationFingerprint sha256)
    have hevents : a.askedEvents sha256 request job =
        (grantEvents request job (request.reservationFingerprint sha256) a.grants ++
          stop.contact.events request job (request.reservationFingerprint sha256)
            stop.serviceId) ++
        stop.rollback.events request.key (sha256 (reservationDocument request)) := by
      rw [Attempt.askedEvents, Attempt.events, hstop, Option.elim_some, Stop.events,
        List.append_assoc]
    rw [hevents] at h hconfirms
    obtain ⟨hfirst, hnot⟩ := mem_heldFor_append key held (not_reservesFor_rollback _ _ _ _) h
    refine hfirst.imp_right fun hgranted => .inr ⟨stop, rfl, ?_⟩
    rw [← Attempt.askedEvents, hevents, granted_append,
      (granted_rollback _ stop.rollback request.key).2.2.1, List.append_nil] at hgrants
    rw [hgrants] at hgranted
    obtain ⟨g, hg, rfl⟩ := List.mem_map.mp hgranted
    have hundos := Attempt.undos_eq hfor hfaultless hstop
    obtain ⟨u, hu, rfl⟩ := List.mem_map.mp (hundos ▸ List.mem_reverse.mpr hg :
      g ∈ stop.rollback.undos.map Undo.grant)
    refine ⟨u, hu, rfl, ?_⟩
    cases hanswer : u.answer with
    | error failure => exact ⟨failure, rfl⟩
    | ok reply =>
      have hrollback : RepliesConfirm
          (stop.rollback.events request.key (sha256 (reservationDocument request))) :=
        fun event hevent => hconfirms event (List.mem_append_right _ hevent)
      exact absurd (mem_confirmed_rollback hu hanswer hrollback) hnot

/-- A service is asked before an attempt leaves a row for it. -/
lemma Attempt.mem_asked (hfor : a.For serviceIds) (hfaultless : a.Faultless)
    (hnodup : serviceIds.Nodup) {s : String} {row : ReservationRow}
    (h : a.rows sha256 request s = some row) : s ∈ asked (a.askedEvents sha256 request job) := by
  have hgrant (g : Grant) (hg : g ∈ a.grants) :
      g.serviceId ∈ asked (a.askedEvents sha256 request job) := by
    rw [Attempt.askedEvents, Attempt.events, asked_append, asked_grantEvents]
    exact List.mem_append_left _ (List.mem_map_of_mem hg)
  rcases Attempt.rows_cases sha256 request hfor hfaultless hnodup h with
    ⟨-, g, hg, rfl, -⟩ | ⟨stop, hstop, ⟨u, hu, rfl, -⟩ | ⟨rfl, hrow⟩⟩
  · exact hgrant g hg
  · have hundos := Attempt.undos_eq hfor hfaultless hstop
    have hmem : u.grant ∈ a.grants.reverse := hundos ▸ List.mem_map_of_mem hu
    exact hgrant u.grant (List.mem_reverse.mp hmem)
  · rw [Attempt.askedEvents, Attempt.events, hstop, Option.elim_some, Stop.events, asked_append,
      asked_append]
    refine List.mem_append_right _ (List.mem_append_left _ ?_)
    cases hcontact : stop.contact with
    | unresolved failure =>
      rw [hcontact] at hrow
      cases hrow
    | unmarked qpm fault =>
      rw [hcontact] at hrow
      cases hrow
    | _ => exact List.mem_cons_self

/-- After an attempt, every reservation that is held has an outstanding row. -/
lemma Attempt.outstanding (hfor : a.For serviceIds) (hfaultless : a.Faultless)
    (hnodup : serviceIds.Nodup) (hsafe : SafeReserve j request (a.askedEvents sha256 request job))
    (hheld : ∀ pair ∈ held, ∃ row, j.reservation request.key pair.1 = some row ∧
      row.reservationId = some pair.2 ∧ row.state.isTerminal = false)
    (hrows : ∀ s, j'.reservation request.key s =
      (a.rows sha256 request s).or (j.reservation request.key s)) :
    ∀ pair ∈ heldFor request.key held (a.askedEvents sha256 request job),
      ∃ row, j'.reservation request.key pair.1 = some row ∧ row.reservationId = some pair.2 ∧
        row.state.isTerminal = false := by
  intro pair hpair
  rcases Attempt.held_cases hfor hfaultless hsafe.confirms hpair with
    hbefore | ⟨hstop, g, hg, rfl⟩ | ⟨stop, hstop, u, hu, rfl, failure, hanswer⟩
  · -- the row of a reservation that is held is not written, as its service is not asked
    obtain ⟨row, hrow, hid, hstate⟩ := hheld pair hbefore
    refine ⟨row, ?_, hid, hstate⟩
    cases hwritten : a.rows sha256 request pair.1 with
    | none => rw [hrows, hwritten, Option.none_or, hrow]
    | some other =>
      have hasked : pair.1 ∈ asked (a.askedEvents sha256 request job) :=
        Attempt.mem_asked hfor hfaultless hnodup hwritten
      refine absurd ⟨?_, hstate⟩ (hsafe.vacant pair.1 hasked row hrow)
      rw [hid]
      exact Option.some_ne_none _
  · refine ⟨g.row (request.reservationFingerprint sha256), ?_, g.row_reservationId _, ?_⟩
    · rw [hrows]
      exact (congrArg (Option.or · _)
        (Attempt.rows_accepted sha256 request hfor hnodup hstop hg)).trans rfl
    · rw [Grant.row_state]
      rfl
  · refine ⟨u.row (request.reservationFingerprint sha256), ?_, u.row_reservationId _, ?_⟩
    · rw [hrows]
      exact (congrArg (Option.or · _)
        (Attempt.rows_undone sha256 request hfor hfaultless hnodup hstop hu)).trans rfl
    · rw [Undo.row_state, Undo.state, hanswer]
      rfl

/-- What a rejected attempt shows: a QPM rejected, every grant was released, and nothing failed. -/
lemma Attempt.rejected (hconfirms : RepliesConfirm (a.askedEvents sha256 request job))
    {response : ReserveResponse}
    (hresult : a.result request.requestId = .ok response)
    (hdecision : response.decision = .rejected) :
    ∃ stop, a.stop = some stop ∧ (∀ u ∈ stop.rollback.undos, ∃ reply, u.answer = .ok reply) ∧
      (∃ s, (s, .rejected) ∈ decided (a.askedEvents sha256 request job)) ∧
      ∀ event ∈ a.askedEvents sha256 request job, event.refusesRelease = false := by
  cases hstop : a.stop with
  | none =>
    rw [Attempt.result, hstop] at hresult
    cases hresult
    cases hdecision
  | some stop =>
    simp only [Attempt.result, hstop, Stop.result] at hresult
    split_ifs at hresult with hfailures
    have hundos (u : Undo) (hu : u ∈ stop.rollback.undos) : ∃ reply, u.answer = .ok reply :=
      ((Rollback.failures_eq_nil _).mp hfailures).2 u hu |>.1
    have hevents : a.askedEvents sha256 request job =
        grantEvents request job (request.reservationFingerprint sha256) a.grants ++
          (stop.contact.events request job (request.reservationFingerprint sha256)
            stop.serviceId ++
          stop.rollback.events request.key (sha256 (reservationDocument request))) := by
      rw [Attempt.askedEvents, Attempt.events, hstop, Option.elim_some, Stop.events]
    cases hcontact : stop.contact with
    | answered qpm reply =>
      rw [hcontact] at hresult hevents
      cases hresult
      refine ⟨stop, rfl, hundos, ⟨stop.serviceId, ?_⟩, fun event hevent => ?_⟩
      · refine List.mem_filterMap.mpr
          ⟨⟨.call (.reserve (qpm.binding stop.serviceId) request job), .ok reply⟩, ?_, ?_⟩
        · rw [hevents]
          exact List.mem_append_right _ (List.mem_append_left _
            (List.mem_cons_of_mem _ (List.mem_cons_of_mem _ List.mem_cons_self)))
        · exact congrArg (fun decision => some (stop.serviceId, decision)) hdecision
      · have hobjects := hconfirms event hevent
        rw [hevents] at hevent
        rcases List.mem_append.mp hevent with hevent | hevent
        · obtain ⟨g, -, hevent⟩ := List.mem_flatMap.mp hevent
          simp only [Grant.contact, Contact.events, recordEvent, List.mem_cons,
            List.not_mem_nil, or_false] at hevent
          rcases hevent with rfl | rfl | rfl | rfl <;> rfl
        · rcases List.mem_append.mp hevent with hevent | hevent
          · simp only [Contact.events, recordEvent, List.mem_cons, List.not_mem_nil,
              or_false] at hevent
            rcases hevent with rfl | rfl | rfl | rfl <;> rfl
          · rcases List.mem_cons.mp hevent with rfl | hevent
            · rfl
            · obtain ⟨u, hu, hevent⟩ := List.mem_flatMap.mp hevent
              obtain ⟨answer, hanswer⟩ := hundos u hu
              rw [Undo.events, hanswer] at hevent
              rcases List.mem_cons.mp hevent with rfl | hevent
              · exact hobjects
              · rw [List.mem_singleton.mp hevent]
                rfl
    | _ => simp [Contact.conclusion, Contact.outcome, hcontact] at hresult

/-- After a first attempt that is rejected, nothing is held. -/
lemma Attempt.held_eq_nil (hfor : a.For serviceIds) (hfaultless : a.Faultless)
    (hsafe : SafeReserve j request (a.askedEvents sha256 request job))
    (hrestarts : Restarts sha256 request j)
    (hheld : ∀ pair ∈ held, ∃ row, j.reservation request.key pair.1 = some row ∧
      row.reservationId = some pair.2 ∧ row.state.isTerminal = false)
    {response : ReserveResponse} (hresult : a.result request.requestId = .ok response)
    (hdecision : response.decision = .rejected) :
    heldFor request.key held (a.askedEvents sha256 request job) = [] := by
  obtain ⟨stop, hstop, hundos, hrejected, hrefuses⟩ :=
    Attempt.rejected hsafe.confirms hresult hdecision
  have hleft : NothingLeft request.key j := by
    refine hsafe.settled (fun row hrow haccepted => ?_) hrejected hrefuses
    obtain ⟨-, h | h | ⟨h | h | h, -⟩⟩ := hrestarts row hrow
    · cases haccepted.symm.trans h
    · cases haccepted.symm.trans h
    · cases haccepted.symm.trans h
    · cases haccepted.symm.trans h
    · exact h.2
  refine List.eq_nil_iff_forall_not_mem.mpr fun pair hpair => ?_
  rcases Attempt.held_cases hfor hfaultless hsafe.confirms hpair with
    hbefore | ⟨hnone, -⟩ | ⟨other, hother, u, hu, -, failure, hanswer⟩
  · obtain ⟨row, hrow, hid, hstate⟩ := hheld pair hbefore
    have hterminal := hleft pair.1 row hrow (by rw [hid]; exact Option.some_ne_none _)
    cases hterminal.symm.trans hstate
  · cases hstop.symm.trans hnone
  · cases hstop.symm.trans hother
    obtain ⟨reply, hreply⟩ := hundos u hu
    cases hreply.symm.trans hanswer

/-- A reserve request whose answers are safe leaves what is held covered. -/
lemma Reserves.covers {senderUid : ℤ} {result : Except PyError ReserveResponse}
    {calls : List Event} (hvalid : (Request.reserve request).Valid)
    (h : Reserves sha256 request senderUid j result j' calls)
    (hsafe : SafeReserve j request calls) (hcovers : Covers j request.key held) :
    Covers j' request.key (heldFor request.key held calls) := by
  have hnodup : (sorted request.serviceIds).Nodup :=
    sorted_nodup.mpr (services_of_valid hvalid).2.1
  cases h with
  | attempted job a hbegin hrestarts hfor hfaultless j' hj =>
    rw [heldFor_adapterCalls]
    rw [safeReserve_adapterCalls] at hsafe
    refine ⟨Attempt.outstanding hfor hfaultless hnodup hsafe hcovers.outstanding
      (fun s => by rw [hj.reservation_eq, if_pos rfl]), fun hne => ?_⟩
    refine ⟨_, by rw [hj.allocation_eq, if_pos rfl], ?_⟩
    cases hresult : a.result request.requestId with
    | error error =>
      simp only [allocationAfter, allocationOutcome]
      split_ifs <;> simp
    | ok response =>
      simp only [allocationAfter, allocationOutcome]
      cases hdecision : response.decision with
      | rejected =>
        exact absurd (Attempt.held_eq_nil hfor hfaultless hsafe hrestarts hcovers.outstanding
          hresult hdecision) hne
      | accepted => decide
      | delayed => decide
  | extended job a row stored previous hbegin hextends hmissing hprevious hfor hfaultless j' hj =>
    rw [heldFor_adapterCalls]
    rw [safeReserve_adapterCalls] at hsafe
    have hnodup := (missing_facts (services_of_valid hvalid).2.1 row).1
    refine ⟨Attempt.outstanding hfor hfaultless hnodup hsafe hcovers.outstanding
      (fun s => by rw [hj.reservation_eq, if_pos rfl]), fun _ => ?_⟩
    refine ⟨_, by rw [hj.allocation_eq, if_pos rfl], ?_⟩
    generalize extensionResult request previous (a.result request.requestId) = result
    cases result with
    | error error => simp [extensionAfter]
    | ok response =>
      rw [extensionAfter]
      split_ifs <;> simp
  | stranded job a row stored error hbegin hextends hmissing hstop hprevious herror hfor j' hj =>
    rw [heldFor_adapterCalls]
    rw [safeReserve_adapterCalls] at hsafe
    have hfaultless : a.Faultless :=
      fun stop h => absurd (hstop.symm.trans h) (Option.some_ne_none stop).symm
    have hnodup := (missing_facts (services_of_valid hvalid).2.1 row).1
    refine ⟨Attempt.outstanding hfor hfaultless hnodup hsafe hcovers.outstanding
      (fun s => by rw [hj.reservation_eq, if_pos rfl]), fun _ => ?_⟩
    refine ⟨_, by rw [hj.allocation_eq, if_pos rfl], ?_⟩
    simp [ReserveRequest.extendedRow]
  | _ => exact hcovers.mono ⟨rfl, fun _ => rfl⟩ (List.Subset.refl _)

end Attempts

/-! ### Passes -/

section Passes

variable {sha256 : Document → String} {request : ReleaseRequest} {visits : List Visit}
  {j j' : Journal} {held : List (String × ℤ)}

/-- A disposal that does not confirm the release keeps the row open: it failed, or the QPM was
restarted. -/
lemma Disposal.outcome_of_not_confirmed {d : Disposal}
    (h : ∀ qpm reply, d = .answered qpm reply → ¬ reply.confirms) :
    d.outcome.1 = .qpmFailure ∨ d.outcome.1 = .staleRuntime ∧ ∃ qpm, d = .restarted qpm := by
  cases d with
  | unresolved failure => exact .inl rfl
  | restarted qpm => exact .inr ⟨rfl, qpm, rfl⟩
  | failed qpm failure => exact .inl rfl
  | answered qpm reply =>
    rw [Disposal.outcome, if_neg (h qpm reply rfl)]
    exact .inl rfl

/-- A call that refuses a release makes the disposal a failure. -/
lemma Disposal.outcome_of_refuses {d : Disposal} {record : ReservationRecord} {event : Event}
    (hevent : event ∈ d.calls request record) (h : event.refusesRelease = true) :
    d.outcome.1 = .qpmFailure := by
  cases d with
  | unresolved failure => rfl
  | restarted qpm =>
    rw [List.mem_singleton.mp hevent] at h
    cases h
  | failed qpm failure => rfl
  | answered qpm reply =>
    rcases List.mem_cons.mp hevent with rfl | hevent
    · cases h
    · rw [List.mem_singleton.mp hevent] at h
      rw [Disposal.outcome, if_neg (of_decide_eq_true h)]

/-- What is still held after a pass was visited, and its disposal did not confirm the release. -/
lemma Passes.held_cases (hpass : Passes (j.reservations request.key) visits)
    (hheld : ∀ pair ∈ held, ∃ row, j.reservation request.key pair.1 = some row ∧
      row.reservationId = some pair.2 ∧ row.state.isTerminal = false) {pair : String × ℤ}
    (hpair : pair ∈ held) (hnot : pair ∉ confirmed (visits.flatMap (Visit.calls · request))) :
    ∃ row, j.reservation request.key pair.1 = some row ∧ row.reservationId = some pair.2 ∧
      row.state.isTerminal = false ∧ ∃ v ∈ visits, v.record = row.record pair.1 ∧
        ∃ d, v.disposal = some d ∧ d.Sound v.record ∧
          written (visits.flatMap Visit.writes) pair.1 = some (row.disposed d) ∧
          (d.outcome.1 = .qpmFailure ∨
            d.outcome.1 = .staleRuntime ∧ ∃ qpm, d = .restarted qpm) := by
  obtain ⟨row, hrow, hid, hstate⟩ := hheld pair hpair
  rcases hpass.cases pair.1 with ⟨hnone, -⟩ | ⟨found, hfound, hnone, -⟩ |
    ⟨found, hfound, -, v, hv, hrecord, hsound, hwritten⟩
  · cases hrow.symm.trans hnone
  · cases hrow.symm.trans hfound
    cases hid.symm.trans hnone
  · cases hrow.symm.trans hfound
    have hvisit := hsound.2
    cases hd : v.disposal with
    | none =>
      rw [hd, hrecord] at hvisit
      cases hstate.symm.trans hvisit
    | some d =>
      rw [hd] at hvisit hwritten
      refine ⟨row, hrow, hid, hstate, v, hv, hrecord, d, hd, hvisit.2, hwritten, ?_⟩
      refine Disposal.outcome_of_not_confirmed fun qpm reply hanswered hconfirms => hnot ?_
      refine List.mem_filterMap.mpr
        ⟨⟨.call (.release (qpm.binding pair.1) (some pair.2) request.reason), .ok reply⟩, ?_, ?_⟩
      · refine List.mem_flatMap.mpr ⟨v, hv, ?_⟩
        rw [Visit.calls, hd, Option.elim_some, hanswered, Disposal.calls, hrecord]
        simp [ReservationRow.record, hid]
      · rw [Event.confirmed, if_pos hconfirms]
        rfl

/-- A pass that finds a failure leaves the allocation `release-incomplete`. -/
lemma releasedState_of_visit {unresolved : ReservationState → Bool} {v : Visit} (hv : v ∈ visits)
    {d : Disposal} (hd : v.disposal = some d)
    (hunresolved : unresolved d.outcome.1.reservationState = true) :
    releasedState unresolved (request.response visits).results = .releaseIncomplete := by
  refine if_pos (List.any_eq_true.mpr ⟨v.result, List.mem_map_of_mem hv, ?_⟩)
  rw [Visit.result, hd]
  exact hunresolved

/-- After a pass, every reservation that is held has an outstanding row. -/
lemma Passes.outstanding (hpass : Passes (j.reservations request.key) visits)
    (hheld : ∀ pair ∈ held, ∃ row, j.reservation request.key pair.1 = some row ∧
      row.reservationId = some pair.2 ∧ row.state.isTerminal = false)
    (hrows : ∀ s, j'.reservation request.key s =
      (written (visits.flatMap Visit.writes) s).or (j.reservation request.key s)) :
    ∀ pair ∈ heldFor request.key held (visits.flatMap (Visit.calls · request)),
      ∃ row, j'.reservation request.key pair.1 = some row ∧ row.reservationId = some pair.2 ∧
        row.state.isTerminal = false := by
  intro pair hpair
  rw [mem_heldFor_iff _ _ (not_reservesFor_of_asked (asked_visits request visits))] at hpair
  obtain ⟨row, -, hid, -, v, -, -, d, -, -, hwritten, houtcome⟩ :=
    hpass.held_cases hheld hpair.1 hpair.2
  refine ⟨row.disposed d, by rw [hrows, hwritten, Option.some_or], hid, ?_⟩
  rw [ReservationRow.disposed]
  rcases houtcome with houtcome | ⟨houtcome, -⟩ <;>
    simp [houtcome, ReleaseOutcome.journalState, RecordState.isTerminal]

/-- Nothing is held for an allocation without a row. -/
lemma Covers.of_unknown {key : AllocationKey} {events : List Event} (h : Covers j key held)
    (hallocation : j.allocation key = none) (hasked : asked events = []) :
    Covers j' key (heldFor key held events) := by
  have hnil : held = [] := by
    by_contra hne
    obtain ⟨row, hrow, -⟩ := h.listed hne
    cases hallocation.symm.trans hrow
  have hstill : heldFor key held events = [] := by
    refine List.eq_nil_iff_forall_not_mem.mpr fun pair hpair => ?_
    rw [mem_heldFor_iff _ _ (not_reservesFor_of_asked hasked), hnil] at hpair
    exact absurd hpair.1 List.not_mem_nil
  rw [hstill]
  exact Covers.nil _ _

/-- A release request whose answers are safe leaves what is held covered. -/
lemma Releases.covers {senderUid : ℤ} {result : Except PyError ReleaseResponse}
    {calls : List Event} (h : Releases sha256 request senderUid j result j' calls)
    (hsafe : SafeRelease j request.key calls) (hcovers : Covers j request.key held) :
    Covers j' request.key (heldFor request.key held calls) := by
  cases h with
  | unknown visits hbegin hpass hallocation j' hj =>
    exact hcovers.of_unknown hallocation (asked_visits request visits)
  | released row visits hbegin hpass hallocation j' hj =>
    refine ⟨hpass.outstanding hcovers.outstanding (fun s => by rw [hj.reservation_eq, if_pos rfl]),
      fun hne => ⟨_, by rw [hj.allocation_eq, if_pos rfl], ?_⟩⟩
    obtain ⟨pair, hpair⟩ := List.exists_mem_of_ne_nil _ hne
    rw [mem_heldFor_iff _ _ (not_reservesFor_of_asked (asked_visits request visits))] at hpair
    obtain ⟨found, hfound, hid, hstate, v, hv, hrecord, d, hd, hsound, -, houtcome⟩ :=
      hpass.held_cases hcovers.outstanding hpair.1 hpair.2
    have hincomplete : releasedState ReservationState.isUnresolved
        (request.response visits).results = .releaseIncomplete := by
      rcases houtcome with houtcome | ⟨-, qpm, rfl⟩
      · exact releasedState_of_visit hv hd (by rw [houtcome]; rfl)
      · -- a restarted QPM is safe only beside a failure
        have hresolve : (⟨.call (.resolve pair.1), .ok qpm⟩ : Event) ∈
            visits.flatMap (Visit.calls · request) := by
          refine List.mem_flatMap.mpr ⟨v, hv, ?_⟩
          rw [Visit.calls, hd, Option.elim_some, Disposal.calls, hrecord]
          exact List.mem_singleton_self _
        by_contra hreleased
        have hnone : ∀ event ∈ visits.flatMap (Visit.calls · request),
            event.refusesRelease = false := by
          intro event hevent
          by_contra hrefuses
          obtain ⟨w, hw, hevent⟩ := List.mem_flatMap.mp hevent
          rw [Visit.calls] at hevent
          cases hwd : w.disposal with
          | none =>
            rw [hwd] at hevent
            exact absurd hevent List.not_mem_nil
          | some e =>
            rw [hwd] at hevent
            have hfailure := Disposal.outcome_of_refuses hevent
              (Bool.eq_true_of_not_eq_false hrefuses)
            exact hreleased (releasedState_of_visit hw hwd (by rw [hfailure]; rfl))
        have hid' : found.reservationId ≠ none := by
          rw [hid]
          exact Option.some_ne_none _
        have hsame := hsafe hnone pair.1 found hfound ⟨hid', hstate⟩ qpm hresolve
        rw [hrecord] at hsound
        exact hsound hsame
    simp [releasedRow, hincomplete]
  | _ => exact hcovers.mono ⟨rfl, fun _ => rfl⟩ (List.Subset.refl _)

/-- A `retry_release` leaves what is held covered. -/
lemma Retries.covers {result : Except PyError ReleaseResponse} {calls : List Event}
    (h : Retries request j result j' calls) (hcovers : Covers j request.key held) :
    Covers j' request.key (heldFor request.key held calls) := by
  cases h with
  | unknown visits hpass hallocation j' hj =>
    exact hcovers.of_unknown hallocation (asked_visits request visits)
  | retried row visits hpass hallocation j' hj =>
    subst hj
    refine ⟨hpass.outstanding hcovers.outstanding (fun s => by
      rw [Journal.reservation_putAllocation, Journal.reservation_writeAll, if_pos rfl]),
      fun hne => ⟨_, Journal.allocation_putAllocation_self _ _ _, ?_⟩⟩
    obtain ⟨pair, hpair⟩ := List.exists_mem_of_ne_nil _ hne
    rw [mem_heldFor_iff _ _ (not_reservesFor_of_asked (asked_visits request visits))] at hpair
    obtain ⟨-, -, -, -, v, hv, -, d, hd, -, -, houtcome⟩ :=
      hpass.held_cases hcovers.outstanding hpair.1 hpair.2
    have hincomplete : releasedState ReservationState.isRetryUnresolved
        (request.response visits).results = .releaseIncomplete := by
      rcases houtcome with houtcome | ⟨houtcome, -⟩ <;>
        exact releasedState_of_visit hv hd (by rw [houtcome]; rfl)
    simp [releasedRow, hincomplete]

end Passes

/-! ### Every run -/

section Runs

variable {sha256 : Document → String} {j : Journal} {key : AllocationKey}

/-- A step that is not a reserve request for the allocation asks no QPM to reserve for it. -/
lemma Step.not_reservesFor (step : Step) (h : step.key ≠ some key) :
    ∀ event ∈ step.trace sha256 j, ¬ event.ReservesFor key := by
  cases step with
  | handle request valid senderUid oracle =>
    cases request with
    | evaluate request =>
      obtain ⟨result, hevaluates⟩ := evaluates_serve sha256 j request senderUid oracle
      refine not_reservesFor_of_asked ?_
      rw [← asked_adapterCalls]
      exact (projections_of_isEstimate hevaluates.isEstimate).1
    | getReservations request =>
      refine not_reservesFor_of_asked ?_
      rw [← asked_adapterCalls]
      exact congrArg asked (lookup_serve sha256 j request senderUid oracle).2
    | release request =>
      obtain ⟨result, hreleases⟩ := releases_serve sha256 j request senderUid oracle
      refine not_reservesFor_of_asked ?_
      rw [← asked_adapterCalls]
      exact hreleases.asked_eq_nil
    | reserve request =>
      -- the reserve calls of a request are for its own allocation
      obtain ⟨events, htrace, hevents⟩ := Program.run_trace_asks (surroundings oracle noFaults)
        (within_reserveTry (K := fun _ => True) (L := (· = request.key)) sha256 senderUid request
          trivial rfl) ⟨j, []⟩
      have htrace : (serve sha256 j (.reserve request) senderUid oracle).2.trace = events := by
        rw [serve, QfwSlurm.handle, reserve, run_answer]
        exact htrace
      rw [Step.trace, Step.world, htrace]
      rintro ⟨t | c, answer⟩ hevent hreserves
      · exact hreserves
      · have hwithin := hevents _ hevent
        cases c with
        | reserve binding other job =>
          have hother : other.key = request.key := hwithin
          exact h (congrArg some (hother.symm.trans hreserves))
        | _ => exact hreserves
  | retry request oracle =>
    obtain ⟨result, hretries⟩ := retries_step sha256 j request oracle
    refine not_reservesFor_of_asked ?_
    rw [← asked_adapterCalls]
    exact hretries.asked_eq_nil

/-- A safe step leaves what is held covered. -/
lemma Step.covers {held : List (String × ℤ)} (step : Step) (hsafe : step.Safe sha256 key j)
    (hcovers : Covers j key held) :
    Covers (step.next sha256 j) key (heldFor key held (step.trace sha256 j)) := by
  by_cases hk : step.key = some key
  swap
  · refine hcovers.mono (step.sameRows hk) fun pair hpair => ?_
    exact ((mem_heldFor_iff key held (step.not_reservesFor hk)).mp hpair).1
  cases step with
  | handle request valid senderUid oracle =>
    cases request with
    | evaluate request => cases hk
    | getReservations request => cases hk
    | reserve request =>
      obtain rfl := Option.some.inj hk
      have hsafe := hsafe rfl
      rw [← heldFor_adapterCalls]
      rw [← safeReserve_adapterCalls] at hsafe
      rcases serve_reserve_cases sha256 j valid senderUid oracle with ⟨-, -, hstate, hcalls⟩ | h
      · rw [Step.trace, Step.next, Step.world, hstate, hcalls]
        exact hcovers
      · exact h.covers valid hsafe hcovers
    | release request =>
      obtain rfl := Option.some.inj hk
      obtain ⟨result, h⟩ := releases_serve sha256 j request senderUid oracle
      rw [← heldFor_adapterCalls]
      refine h.covers (fun hrefuses s row hrow houtstanding qpm hresolve => ?_) hcovers
      refine hsafe rfl (fun event hevent => ?_) s row hrow houtstanding qpm
        (List.mem_of_mem_filter hresolve)
      by_contra hrefused
      have htrue := Bool.eq_true_of_not_eq_false hrefused
      exact hrefused (hrefuses event
        (List.mem_filter.mpr ⟨hevent, isAdapter_of_refusesRelease htrue⟩))
  | retry request oracle =>
    obtain rfl := Option.some.inj hk
    obtain ⟨result, h⟩ := retries_step sha256 j request oracle
    rw [← heldFor_adapterCalls]
    exact h.covers hcovers

/-- In every run of safe steps, what is held for an allocation is covered by the journal. -/
lemma covers_journalAfter (steps : List Step)
    (h : Meets (Step.next sha256) (fun j step => step.Safe sha256 key j) Journal.empty steps) :
    Covers (journalAfter sha256 Journal.empty steps) key
      (heldFor key [] (runTrace sha256 Journal.empty steps)) := by
  induction steps using List.reverseRecOn with
  | nil => exact Covers.nil _ _
  | append_singleton steps step ih =>
    rw [journalAfter_concat, runTrace_concat, heldFor, heldAfter_append]
    exact step.covers h.last (ih (h.of_append))

end Runs

/-- In every run whose answers are safe for an allocation, whatever other requests are served in
between, every reservation that was granted for it and whose release no QPM has confirmed is in the
journal under its id, in a row that is neither released nor rolled back, and the allocation is
listed as nonterminal. -/
theorem held_reservations_retained (sha256 : Document → String) (key : AllocationKey)
    (steps : List Step)
    (h : Meets (Step.next sha256) (fun j step => step.Safe sha256 key j) Journal.empty steps) :
    ∀ pair ∈ heldFor key [] (runTrace sha256 Journal.empty steps),
      (journalAfter sha256 Journal.empty steps).Retains key pair :=
  fun _ hpair => (covers_journalAfter steps h).retains hpair

/-- Every QPM grants reservation 5 and does not answer a release. -/
def deaf : Oracle :=
  sampleOracle (fun _ => .ok (sampleGrant 5 sampleId_fits)) fun _ => .error (.adapter "no reply")

/-- One service is reserved, and its release fails. -/
def sampleUnreleased : List Step :=
  [.handle (.reserve (sampleReserve 1 ["qpm-a"])) sampleReserve_valid 1000 deaf,
    .handle (.release (sampleRelease 2)) trivial 1000 deaf]

/-- The reservation of the failed release is retained. -/
theorem held_reservations_retained_unreleased :
    (journalAfter sampleDigest Journal.empty sampleUnreleased).Retains sampleKey ("qpm-a", 5) := by
  refine held_reservations_retained sampleDigest sampleKey sampleUnreleased
    ⟨fun _ => ⟨by decide, ?_, ?_⟩, fun _ hrefuses => ?_, trivial⟩ ("qpm-a", 5) (by decide)
  · intro s _ row hrow
    cases hrow
  · intro _ _ _ s row hrow
    cases hrow
  · exact absurd hrefuses (by decide)

end QfwSlurm
