import QfwSlurm.Interaction.Along
import QfwSlurm.Interaction.Holdings
import QfwSlurm.Gateway.Vouched

/-!
# Handlers that are cancelled

A request timeout cancels a handler at one of its `await`s: the call it was waiting for still ends,
and none of the handler's own code runs any more.  The world is then the one after some number of
questions, the last of which is that call.

At every point of a handler the journal has on record what the QPMs hold, with two exceptions: a
reservation that was granted and not yet written down, and one whose rollback was not confirmed and
is written down as gone.  So a cancelled handler loses nothing exactly when the call still running
does not grant a reservation and the replies to its rollback confirmed.
-/

namespace QfwSlurm

open Interaction

/-! ### What is held and what is on record -/

/-- The reservations that were granted and whose release was not confirmed since. -/
def unconfirmed (held : List (String × ℤ)) (events : List Event) : List (String × ℤ) :=
  heldAfter Event.granted Event.confirmed held events

lemma mem_unconfirmed_concat {held : List (String × ℤ)} {events : List Event} {event : Event}
    {pair : String × ℤ} :
    pair ∈ unconfirmed held (events ++ [event]) ↔
      event.granted = some pair ∨ pair ∈ unconfirmed held events ∧ event.confirmed ≠ some pair := by
  rw [unconfirmed, heldAfter_append, heldAfter_cons, heldAfter_nil, hold, List.mem_append,
    Option.mem_toList, List.mem_filter, decide_eq_true_eq]
  rfl

/-- The allocation has a row with the reservation id that a release does not leave alone. -/
def Recorded (j : Journal) (key : AllocationKey) (pair : String × ℤ) : Prop :=
  ∃ row, j.reservation key pair.1 = some row ∧ row.reservationId = some pair.2 ∧
    row.qpmRuntimeId ≠ none ∧ row.state.isTerminal = false

/-- The account of an allocation at some point of a handler: what is held is `kept` on record or
`lost`. -/
structure Books (key : AllocationKey) (held kept lost : List (String × ℤ)) (w : GatewayWorld) :
    Prop where
  account : ∀ pair, pair ∈ unconfirmed held w.trace ↔ pair ∈ kept ∨ pair ∈ lost
  recorded : ∀ pair ∈ kept, Recorded w.state key pair
  buried : ∀ pair ∈ lost, ¬ Recorded w.state key pair
  distinct : ((kept ++ lost).map Prod.fst).Nodup

section Accounts

variable {key : AllocationKey} {held kept lost : List (String × ℤ)} {pair : String × ℤ}
  {j j' : Journal} {events : List Event} {event : Event}

lemma recorded_congr (h : j'.reservation key pair.1 = j.reservation key pair.1) :
    Recorded j' key pair ↔ Recorded j key pair := by
  rw [Recorded, Recorded, h]

/-- The order of the entries does not matter. -/
lemma Books.perm {kept' : List (String × ℤ)} {w : GatewayWorld} (h : Books key held kept lost w)
    (hperm : kept.Perm kept') : Books key held kept' lost w := by
  refine ⟨fun pair => ?_, fun pair hpair => h.recorded pair (hperm.mem_iff.mpr hpair), h.buried,
    ((hperm.append_right lost).map Prod.fst).nodup_iff.mp h.distinct⟩
  rw [h.account, hperm.mem_iff]

/-- An event that neither grants nor confirms, and writes no row of what is held. -/
lemma Books.quiet (h : Books key held kept lost ⟨j, events⟩) (hgranted : event.granted = none)
    (hconfirmed : event.confirmed = none)
    (hrows : ∀ s ∈ (kept ++ lost).map Prod.fst, j'.reservation key s = j.reservation key s) :
    Books key held kept lost ⟨j', events ++ [event]⟩ := by
  have hrow {pair : String × ℤ} (hpair : pair ∈ kept ++ lost) :
      Recorded j' key pair ↔ Recorded j key pair :=
    recorded_congr (hrows _ (List.mem_map_of_mem hpair))
  refine ⟨fun pair => ?_, fun pair hpair => ?_, fun pair hpair => ?_, h.distinct⟩
  · rw [mem_unconfirmed_concat, hgranted, hconfirmed, ← h.account]
    simp
  · exact (hrow (List.mem_append_left _ hpair)).mpr (h.recorded pair hpair)
  · exact fun hrecorded => h.buried pair hpair ((hrow (List.mem_append_right _ hpair)).mp hrecorded)

/-- A row is written for a service that has nothing on record yet, or again for one that has. -/
lemma Books.rewrite (h : Books key held (pair :: kept) lost ⟨j, events⟩)
    (hgranted : event.granted = none) (hconfirmed : event.confirmed = none)
    (hpair : Recorded j' key pair)
    (hrows : ∀ s, s ≠ pair.1 → j'.reservation key s = j.reservation key s) :
    Books key held (pair :: kept) lost ⟨j', events ++ [event]⟩ := by
  have hother {other : String × ℤ} (hmem : other ∈ kept ++ lost) : other.1 ≠ pair.1 := by
    have hdistinct := h.distinct
    rw [List.cons_append, List.map_cons, List.nodup_cons] at hdistinct
    exact fun heq => hdistinct.1 (heq ▸ List.mem_map_of_mem hmem)
  refine ⟨fun other => ?_, fun other hmem => ?_, fun other hmem => ?_, h.distinct⟩
  · rw [mem_unconfirmed_concat, hgranted, hconfirmed, ← h.account]
    simp
  · rcases List.mem_cons.mp hmem with rfl | hmem'
    · exact hpair
    · exact (recorded_congr (hrows _ (hother (List.mem_append_left _ hmem')))).mpr
        (h.recorded other hmem)
  · exact fun hrecorded => h.buried other hmem
      ((recorded_congr (hrows _ (hother (List.mem_append_right _ hmem)))).mp hrecorded)

/-- A reservation is granted and put on record. -/
lemma Books.grant (h : Books key held kept lost ⟨j, events⟩) {write : Event}
    (hgranted : event.granted = some pair) (hconfirmed : event.confirmed = none)
    (hwrite : write.granted = none) (hwrite' : write.confirmed = none)
    (hfresh : pair.1 ∉ (kept ++ lost).map Prod.fst) (hpair : Recorded j' key pair)
    (hrows : ∀ s, s ≠ pair.1 → j'.reservation key s = j.reservation key s) :
    Books key held (pair :: kept) lost ⟨j', events ++ [event] ++ [write]⟩ := by
  have hother {other : String × ℤ} (hmem : other ∈ kept ++ lost) : other.1 ≠ pair.1 :=
    fun heq => hfresh (heq ▸ List.mem_map_of_mem hmem)
  refine ⟨fun other => ?_, fun other hmem => ?_, fun other hmem => ?_, ?_⟩
  · have hbefore := h.account other
    dsimp only at hbefore ⊢
    rw [mem_unconfirmed_concat, mem_unconfirmed_concat, hgranted, hconfirmed, hwrite, hwrite',
      hbefore, List.mem_cons]
    simp only [reduceCtorEq, Option.some.injEq, ne_eq, not_false_eq_true, and_true, false_or,
      eq_comm (a := pair)]
    rw [or_assoc]
  · rcases List.mem_cons.mp hmem with rfl | hmem
    · exact hpair
    · exact (recorded_congr (hrows _ (hother (List.mem_append_left _ hmem)))).mpr
        (h.recorded other hmem)
  · exact fun hrecorded => h.buried other hmem
      ((recorded_congr (hrows _ (hother (List.mem_append_right _ hmem)))).mp hrecorded)
  · rw [List.cons_append, List.map_cons, List.nodup_cons]
    exact ⟨hfresh, h.distinct⟩

/-- A release is confirmed; the row no longer matters. -/
lemma Books.confirm (h : Books key held (pair :: kept) lost ⟨j, events⟩)
    (hgranted : event.granted = none) (hconfirmed : event.confirmed = some pair) :
    Books key held kept lost ⟨j, events ++ [event]⟩ := by
  have hdistinct := h.distinct
  rw [List.cons_append, List.map_cons, List.nodup_cons] at hdistinct
  refine ⟨fun other => ?_, fun other hmem => h.recorded other (List.mem_cons_of_mem _ hmem),
    h.buried, hdistinct.2⟩
  have hbefore := h.account other
  dsimp only at hbefore ⊢
  rw [mem_unconfirmed_concat, hgranted, hconfirmed, hbefore, List.mem_cons]
  have hother (hmem : other ∈ kept ++ lost) : ¬ some pair = some other := by
    rintro ⟨⟩
    exact hdistinct.1 (List.mem_map_of_mem hmem)
  constructor
  · rintro (hnone | ⟨(rfl | hkept) | hlost, hne⟩)
    · cases hnone
    · exact absurd rfl hne
    · exact .inl hkept
    · exact .inr hlost
  · rintro (hkept | hlost)
    · exact .inr ⟨.inl (.inr hkept), hother (List.mem_append_left _ hkept)⟩
    · exact .inr ⟨.inr hlost, hother (List.mem_append_right _ hlost)⟩

/-- The row of a reservation that is still held is written as gone. -/
lemma Books.bury (h : Books key held (pair :: kept) lost ⟨j, events⟩)
    (hgranted : event.granted = none) (hconfirmed : event.confirmed = none)
    (hpair : ¬ Recorded j' key pair)
    (hrows : ∀ s, s ≠ pair.1 → j'.reservation key s = j.reservation key s) :
    Books key held kept (pair :: lost) ⟨j', events ++ [event]⟩ := by
  have hperm : (kept ++ pair :: lost).Perm (pair :: (kept ++ lost)) := List.perm_middle
  have hdistinct := h.distinct
  rw [List.cons_append, List.map_cons, List.nodup_cons] at hdistinct
  have hother {other : String × ℤ} (hmem : other ∈ kept ++ lost) : other.1 ≠ pair.1 :=
    fun heq => hdistinct.1 (heq ▸ List.mem_map_of_mem hmem)
  refine ⟨fun other => ?_, fun other hmem => ?_, fun other hmem => ?_, ?_⟩
  · have hbefore := h.account other
    dsimp only at hbefore ⊢
    rw [mem_unconfirmed_concat, hgranted, hconfirmed, hbefore, List.mem_cons, List.mem_cons]
    simp only [reduceCtorEq, ne_eq, not_false_eq_true, and_true, false_or]
    rw [or_assoc, or_left_comm]
  · exact (recorded_congr (hrows _ (hother (List.mem_append_left _ hmem)))).mpr
      (h.recorded other (List.mem_cons_of_mem _ hmem))
  · rcases List.mem_cons.mp hmem with rfl | hmem
    · exact hpair
    · exact fun hrecorded => h.buried other hmem
        ((recorded_congr (hrows _ (hother (List.mem_append_right _ hmem)))).mp hrecorded)
  · rw [(hperm.map Prod.fst).nodup_iff, List.map_cons, List.nodup_cons]
    exact hdistinct

/-- Everything that is held is on record when nothing is lost. -/
lemma Books.recorded_iff {w : GatewayWorld} (h : Books key held kept lost w) :
    (∀ pair ∈ unconfirmed held w.trace, Recorded w.state key pair) ↔ lost = [] := by
  constructor
  · intro hall
    refine List.eq_nil_iff_forall_not_mem.mpr fun pair hpair => ?_
    exact h.buried pair hpair (hall pair ((h.account pair).mpr (.inr hpair)))
  · rintro rfl pair hpair
    rcases (h.account pair).mp hpair with hkept | hlost
    · exact h.recorded pair hkept
    · cases hlost

end Accounts

/-! ### The points of an attempt -/

/-- The last call grants no reservation, and the replies before it confirm. -/
def Sparing (events : List Event) : Prop :=
  (∀ event, events.getLast? = some event → event.granted = none) ∧ RepliesConfirm events.dropLast

/-- What holds at every point of a reserve handler: everything that is held is on record exactly
when the calls were sparing. -/
def Told (key : AllocationKey) (w : GatewayWorld) : Prop :=
  (∀ pair ∈ unconfirmed [] w.trace, Recorded w.state key pair) ↔ Sparing w.trace

/-- A point of a reserve handler at which no grant waits to be written down. -/
structure AtRest (key : AllocationKey) (kept lost : List (String × ℤ)) (w : GatewayWorld) :
    Prop where
  books : Books key [] kept lost w
  replies : RepliesConfirm w.trace ↔ lost = []
  last : ∀ event : Event, w.trace.getLast? = some event →
    event.granted = none ∧ event.objects = false

section Points

variable {key : AllocationKey} {kept lost : List (String × ℤ)} {pair : String × ℤ}
  {j : Journal} {events : List Event} {event : Event}

lemma repliesConfirm_concat (h : event.objects = false) :
    RepliesConfirm (events ++ [event]) ↔ RepliesConfirm events := by
  refine ⟨RepliesConfirm.of_append, fun hevents other hother => ?_⟩
  rcases List.mem_append.mp hother with hmem | hmem
  · exact hevents other hmem
  · rw [List.mem_singleton.mp hmem]
    exact h

/-- After an event that grants nothing. -/
lemma told_concat (h : Books key [] kept lost ⟨j, events ++ [event]⟩)
    (hgranted : event.granted = none) (hreplies : RepliesConfirm events ↔ lost = []) :
    Told key ⟨j, events ++ [event]⟩ := by
  rw [Told, h.recorded_iff, ← hreplies, Sparing, List.dropLast_concat, List.getLast?_concat]
  refine ⟨fun hconfirm => ⟨fun other hother => ?_, hconfirm⟩, fun hsparing => hsparing.2⟩
  cases hother
  exact hgranted

/-- A reservation was granted and is not on record yet. -/
lemma told_granted (hgranted : event.granted = some pair) (hpair : ¬ Recorded j key pair) :
    Told key ⟨j, events ++ [event]⟩ := by
  refine iff_of_false (fun hall => ?_) fun hsparing => ?_
  · exact hpair (hall pair (mem_unconfirmed_concat.mpr (.inl hgranted)))
  · have hnone := hsparing.1 event (List.getLast?_concat)
    rw [hgranted] at hnone
    cases hnone

lemma AtRest.of_concat (h : Books key [] kept lost ⟨j, events ++ [event]⟩)
    (hgranted : event.granted = none) (hobjects : event.objects = false)
    (hreplies : RepliesConfirm events ↔ lost = []) : AtRest key kept lost ⟨j, events ++ [event]⟩ := by
  refine ⟨h, (repliesConfirm_concat hobjects).trans hreplies, fun other hother => ?_⟩
  dsimp only at hother
  rw [List.getLast?_concat] at hother
  cases hother
  exact ⟨hgranted, hobjects⟩

lemma AtRest.told {w : GatewayWorld} (h : AtRest key kept lost w) : Told key w := by
  obtain ⟨j, trace⟩ := w
  rcases List.eq_nil_or_concat' trace with rfl | ⟨events, event, rfl⟩
  · rw [Told, h.books.recorded_iff, ← h.replies]
    refine ⟨fun hconfirm => ⟨fun event hevent => ?_, hconfirm⟩, fun hsparing => hsparing.2⟩
    rw [List.getLast?_nil] at hevent
    cases hevent
  · have hlast := h.last event (List.getLast?_concat)
    exact told_concat h.books hlast.1 ((repliesConfirm_concat hlast.2).symm.trans h.replies)

end Points

/-- The question neither writes a row nor asks for a reservation or its release. -/
def Query.Calm : Query → Prop
  | .transaction (.recordReservation _ _ _) => False
  | .call (.reserve _ _ _) | .call (.release _ _ _) => False
  | _ => True

section Calm

variable {q : Query}

lemma Query.Calm.event (h : q.Calm) (answer : Answer q) :
    Event.granted ⟨q, answer⟩ = none ∧ Event.confirmed ⟨q, answer⟩ = none ∧
      Event.objects ⟨q, answer⟩ = false := by
  cases q with
  | transaction t => exact ⟨rfl, rfl, rfl⟩
  | call c =>
    cases c with
    | reserve binding request job => exact h.elim
    | release binding reservationId reason => exact h.elim
    | _ => exact ⟨rfl, rfl, rfl⟩

lemma Query.Calm.rows (h : q.Calm) (oracle : Oracle) (faults : Faults) (w : GatewayWorld)
    (key : AllocationKey) (s : String) :
    (surroundings oracle faults q w).2.reservation key s = w.state.reservation key s := by
  rcases reservation_surroundings oracle faults q w key s with
    hsame | ⟨record, diagnostic, hevent, -⟩
  · exact hsame
  · have hq : q = .transaction (.recordReservation key record diagnostic) :=
      congrArg Sigma.fst hevent
    subst hq
    exact h.elim

end Calm

section Attempts

variable {oracle : Oracle} {key : AllocationKey} {kept lost : List (String × ℤ)}
  {w : GatewayWorld} {α β : Type}

lemma AtRest.calm (h : AtRest key kept lost w) {q : Query} (hq : q.Calm) :
    AtRest key kept lost ((surroundings oracle noFaults).respond q w).2 := by
  obtain ⟨hgranted, hconfirmed, hobjects⟩ := hq.event (surroundings oracle noFaults q w).1
  exact .of_concat (h.books.quiet hgranted hconfirmed fun s _ => hq.rows oracle noFaults w key s)
    hgranted hobjects h.replies

/-- A row is written for a service that has nothing on record. -/
lemma AtRest.record (h : AtRest key kept lost w) (record : ReservationRecord)
    (hfresh : record.serviceId ∉ (kept ++ lost).map Prod.fst) (diagnostic : Option String) :
    AtRest key kept lost ⟨w.state.recordReservation key record diagnostic,
      w.trace ++ [⟨.transaction (.recordReservation key record diagnostic), .ok ()⟩]⟩ := by
  refine .of_concat (h.books.quiet rfl rfl fun s hs => ?_) rfl rfl h.replies
  rw [Journal.recordReservation, Journal.reservation_putReservation, if_neg]
  rintro ⟨-, rfl⟩
  exact hfresh hs

/-- Statements that only put calm questions. -/
lemma along_calm {x : Gateway α} (hx : Procedure.Asks Query.Calm x) (h : AtRest key kept lost w) :
    Procedure.Along (surroundings oracle noFaults) (Told key)
      (fun _ w' => AtRest key kept lost w') x w :=
  Program.Along.of_asks (fun _ h => h.told) (fun _ _ hq hw => hw.calm hq) hx h

lemma along_calm_bind {Post : Except PyError β → GatewayWorld → Prop} {x : Gateway α}
    {f : α → Gateway β} (hx : Procedure.Asks Query.Calm x) (h : AtRest key kept lost w)
    (hf : ∀ a w', AtRest key kept lost w' →
      Procedure.Along (surroundings oracle noFaults) (Told key) Post (f a) w')
    (herror : ∀ e w', AtRest key kept lost w' → Post (.error e) w') :
    Procedure.Along (surroundings oracle noFaults) (Told key) Post (x >>= f) w :=
  Procedure.Along.bind ((along_calm hx h).mono fun _ w' _ hw' =>
    ⟨fun a _ => hf a w' hw', fun e _ => herror e w' hw'⟩)

/-- The points before and after a call. -/
lemma along_invoke {I : GatewayWorld → Prop} {Post : Except PyError α → GatewayWorld → Prop}
    {c : Call} {read : c.Answer → Except PyError α} (h : I w)
    (hafter : ∀ answer, I ⟨w.state, w.trace ++ [⟨.call c, answer⟩]⟩ ∧
      Post (read answer) ⟨w.state, w.trace ++ [⟨.call c, answer⟩]⟩) :
    Procedure.Along (surroundings oracle noFaults) I Post (invoke c read) w :=
  ⟨h, (hafter _).1, (hafter _).2⟩

/-- The points before and after a transaction. -/
lemma along_transact {I : GatewayWorld → Prop} {t : Transaction}
    {Post : Except PyError t.Result → GatewayWorld → Prop} (h : I w)
    (hok : ∀ result j', t.apply w.state = .ok (result, j') →
      I ⟨j', w.trace ++ [⟨.transaction t, .ok result⟩]⟩ ∧
        Post (.ok result) ⟨j', w.trace ++ [⟨.transaction t, .ok result⟩]⟩)
    (herror : ∀ error, t.apply w.state = .error error →
      I ⟨w.state, w.trace ++ [⟨.transaction t, .error error⟩]⟩ ∧
        Post (.error error) ⟨w.state, w.trace ++ [⟨.transaction t, .error error⟩]⟩) :
    Procedure.Along (surroundings oracle noFaults) I Post (transact t) w := by
  have hexec := exec_transact_noFaults oracle w t
  cases happly : t.apply w.state with
  | ok applied =>
    rw [happly] at hexec
    have hworld : (surroundings oracle noFaults).respond (.transaction t) w =
        (.ok applied.1, ⟨applied.2, w.trace ++ [⟨.transaction t, .ok applied.1⟩]⟩) := hexec
    refine ⟨h, ?_⟩
    rw [hworld]
    exact hok applied.1 applied.2 happly
  | error error =>
    rw [happly] at hexec
    have hworld : (surroundings oracle noFaults).respond (.transaction t) w =
        (.error error, ⟨w.state, w.trace ++ [⟨.transaction t, .error error⟩]⟩) := hexec
    refine ⟨h, ?_⟩
    rw [hworld]
    exact herror error happly

variable {request : ReserveRequest} {job : VerifiedJob} {serviceId fingerprint : String}

/-- How the statements of the reserve loop for one service leave the account. -/
def Contacted (key : AllocationKey) (serviceId : String) (kept lost : List (String × ℤ))
    (r : Except Interrupted (QPMBinding × ServiceResult)) (w : GatewayWorld) : Prop :=
  match r with
  | .error interrupted => interrupted.result = none ∧ AtRest key kept lost w
  | .ok (binding, result) =>
    (result.decision ≠ .accepted ∧ AtRest key kept lost w) ∨
      ∃ g : Grant, g.serviceId = serviceId ∧ g.entry = (binding, result) ∧
        AtRest key (g.pair :: kept) lost w

lemma along_resolve (h : AtRest key kept lost w) :
    Procedure.Along (surroundings oracle noFaults) (Told key)
      (fun r w' => AtRest key kept lost w' ∧
        ∀ binding, r = .ok binding → ∃ qpm : Incarnation, binding = qpm.binding serviceId)
      (resolve serviceId) w := by
  have hresolved : AtRest key kept lost
      ((surroundings oracle noFaults).respond (.call (.resolve serviceId)) w).2 := h.calm trivial
  refine .bind ⟨h.told, hresolved.told, fun qpm _ => ⟨hresolved.told, hresolved, fun b hb => ?_⟩,
    fun e _ => ⟨hresolved, nofun⟩⟩
  cases hb
  exact ⟨qpm, rfl⟩

/-- The points before and after a question to a QPM for a reservation. -/
lemma along_adapterReserve {Post : Except PyError ServiceResult → GatewayWorld → Prop}
    {binding : QPMBinding} (h : Told key w)
    (hafter : ∀ answer : Except AdapterFailure ReserveReply,
      Told key ⟨w.state, w.trace ++ [⟨.call (.reserve binding request job), answer⟩]⟩)
    (hok : ∀ reply : ReserveReply, Post (.ok (reply.val.result binding))
      ⟨w.state, w.trace ++ [⟨.call (.reserve binding request job), .ok reply⟩]⟩)
    (herror : ∀ failure : AdapterFailure, Post (.error failure.error)
      ⟨w.state, w.trace ++ [⟨.call (.reserve binding request job), .error failure⟩]⟩) :
    Procedure.Along (surroundings oracle noFaults) (Told key) Post
      (adapterReserve binding request job) w := by
  refine Procedure.Along.bind (along_invoke h fun answer => ⟨hafter answer, ?_⟩)
  cases answer with
  | ok reply =>
    refine ⟨fun other hother => ?_, fun _ h => (nomatch h)⟩
    cases hother
    exact ⟨hafter (.ok reply), hok reply⟩
  | error failure =>
    refine ⟨fun _ h => (nomatch h), fun e he => ?_⟩
    cases he
    exact herror failure

/-- Once its row is pending, the service is asked and its answer is written down. -/
lemma along_asked {qpm : Incarnation} (h : AtRest request.key kept lost w)
    (hfresh : serviceId ∉ (kept ++ lost).map Prod.fst)
    (hunwritten : ∀ id, ¬ Recorded w.state request.key (serviceId, id)) :
    Procedure.Along (surroundings oracle noFaults) (Told request.key)
      (Contacted request.key serviceId kept lost)
      (do
        let result ← ExceptT.adapt (fun error => ⟨error, some (qpm.binding serviceId), none⟩)
          (adapterReserve (qpm.binding serviceId) request job)
        ExceptT.adapt
          (fun error => (⟨error, some (qpm.binding serviceId), some result⟩ : Interrupted))
          (transact (.recordReservation request.key
            { serviceId := serviceId
              reservationId := result.reservationId
              qpmRuntimeId := some (qpm.binding serviceId).runtimeId
              qpmGeneration := some (qpm.binding serviceId).generation
              state := result.decision.recordState
              requestFingerprint := some fingerprint }
            none))
        return (qpm.binding serviceId, result)) w := by
  -- an answer that grants nothing
  have hnothing (answer : Except AdapterFailure ReserveReply)
      (hnone : Event.granted ⟨.call (.reserve (qpm.binding serviceId) request job), answer⟩ = none) :
      AtRest request.key kept lost ⟨w.state, w.trace ++
        [⟨.call (.reserve (qpm.binding serviceId) request job), answer⟩]⟩ :=
    .of_concat (h.books.quiet hnone rfl fun _ _ => rfl) hnone rfl h.replies
  -- an answer that grants a reservation
  have hgrant (g : Grant) (hg : g.serviceId = serviceId) :
      Event.granted ⟨.call (.reserve (qpm.binding serviceId) request job), .ok g.reply⟩ =
        some g.pair := by
    simp [Event.granted, g.accepted, g.reservationId_eq, Grant.pair, hg]
  have htold (answer : Except AdapterFailure ReserveReply) :
      Told request.key ⟨w.state, w.trace ++
        [⟨.call (.reserve (qpm.binding serviceId) request job), answer⟩]⟩ := by
    cases answer with
    | error failure => exact (hnothing (.error failure) rfl).told
    | ok reply =>
      by_cases haccepted : reply.val.decision = .accepted
      · exact told_granted (hgrant ⟨serviceId, qpm, reply, haccepted⟩ rfl) (hunwritten _)
      · exact (hnothing (.ok reply) (by simp [Event.granted, haccepted])).told
  refine Procedure.Along.bind (Procedure.Along.adapt (along_adapterReserve h.told htold
    (fun reply => ⟨fun other hother => ?_, by rintro _ ⟨⟩⟩)
    fun failure => ⟨by rintro _ ⟨⟩, fun interrupted hinterrupted => ?_⟩))
  · cases hother
    by_cases haccepted : reply.val.decision = .accepted
    · let g : Grant := ⟨serviceId, qpm, reply, haccepted⟩
      have hrecorded : Recorded (w.state.recordReservation request.key
          (answeredRecord serviceId qpm reply fingerprint) none) request.key g.pair := by
        refine ⟨_, Journal.reservation_putReservation_self _ _ _ _, g.reservationId_eq, nofun, ?_⟩
        have hstate : (reply.val.decision.recordState).isTerminal = false := by
          rw [haccepted]
          rfl
        exact hstate
      have hrows (s : String) (hs : s ≠ serviceId) : (w.state.recordReservation request.key
          (answeredRecord serviceId qpm reply fingerprint) none).reservation request.key s =
          w.state.reservation request.key s := by
        rw [Journal.recordReservation, Journal.reservation_putReservation, if_neg]
        exact fun heq => hs heq.2
      have hbooks : Books request.key [] (g.pair :: kept) lost
          ⟨w.state.recordReservation request.key (answeredRecord serviceId qpm reply fingerprint) none,
            w.trace ++ [⟨.call (.reserve (qpm.binding serviceId) request job), .ok reply⟩] ++
              [⟨.transaction (.recordReservation request.key
                (answeredRecord serviceId qpm reply fingerprint) none), .ok ()⟩]⟩ :=
        h.books.grant (hgrant g rfl) rfl rfl rfl hfresh hrecorded hrows
      have hwritten := AtRest.of_concat hbooks rfl rfl
        ((repliesConfirm_concat rfl).trans h.replies)
      exact Procedure.Along.bind (Procedure.Along.adapt ⟨htold (.ok reply), hwritten.told,
        fun _ _ => ⟨hwritten.told, .inr ⟨g, rfl, rfl, hwritten⟩⟩, by rintro _ ⟨⟩⟩)
    · have hrefused := hnothing (.ok reply) (by simp [Event.granted, haccepted])
      have hwritten := hrefused.record (answeredRecord serviceId qpm reply fingerprint) hfresh none
      exact Procedure.Along.bind (Procedure.Along.adapt ⟨hrefused.told, hwritten.told, fun _ _ =>
        ⟨hwritten.told, .inl ⟨haccepted, hwritten⟩⟩, by rintro _ ⟨⟩⟩)
  · cases hinterrupted
    exact ⟨rfl, hnothing (.error failure) rfl⟩

lemma along_contact (h : AtRest request.key kept lost w)
    (hfresh : serviceId ∉ (kept ++ lost).map Prod.fst) :
    Procedure.Along (surroundings oracle noFaults) (Told request.key)
      (Contacted request.key serviceId kept lost)
      (contact request job serviceId fingerprint) w := by
  refine Procedure.Along.bind (Procedure.Along.adapt ((along_resolve h).mono ?_))
  rintro (error | binding) w₁ - ⟨hresolved, hbinding⟩
  · refine ⟨fun _ h => (nomatch h), fun interrupted hinterrupted => ?_⟩
    cases hinterrupted
    exact ⟨rfl, hresolved⟩
  refine ⟨fun other hother => ?_, fun _ h => (nomatch h)⟩
  cases hother
  obtain ⟨qpm, rfl⟩ := hbinding binding rfl
  have hpending := hresolved.record (pendingRecord serviceId qpm fingerprint) hfresh none
  refine Procedure.Along.bind (Procedure.Along.adapt
    ⟨hresolved.told, hpending.told, fun _ _ => along_asked hpending hfresh ?_,
      fun _ h => (nomatch h)⟩)
  rintro id ⟨row, hrow, hid, -⟩
  cases (Journal.reservation_putReservation_self w₁.state request.key serviceId _).symm.trans hrow
  cases hid

/-- Some account is kept, and no grant waits to be written down. -/
def Settled (key : AllocationKey) (w : GatewayWorld) : Prop := ∃ kept lost, AtRest key kept lost w

lemma Settled.told (h : Settled key w) : Told key w := by
  obtain ⟨kept, lost, h⟩ := h
  exact h.told

lemma along_settled {x : Gateway α} (hx : Procedure.Asks Query.Calm x) (h : Settled key w) :
    Procedure.Along (surroundings oracle noFaults) (Told key) (fun _ w' => Settled key w') x w := by
  obtain ⟨kept, lost, h⟩ := h
  exact (along_calm hx h).mono fun _ _ _ h => ⟨kept, lost, h⟩

variable {sha256 : Document → String}

/-- The account after the release call of a rollback, with the state that is about to be written. -/
inductive Unwound (key : AllocationKey) (g : Grant) (kept lost : List (String × ℤ)) :
    RecordState → GatewayWorld → Prop
  | confirmed {w : GatewayWorld} (books : Books key [] kept lost w)
      (fresh : g.serviceId ∉ (kept ++ lost).map Prod.fst)
      (replies : RepliesConfirm w.trace ↔ lost = []) : Unwound key g kept lost .rolledBack w
  | objected {w : GatewayWorld} (books : Books key [] (g.pair :: kept) lost w)
      (replies : ¬ RepliesConfirm w.trace) : Unwound key g kept lost .rolledBack w
  | failed {w : GatewayWorld} (books : Books key [] (g.pair :: kept) lost w)
      (replies : RepliesConfirm w.trace ↔ lost = []) : Unwound key g kept lost .rollbackFailed w

/-- The points before and after the release call of a rollback. -/
lemma along_rollbackCall (g : Grant) (failures : List String)
    (h : AtRest key (g.pair :: kept) lost w) :
    Procedure.Along (surroundings oracle noFaults) (Told key)
      (fun r w' => ∃ state diagnostic failures', r = .ok (state, diagnostic, failures') ∧
        Unwound key g kept lost state w')
      (tryCatch
        (do
          let _ ← adapterRelease g.binding g.result.reservationId 1
          return (RecordState.rolledBack, (none : Option String), failures))
        fun error =>
          let diagnostic := boundedDiagnostic error.message
          return (RecordState.rollbackFailed, some diagnostic, failures ++ [diagnostic])) w := by
  have hfresh : g.serviceId ∉ (kept ++ lost).map Prod.fst := by
    have hdistinct := h.books.distinct
    rw [List.cons_append, List.map_cons, List.nodup_cons] at hdistinct
    exact hdistinct.1
  -- what each answer leads to
  have hfailed (failure : AdapterFailure) :
      Told key ⟨w.state, w.trace ++
        [⟨.call (.release g.binding g.result.reservationId 1), .error failure⟩]⟩ ∧
      Unwound key g kept lost .rollbackFailed ⟨w.state, w.trace ++
        [⟨.call (.release g.binding g.result.reservationId 1), .error failure⟩]⟩ := by
    have hbooks : Books key [] (g.pair :: kept) lost ⟨w.state, w.trace ++
        [⟨.call (.release g.binding g.result.reservationId 1), .error failure⟩]⟩ :=
      h.books.quiet rfl rfl fun _ _ => rfl
    exact ⟨told_concat hbooks rfl h.replies,
      .failed hbooks ((repliesConfirm_concat rfl).trans h.replies)⟩
  have hreplied (reply : ReleaseReply) :
      Told key ⟨w.state, w.trace ++
        [⟨.call (.release g.binding g.result.reservationId 1), .ok reply⟩]⟩ ∧
      Unwound key g kept lost .rolledBack ⟨w.state, w.trace ++
        [⟨.call (.release g.binding g.result.reservationId 1), .ok reply⟩]⟩ := by
    by_cases hconfirms : reply.confirms
    · have hconfirmed : Event.confirmed ⟨.call (.release g.binding g.result.reservationId 1),
          .ok reply⟩ = some g.pair := by
        simp [Event.confirmed, hconfirms, Grant.pair]
      have hbooks := h.books.confirm rfl hconfirmed
      have hobjects : Event.objects ⟨.call (.release g.binding g.result.reservationId 1),
          .ok reply⟩ = false := by
        simp [Event.objects, hconfirms]
      exact ⟨told_concat hbooks rfl h.replies,
        .confirmed hbooks hfresh ((repliesConfirm_concat hobjects).trans h.replies)⟩
    · have hconfirmed : Event.confirmed ⟨.call (.release g.binding g.result.reservationId 1),
          .ok reply⟩ = none := by
        simp [Event.confirmed, hconfirms]
      have hbooks : Books key [] (g.pair :: kept) lost ⟨w.state, w.trace ++
          [⟨.call (.release g.binding g.result.reservationId 1), .ok reply⟩]⟩ :=
        h.books.quiet rfl hconfirmed fun _ _ => rfl
      refine ⟨told_concat hbooks rfl h.replies, .objected hbooks fun hreplies => ?_⟩
      have hlast := hreplies _ (List.mem_append_right _ (List.mem_singleton_self _))
      simp [Event.objects, hconfirms] at hlast
  refine Procedure.Along.tryCatch (Procedure.Along.bind (along_invoke h.told fun answer => ?_))
  cases answer with
  | ok reply =>
    obtain ⟨htold, hunwound⟩ := hreplied reply
    refine ⟨htold, fun _ _ => ⟨htold, fun outcome houtcome => ?_, by rintro _ ⟨⟩⟩, by rintro _ ⟨⟩⟩
    cases houtcome
    exact ⟨_, _, _, rfl, hunwound⟩
  | error failure =>
    obtain ⟨htold, hunwound⟩ := hfailed failure
    exact ⟨htold, by rintro _ ⟨⟩, fun e _ => ⟨by rintro _ ⟨⟩, fun e _ =>
      ⟨htold, _, _, _, rfl, hunwound⟩⟩⟩

/-- The row of a reservation is written again, with the reservation id. -/
lemma recorded_rewritten (j : Journal) (g : Grant) (record : ReservationRecord)
    (diagnostic : Option String) (hservice : record.serviceId = g.serviceId)
    (hid : record.reservationId = some g.id) (hruntime : record.qpmRuntimeId ≠ none) :
    Recorded (j.recordReservation key record diagnostic) key g.pair ↔
      record.state.isTerminal = false := by
  have hrow : (j.recordReservation key record diagnostic).reservation key g.serviceId =
      some (record.row diagnostic) := by
    rw [Journal.recordReservation, hservice, Journal.reservation_putReservation_self]
  constructor
  · rintro ⟨row, hsome, -, -, hstate⟩
    cases hrow.symm.trans hsome
    exact hstate
  · exact fun hstate => ⟨_, hrow, hid, hruntime, hstate⟩

/-- The row is written after the release call. -/
lemma Unwound.record {g : Grant} {state : RecordState} (h : Unwound key g kept lost state w)
    (record : ReservationRecord) (diagnostic : Option String) (hstate : record.state = state)
    (hservice : record.serviceId = g.serviceId) (hid : record.reservationId = some g.id)
    (hruntime : record.qpmRuntimeId ≠ none) :
    ∃ more lost', AtRest key (kept ++ more) lost'
      ⟨w.state.recordReservation key record diagnostic,
        w.trace ++ [⟨.transaction (.recordReservation key record diagnostic), .ok ()⟩]⟩ := by
  have hpair : Recorded (w.state.recordReservation key record diagnostic) key g.pair ↔
      record.state.isTerminal = false :=
    recorded_rewritten w.state g record diagnostic hservice hid hruntime
  have hrows (s : String) (hs : s ≠ g.serviceId) :
      (w.state.recordReservation key record diagnostic).reservation key s =
        w.state.reservation key s := by
    rw [Journal.recordReservation, Journal.reservation_putReservation, if_neg]
    rintro ⟨-, rfl⟩
    exact hs hservice
  cases h with
  | confirmed books fresh replies =>
    refine ⟨[], lost, ?_⟩
    rw [List.append_nil]
    exact .of_concat (books.quiet rfl rfl fun s hs => hrows s fun heq => fresh (heq ▸ hs)) rfl rfl
      replies
  | objected books replies =>
    refine ⟨[], g.pair :: lost, ?_⟩
    rw [List.append_nil]
    refine .of_concat (books.bury rfl rfl ?_ hrows) rfl rfl
      (iff_of_false replies (List.cons_ne_nil _ _))
    rw [hpair, hstate]
    exact Bool.noConfusion
  | failed books replies =>
    refine ⟨[g.pair], lost, ?_⟩
    have hrecorded : Recorded (w.state.recordReservation key record diagnostic) key g.pair := by
      rw [hpair, hstate]
      rfl
    exact .of_concat ((books.rewrite rfl rfl hrecorded hrows).perm
      (List.perm_append_singleton g.pair kept).symm) rfl rfl replies

/-- One pass of the rollback loop. -/
lemma along_rollbackOne (g : Grant) (failures : List String)
    (h : AtRest request.key (g.pair :: kept) lost w) :
    Procedure.Along (surroundings oracle noFaults) (Told request.key)
      (fun r w' => ∃ failures' more lost', r = .ok failures' ∧
        AtRest request.key (kept ++ more) lost' w')
      (rollbackOne sha256 request g.binding g.result failures) w := by
  refine Procedure.Along.bind ((along_rollbackCall g failures h).mono ?_)
  rintro r w' htold ⟨state, diagnostic, failures', rfl, hunwound⟩
  refine ⟨fun outcome houtcome => ?_, fun _ h => (nomatch h)⟩
  cases houtcome
  have hid : g.result.reservationId = some g.id := g.result_reservationId
  obtain ⟨more, lost', hwritten⟩ := hunwound.record
    { serviceId := g.binding.serviceId
      reservationId := g.result.reservationId
      qpmRuntimeId := some g.binding.runtimeId
      qpmGeneration := some g.binding.generation
      state := state
      requestFingerprint := some (sha256 (reservationDocument request)) } diagnostic rfl rfl hid nofun
  refine Procedure.Along.tryCatch (Procedure.Along.bind ⟨htold, hwritten.told, fun _ _ =>
    ⟨hwritten.told, fun failures hfailures => ?_, fun _ h => (nomatch h)⟩, fun _ h => (nomatch h)⟩)
  cases hfailures
  exact ⟨_, more, lost', rfl, hwritten⟩

lemma along_rollbackLoop (grants : List Grant) (failures : List String)
    (h : AtRest request.key (grants.map Grant.pair ++ kept) lost w) :
    Procedure.Along (surroundings oracle noFaults) (Told request.key)
      (fun _ w' => Settled request.key w')
      (rollbackLoop sha256 request (grants.map Grant.entry) failures) w := by
  induction grants generalizing failures kept lost w with
  | nil => exact ⟨h.told, _, _, h⟩
  | cons g grants ih =>
    rw [List.map_cons, List.cons_append] at h
    refine Procedure.Along.bind ((along_rollbackOne g failures h).mono ?_)
    rintro r w' - ⟨failures', more, lost', rfl, hpass⟩
    rw [List.append_assoc] at hpass
    exact ⟨fun next _ => ih next hpass, fun _ h => (nomatch h)⟩

lemma along_rollback (grants : List Grant)
    (h : AtRest request.key (grants.map Grant.pair).reverse [] w) :
    Procedure.Along (surroundings oracle noFaults) (Told request.key)
      (fun _ w' => Settled request.key w')
      (rollback sha256 request (grants.map Grant.entry)) w := by
  have hmark : Procedure.Asks Query.Calm (tryCatch
      (do
        transact (.setAllocationState request.key .rollingBack)
        return [])
      fun error => return [error.message] : Gateway (List String)) :=
    .tryCatch (.bind (asks_transact trivial) fun _ => trivial) fun _ => trivial
  refine along_calm_bind hmark h (fun failures w' h => ?_) fun _ _ h => ⟨_, _, h⟩
  rw [← List.map_reverse, ← List.append_nil (grants.reverse.map Grant.pair)] at h
  rw [← List.map_reverse]
  refine Procedure.Along.bind ((along_rollbackLoop grants.reverse failures h).mono ?_)
  intro r w'' htold hsettled
  refine ⟨fun failures' _ => ?_, fun _ _ => hsettled⟩
  split_ifs
  · exact ⟨htold, hsettled⟩
  · exact ⟨htold, hsettled⟩

/-- The points of the reserve loop. -/
lemma along_reserveLoop (services : List String) (grants : List Grant)
    (results : List ServiceResult) (h : AtRest request.key (grants.map Grant.pair).reverse [] w)
    (hnodup : services.Nodup)
    (hfresh : ∀ s ∈ services, s ∉ grants.map Grant.serviceId) :
    Procedure.Along (surroundings oracle noFaults) (Told request.key)
      (fun _ w' => Settled request.key w')
      (reserveLoop sha256 request job fingerprint services (grants.map Grant.entry) results) w := by
  induction services generalizing grants results w with
  | nil => exact ⟨h.told, _, _, h⟩
  | cons serviceId services ih =>
    have hservice : serviceId ∉ ((grants.map Grant.pair).reverse ++ []).map Prod.fst := by
      have hnames : ((grants.map Grant.pair).reverse ++ []).map Prod.fst =
          (grants.map Grant.serviceId).reverse := by
        rw [List.append_nil, List.map_reverse, List.map_map]
        rfl
      rw [hnames, List.mem_reverse]
      exact hfresh serviceId List.mem_cons_self
    refine Procedure.Along.bind (Procedure.Along.lift_run ((along_contact h hservice).mono ?_))
    rintro (interrupted | ⟨binding, result⟩) w' htold hcontacted
    · -- nothing was accepted in this pass
      refine ⟨fun outcome houtcome => ?_, by rintro _ ⟨⟩⟩
      cases houtcome
      obtain ⟨hresult, hrest⟩ := hcontacted
      have hpending : interrupted.pending (grants.map Grant.entry) = grants.map Grant.entry := by
        unfold Interrupted.pending
        rw [hresult]
        cases interrupted.binding <;> rfl
      dsimp only
      rw [abandon, hpending]
      refine Procedure.Along.bind (Procedure.Along.tryCatch ((along_rollback grants hrest).mono ?_))
      intro r w'' htold hsettled
      exact ⟨fun _ _ => ⟨fun _ _ => ⟨htold, hsettled⟩, fun _ _ => hsettled⟩,
        fun _ _ => ⟨htold, by rintro _ ⟨⟩, fun _ _ => hsettled⟩⟩
    · refine ⟨fun outcome houtcome => ?_, by rintro _ ⟨⟩⟩
      cases houtcome
      rcases hcontacted with ⟨hrefused, hrest⟩ | ⟨g, hg, hentry, hrest⟩
      · dsimp only
        rw [if_neg hrefused]
        refine Procedure.Along.bind ((along_rollback grants hrest).mono ?_)
        exact fun r w'' htold hsettled => ⟨fun _ _ => ⟨htold, hsettled⟩, fun _ _ => hsettled⟩
      · cases hentry
        dsimp only
        rw [if_pos g.result_decision]
        have haccepted : grants.map Grant.entry ++ [(g.binding, g.result)] =
            (grants ++ [g]).map Grant.entry := by
          rw [List.map_append]
          rfl
        rw [haccepted]
        refine ih (grants ++ [g]) _ ?_ (List.nodup_cons.mp hnodup).2 fun s hs hmem => ?_
        · rw [List.map_append, List.reverse_append]
          exact hrest
        · rw [List.map_append, List.mem_append] at hmem
          rcases hmem with hmem | hmem
          · exact hfresh s (List.mem_cons_of_mem _ hs) hmem
          · rw [List.map_singleton, List.mem_singleton, hg] at hmem
            subst hmem
            exact (List.nodup_cons.mp hnodup).1 hs

/-- Journalling an outcome is calm. -/
lemma outcomeAsks_calm (senderUid : ℤ) : OutcomeAsks request senderUid Query.Calm :=
  ⟨fun _ _ => trivial, fun _ _ => trivial, fun _ _ => trivial⟩

/-- The services a plan lacks are among the requested ones, each once. -/
lemma Plans.nodup_missing {j j' : Journal} {plan : AllocationPlan}
    (h : Plans sha256 request j plan j') (hservices : request.serviceIds.Nodup) :
    plan.missingServices.Nodup := by
  cases h with
  | fresh h => exact sorted_nodup.mpr hservices
  | covered row response h hcovered => exact List.nodup_nil
  | extended row response h hmissing => exact (sorted_nodup.mpr hservices).filter _
  | recalled row response h => exact List.nodup_nil

/-- What follows the calls of an attempt is calm. -/
lemma asks_endAttempt (senderUid : ℤ) (plan : AllocationPlan) (response : ReserveResponse) :
    Procedure.Asks Query.Calm (settleExtension request plan response >>=
      completeAttempt request senderUid plan : Gateway ReserveResponse) :=
  .bind (asks_settleExtension (fun _ _ => trivial) plan response) fun response =>
    asks_completeAttempt (outcomeAsks_calm senderUid) plan response

lemma along_attemptReserve {plan : AllocationPlan} (hmissing : plan.missingServices.Nodup)
    (senderUid : ℤ) (h : AtRest request.key [] [] w) :
    Procedure.Along (surroundings oracle noFaults) (Told request.key)
      (fun _ w' => Settled request.key w') (attemptReserve sha256 request senderUid job plan) w := by
  have hloop : Procedure.Along (surroundings oracle noFaults) (Told request.key)
      (fun _ w' => Settled request.key w')
      (reserveServices sha256 request job plan.missingServices
        (sha256 (reservationDocument request))) w :=
    along_reserveLoop (sorted plan.missingServices) [] [] h (sorted_nodup.mpr hmissing)
      fun _ _ => List.not_mem_nil
  have hcaught : Procedure.Along (surroundings oracle noFaults) (Told request.key)
      (fun _ w' => Settled request.key w')
      (tryCatch (reserveServices sha256 request job plan.missingServices
        (sha256 (reservationDocument request))) (recoverAttempt request senderUid plan)) w := by
    refine Procedure.Along.tryCatch (hloop.mono ?_)
    intro r w' _ hsettled
    exact ⟨fun _ _ => hsettled, fun error _ =>
      along_settled (asks_recoverAttempt (outcomeAsks_calm senderUid) plan error) hsettled⟩
  refine Procedure.Along.bind (hcaught.mono ?_)
  intro r w' _ hsettled
  exact ⟨fun response _ => along_settled (asks_endAttempt senderUid plan response) hsettled,
    fun _ _ => hsettled⟩

lemma along_beginReserve (hservices : request.serviceIds.Nodup) (senderUid : ℤ)
    (h : AtRest request.key [] [] w) :
    Procedure.Along (surroundings oracle noFaults) (Told request.key)
      (fun _ w' => Settled request.key w') (beginReserve sha256 request senderUid job) w := by
  have hrows {t : Transaction} {result : t.Result} {j' : Journal}
      (happly : t.apply w.state = .ok (result, j'))
      (ht : ∀ key record diagnostic, t ≠ .recordReservation key record diagnostic) :
      AtRest request.key [] [] ⟨j', w.trace ++ [⟨.transaction t, .ok result⟩]⟩ :=
    .of_concat (h.books.quiet rfl rfl fun s _ => Transaction.reservation_apply happly ht _ s) rfl rfl
      h.replies
  refine Procedure.Along.bind (along_transact h.told (fun plan j' hplan => ?_) fun error _ => ?_)
  swap
  · have hfailed : AtRest request.key [] [] ⟨w.state, w.trace ++ [⟨.transaction (.beginAllocation
        request.key request.jobUid request.jobGid request.serviceIds
        (sha256 (allocationDocument request)) (sha256 (reservationDocument request))),
        .error error⟩]⟩ :=
      .of_concat (h.books.quiet rfl rfl fun _ _ => rfl) rfl rfl h.replies
    exact ⟨hfailed.told, fun _ h => (nomatch h), fun _ _ => ⟨_, _, hfailed⟩⟩
  have hbegun := hrows hplan fun key record diagnostic heq => by
    cases heq
  have hmissing := (plans_of_beginAllocation hplan).nodup_missing hservices
  refine ⟨hbegun.told, fun other hother => ?_, fun _ h => (nomatch h)⟩
  cases hother
  split_ifs
  · exact along_settled (asks_reuseAllocation (outcomeAsks_calm senderUid) plan) ⟨_, _, hbegun⟩
  · exact along_attemptReserve hmissing senderUid hbegun

/-- The points of a reserve handler. -/
theorem along_reserveTry (hservices : request.serviceIds.Nodup) (senderUid : ℤ) (j : Journal) :
    Procedure.Along (surroundings oracle noFaults) (Told request.key)
      (fun _ w' => Settled request.key w') (reserveTry sha256 request senderUid) ⟨j, []⟩ := by
  have hstart : AtRest request.key [] [] (⟨j, []⟩ : GatewayWorld) := by
    refine ⟨⟨fun pair => ?_, fun _ h => (nomatch h), fun _ h => (nomatch h), List.nodup_nil⟩, ?_, ?_⟩
    · exact ⟨fun h => (nomatch h), fun h => h.elim (fun h => nomatch h) fun h => nomatch h⟩
    · exact ⟨fun _ => rfl, fun _ _ h => (nomatch h)⟩
    · intro event hevent
      rw [List.getLast?_nil] at hevent
      cases hevent
  have hverify : Procedure.Asks Query.Calm (verifyReserve request senderUid) :=
    ⟨trivial, fun _ => trivial⟩
  refine along_calm_bind hverify hstart (fun job w h => ?_) fun _ _ h => ⟨_, _, h⟩
  refine along_calm_bind (asks_transact trivial) h (fun prior w h => ?_) fun _ _ h => ⟨_, _, h⟩
  cases prior with
  | some prior => exact along_settled (asks_replayReserve trivial prior) ⟨_, _, h⟩
  | none => exact along_beginReserve hservices senderUid h

end Attempts

/-! ### The points of a release -/

/-- Everything that is held is on record. -/
def Intact (key : AllocationKey) (held : List (String × ℤ)) (w : GatewayWorld) : Prop :=
  ∀ pair ∈ unconfirmed held w.trace, Recorded w.state key pair

/-- A point of a release pass: the rows that it has not come to are as it has read them. -/
structure InPass (key : AllocationKey) (held : List (String × ℤ)) (records : List ReservationRecord)
    (w : GatewayWorld) : Prop where
  intact : Intact key held w
  rows : ∀ record ∈ records, ∃ row, w.state.reservation key record.serviceId = some row ∧
    row.reservationId = record.reservationId ∧ row.qpmRuntimeId = record.qpmRuntimeId

section Passes

variable {oracle : Oracle} {key : AllocationKey} {held : List (String × ℤ)}
  {records : List ReservationRecord} {w : GatewayWorld} {α β : Type}

/-- An event that grants nothing and writes no row. -/
lemma Intact.concat {j j' : Journal} {events : List Event} {event : Event}
    (h : Intact key held ⟨j, events⟩) (hgranted : event.granted = none)
    (hrows : ∀ s, j'.reservation key s = j.reservation key s) :
    Intact key held ⟨j', events ++ [event]⟩ := by
  intro pair hpair
  rcases mem_unconfirmed_concat.mp hpair with hgrant | ⟨hmem, -⟩
  · rw [hgranted] at hgrant
    cases hgrant
  · exact (recorded_congr (hrows _)).mpr (h pair hmem)

lemma InPass.concat {j j' : Journal} {events : List Event} {event : Event}
    (h : InPass key held records ⟨j, events⟩) (hgranted : event.granted = none)
    (hrows : ∀ s, j'.reservation key s = j.reservation key s) :
    InPass key held records ⟨j', events ++ [event]⟩ := by
  refine ⟨h.intact.concat hgranted hrows, fun record hrecord => ?_⟩
  dsimp only
  rw [hrows]
  exact h.rows record hrecord

lemma InPass.calm (h : InPass key held records w) {q : Query} (hq : q.Calm) :
    InPass key held records ((surroundings oracle noFaults).respond q w).2 :=
  h.concat (hq.event (surroundings oracle noFaults q w).1).1 fun s => hq.rows oracle noFaults w key s

lemma along_pass_calm {x : Gateway α} (hx : Procedure.Asks Query.Calm x)
    (h : InPass key held records w) :
    Procedure.Along (surroundings oracle noFaults) (Intact key held)
      (fun _ w' => InPass key held records w') x w :=
  Program.Along.of_asks (fun _ h => h.intact) (fun _ _ hq hw => hw.calm hq) hx h

variable {request : ReleaseRequest} {record : ReservationRecord}

/-- A release call leaves everything on record; if it succeeds, the reservation is not held any
more. -/
lemma along_releaseCall (h : InPass key held records w) :
    Procedure.Along (surroundings oracle noFaults) (Intact key held)
      (fun r w' => InPass key held records w' ∧
        ∀ outcome : ReleaseOutcome × Option String, r = .ok outcome →
          outcome.1.journalState.isTerminal = true →
            ∀ id, record.reservationId = some id →
              (record.serviceId, id) ∉ unconfirmed held w'.trace)
      (releaseCall request record) w := by
  have hresolve : Procedure.Along (surroundings oracle noFaults) (Intact key held)
      (fun r w' => InPass key held records w' ∧ ∀ binding, r = .ok binding →
        binding.serviceId = record.serviceId) (resolve record.serviceId) w := by
    refine Procedure.Along.bind (along_invoke h.intact fun answer => ?_)
    have hanswer : InPass key held records ⟨w.state, w.trace ++
        [⟨.call (.resolve record.serviceId), answer⟩]⟩ := h.concat rfl fun _ => rfl
    refine ⟨hanswer.intact, fun qpm _ => ⟨hanswer.intact, hanswer, fun binding hbinding => ?_⟩,
      fun _ _ => ⟨hanswer, fun _ h => (nomatch h)⟩⟩
    cases hbinding
    rfl
  refine Procedure.Along.bind (hresolve.mono ?_)
  rintro (error | binding) w₁ hintact ⟨hpass, hbinding⟩
  · exact ⟨fun _ h => (nomatch h), fun _ _ => ⟨hpass, fun _ h => (nomatch h)⟩⟩
  refine ⟨fun other hother => ?_, fun _ h => (nomatch h)⟩
  cases hother
  have hservice := hbinding binding rfl
  split_ifs
  · refine ⟨hintact, hpass, fun outcome houtcome hterminal => ?_⟩
    cases houtcome
    cases hterminal
  · refine Procedure.Along.bind (along_invoke hintact fun answer => ?_)
    have hanswer : InPass key held records ⟨w₁.state, w₁.trace ++
        [⟨.call (.release binding record.reservationId request.reason), answer⟩]⟩ :=
      hpass.concat (by cases answer <;> rfl) fun _ => rfl
    refine ⟨hanswer.intact, fun raw hraw => ?_,
      fun _ _ => ⟨hanswer, fun _ h => (nomatch h)⟩⟩
    cases answer with
    | error failure => cases hraw
    | ok reply =>
      cases hraw
      by_cases hconfirms : raw.confirms
      · rw [if_neg (not_not.mpr hconfirms)]
        refine ⟨hanswer.intact, hanswer, fun _ _ _ id hid hheld => ?_⟩
        rcases mem_unconfirmed_concat.mp hheld with hgrant | ⟨-, hne⟩
        · cases hgrant
        · refine hne ?_
          simp [Event.confirmed, hconfirms, hid, hservice]
      · rw [if_pos hconfirms]
        exact ⟨hanswer.intact, hanswer, fun _ h => (nomatch h)⟩

/-- The row is written after the release call. -/
lemma InPass.written {state : RecordState} (h : InPass key held (record :: records) w)
    (hservice : record.serviceId ∉ records.map (·.serviceId)) (diagnostic : Option String)
    (hstate : state.isTerminal = true → ∀ id, record.reservationId = some id →
      (record.serviceId, id) ∉ unconfirmed held w.trace) :
    InPass key held records
      ⟨w.state.recordReservation key { record with state := state } diagnostic, w.trace ++
        [⟨.transaction (.recordReservation key { record with state := state } diagnostic),
          .ok ()⟩]⟩ := by
  have hrows (s : String) (hs : s ≠ record.serviceId) :
      (w.state.recordReservation key { record with state := state } diagnostic).reservation key s =
        w.state.reservation key s := by
    rw [Journal.recordReservation, Journal.reservation_putReservation, if_neg]
    exact fun heq => hs heq.2
  refine ⟨fun pair hpair => ?_, fun other hother => ?_⟩
  · rcases mem_unconfirmed_concat.mp hpair with hgrant | ⟨hmem, -⟩
    · cases hgrant
    have hbefore := h.intact pair hmem
    by_cases hs : pair.1 = record.serviceId
    swap
    · exact (recorded_congr (hrows _ hs)).mpr hbefore
    -- the row that is written has the id and the incarnation of the one before
    obtain ⟨row, hrow, hid, hruntime, -⟩ := hbefore
    obtain ⟨row', hrow', hid', hruntime'⟩ := h.rows record List.mem_cons_self
    rw [hs, hrow'] at hrow
    cases hrow
    rw [hid] at hid'
    rw [hruntime'] at hruntime
    refine ⟨_, by rw [hs]; exact Journal.reservation_putReservation_self _ _ _ _, hid'.symm,
      hruntime, ?_⟩
    by_contra hterminal
    have hgone : state.isTerminal = true := Bool.eq_true_of_not_eq_false hterminal
    exact hstate hgone pair.2 hid'.symm (by rw [← hs]; exact hmem)
  · have hs : other.serviceId ≠ record.serviceId := fun heq =>
      hservice (heq ▸ List.mem_map_of_mem hother)
    dsimp only
    rw [hrows _ hs]
    exact h.rows other (List.mem_cons_of_mem _ hother)

lemma along_releaseOne (h : InPass request.key held (record :: records) w)
    (hservice : record.serviceId ∉ records.map (·.serviceId)) :
    Procedure.Along (surroundings oracle noFaults) (Intact request.key held)
      (fun _ w' => InPass request.key held records w') (releaseOne request record) w := by
  have hrest : InPass request.key held records w :=
    ⟨h.intact, fun other hother => h.rows other (List.mem_cons_of_mem _ hother)⟩
  unfold releaseOne
  split_ifs
  · exact ⟨h.intact, hrest⟩
  refine Procedure.Along.bind (Procedure.Along.tryCatch ((along_releaseCall h).mono ?_))
  rintro r w₁ hintact ⟨hpass, hreleased⟩
  have hwrite (outcome : ReleaseOutcome × Option String)
      (houtcome : outcome.1.journalState.isTerminal = true → ∀ id, record.reservationId = some id →
        (record.serviceId, id) ∉ unconfirmed held w₁.trace) :
      Procedure.Along (surroundings oracle noFaults) (Intact request.key held)
        (fun _ w' => InPass request.key held records w')
        (do
          transact (.recordReservation request.key
            { record with state := outcome.1.journalState } outcome.2)
          return ({ serviceId := record.serviceId
                    reservationId := record.reservationId.getD 0
                    state := outcome.1.reservationState
                    gatewayError := if outcome.1 = .qpmFailure then some .qpm else none
                    diagnostic := outcome.2 } : ReleaseResult)) w₁ := by
    have hwritten := hpass.written hservice outcome.2 houtcome
    exact Procedure.Along.bind ⟨hintact, hwritten.intact, fun _ _ => ⟨hwritten.intact, hwritten⟩,
      fun _ h => (nomatch h)⟩
  refine ⟨fun outcome houtcome => ⟨fun other hother => ?_, fun _ h => (nomatch h)⟩, fun error _ =>
    ⟨hintact, fun other hother => ?_, fun _ h => (nomatch h)⟩⟩
  · cases hother
    exact hwrite outcome (hreleased outcome houtcome)
  · cases hother
    exact hwrite (.qpmFailure, some (boundedDiagnostic error.message)) nofun

lemma along_releaseAll (h : InPass request.key held records w)
    (hservices : (records.map (·.serviceId)).Nodup) :
    Procedure.Along (surroundings oracle noFaults) (Intact request.key held)
      (fun _ w' => InPass request.key held [] w') (releaseAll request records) w := by
  induction records generalizing w with
  | nil => exact ⟨h.intact, h⟩
  | cons record records ih =>
    rw [List.map_cons, List.nodup_cons] at hservices
    unfold releaseAll
    split_ifs
    · refine ih ⟨h.intact, fun other hother => ?_⟩ hservices.2
      exact h.rows other (List.mem_cons_of_mem _ hother)
    · refine Procedure.Along.bind ((along_releaseOne h hservices.1).mono fun r w₁ _ hpass =>
        ⟨fun result _ => ?_, fun _ _ => ⟨hpass.intact, by rintro _ ⟨⟩⟩⟩)
      refine Procedure.Along.bind ((ih hpass hservices.2).mono fun r w₂ hintact hend =>
        ⟨fun results _ => ⟨hintact, hend⟩, fun _ _ => hend⟩)

/-- The points of a release pass and of what is journalled after it. -/
lemma along_pass {Post : Except PyError α → GatewayWorld → Prop}
    {f : List ReleaseResult → Gateway α} (h : InPass request.key held [] w)
    (hf : ∀ results, Procedure.Asks Query.Calm (f results)) (hpost : ∀ r w, Post r w) :
    Procedure.Along (surroundings oracle noFaults) (Intact request.key held) Post (do
      let records ← transact (.reservations request.key)
      let results ← releaseAll request records
      f results) w := by
  refine Procedure.Along.bind (along_transact h.intact (fun records j' hread => ?_)
    fun error herror => (nomatch herror))
  cases hread
  have hstart : InPass request.key held (w.state.reservations request.key) ⟨w.state, w.trace ++
      [⟨.transaction (.reservations request.key), .ok (w.state.reservations request.key)⟩]⟩ := by
    refine ⟨h.intact.concat rfl fun _ => rfl, fun record hrecord => ?_⟩
    obtain ⟨row, hrow, hsame⟩ := Journal.mem_reservations.mp hrecord
    exact ⟨row, hrow, by rw [← hsame]; rfl, by rw [← hsame]; rfl⟩
  refine ⟨hstart.intact, fun other hother => ?_, fun _ h => (nomatch h)⟩
  cases hother
  refine Procedure.Along.bind ((along_releaseAll hstart (Journal.nodup_reservations _ _)).mono
    fun r w₁ _ hend => ⟨fun results _ => ?_, fun _ _ => hpost _ _⟩)
  exact (along_pass_calm (hf results) hend).mono fun _ _ _ _ => hpost _ _

/-- The points of a release handler. -/
theorem along_releaseTry (sha256 : Document → String) (senderUid : ℤ) {j : Journal}
    (h : ∀ pair ∈ held, Recorded j request.key pair) :
    Procedure.Along (surroundings oracle noFaults) (Intact request.key held)
      (fun _ _ => True) (releaseTry sha256 request senderUid) ⟨j, []⟩ := by
  have hbind {α β : Type} {x : Gateway α} {f : α → Gateway β} {w : GatewayWorld}
      (hx : Procedure.Asks Query.Calm x) (h : InPass request.key held [] w)
      (hf : ∀ a w', InPass request.key held [] w' → Procedure.Along (surroundings oracle noFaults)
        (Intact request.key held) (fun _ _ => True) (f a) w') :
      Procedure.Along (surroundings oracle noFaults) (Intact request.key held) (fun _ _ => True)
        (x >>= f) w :=
    Procedure.Along.bind ((along_pass_calm hx h).mono fun _ w' _ hw' =>
      ⟨fun a _ => hf a w' hw', fun _ _ => trivial⟩)
  have hstart : InPass request.key held [] (⟨j, []⟩ : GatewayWorld) :=
    ⟨h, fun _ h => (nomatch h)⟩
  refine hbind (asks_transact trivial) hstart fun prior w h => ?_
  cases prior with
  | some prior =>
    exact (along_pass_calm (asks_replayRelease prior) h).mono fun _ _ _ _ => trivial
  | none =>
    have hverify (status : Option AllocationRow) : Procedure.Asks Query.Calm
        (verifyRelease request senderUid (status.map AllocationRow.jobUid)) :=
      ⟨trivial, fun _ => trivial⟩
    refine hbind (asks_transact trivial) h fun status w h => hbind (hverify status) h fun _ w h => ?_
    refine along_pass h (fun results => ?_) fun _ _ => trivial
    exact .bind (asks_transact trivial) fun _ => .bind (asks_transact trivial) fun _ => trivial

end Passes

/-! ### Releases afterwards -/

section Afterwards

variable {oracle : Oracle} {runtime : Option String} {s : String}

/-- Statements that only use the journal call no QPM. -/
lemma ends_of_transactions {α : Type} {w : GatewayWorld} {x : Gateway α}
    (h : Procedure.Asks (fun q => ∃ t, q = .transaction t) x) :
    Ends w (surroundings oracle noFaults) x fun _ _ calls => calls = [] := by
  obtain ⟨events, htrace, hevents⟩ := Program.run_trace_asks (surroundings oracle noFaults) h w
  refine ⟨events, htrace, List.filter_eq_nil_iff.mpr fun event hevent => ?_⟩
  obtain ⟨q, answer⟩ := event
  obtain ⟨t, rfl⟩ := hevents _ hevent
  exact Bool.false_ne_true

/-- The QPM of the service is found in the incarnation. -/
def Finds (oracle : Oracle) (s : String) (runtime : Option String) : Prop :=
  ∀ n, ∃ qpm, oracle n (.resolve s) = .ok qpm ∧ some qpm.runtimeId = runtime

lemma Finds.of_mem (h : Finds oracle s runtime) {α : Type} {p : Program Query Answer α}
    {j : Journal} {answer : Except AdapterFailure Incarnation}
    (hmem : (⟨.call (.resolve s), answer⟩ : Event) ∈
      (p.run (surroundings oracle noFaults) ⟨j, []⟩).2.trace) :
    ∃ qpm, answer = .ok qpm ∧ some qpm.runtimeId = runtime := by
  obtain ⟨events, htrace, hevents⟩ := Program.run_trace_answers
    (P := fun event => ∀ answer, event = (⟨.call (.resolve s), answer⟩ : Event) →
      ∃ qpm, answer = .ok qpm ∧ some qpm.runtimeId = runtime)
    (surroundings oracle noFaults) (by
      intro q w answer hevent
      cases hevent
      exact h w.trace.length) p ⟨j, []⟩
  rw [htrace] at hmem
  exact hevents _ hmem answer rfl

/-- A pass calls `adapter.release` for a row that it does not leave alone, if the QPM is found. -/
lemma returned_of_passes {request : ReleaseRequest} {records : List ReservationRecord}
    {visits : List Visit} (hpass : Passes records visits) {record : ReservationRecord}
    (hrecord : record ∈ records) {id : ℤ} (hid : record.reservationId = some id)
    (hstate : record.state.isTerminal = false)
    (hfound : ∀ answer : Except AdapterFailure Incarnation,
      (⟨.call (.resolve record.serviceId), answer⟩ : Event) ∈
        visits.flatMap (Visit.calls · request) →
      ∃ qpm, answer = .ok qpm ∧ some qpm.runtimeId = record.qpmRuntimeId) :
    (record.serviceId, some id) ∈ returned (visits.flatMap (Visit.calls · request)) := by
  have hvisited : record ∈ visits.map Visit.record := by
    rw [hpass.1, List.mem_filter]
    exact ⟨hrecord, by simp [hid]⟩
  obtain ⟨v, hv, rfl⟩ := List.mem_map.mp hvisited
  have hcalls {event : Event} (hevent : event ∈ v.calls request) :
      event ∈ visits.flatMap (Visit.calls · request) := List.mem_flatMap.mpr ⟨v, hv, hevent⟩
  have hsound := hpass.2 v hv
  obtain ⟨record, disposal⟩ := v
  cases disposal with
  | none =>
    rw [hsound.2] at hstate
    cases hstate
  | some disposal =>
    -- the call that a disposal after a successful `resolve` consists of
    have hreleased {answer : Except AdapterFailure ReleaseReply} {qpm : Incarnation}
        (hmem : (⟨.call (.release (qpm.binding record.serviceId) record.reservationId
          request.reason), answer⟩ : Event) ∈ disposal.calls request record) :
        (record.serviceId, some id) ∈ returned (visits.flatMap (Visit.calls · request)) := by
      refine List.mem_filterMap.mpr ⟨_, hcalls hmem, ?_⟩
      simp only [Event.returned, Incarnation.binding_serviceId]
      rw [hid]
    cases disposal with
    | unresolved failure =>
      obtain ⟨qpm, hqpm, -⟩ := hfound (.error failure) (hcalls List.mem_cons_self)
      cases hqpm
    | restarted qpm =>
      obtain ⟨found, hqpm, hruntime⟩ := hfound (.ok qpm) (hcalls List.mem_cons_self)
      cases hqpm
      exact absurd hruntime hsound.2.2
    | failed qpm failure => exact hreleased (List.mem_cons_of_mem _ List.mem_cons_self)
    | answered qpm reply => exact hreleased (List.mem_cons_of_mem _ List.mem_cons_self)

/-- A verified release request makes a pass over the rows. -/
lemma ends_attemptRelease {request : ReleaseRequest} {senderUid : ℤ} (w : GatewayWorld)
    (hverified : ∀ n uid, ∃ job, oracle n (.verifyRelease request senderUid uid) = .ok job) :
    Ends w (surroundings oracle noFaults) (attemptRelease request senderUid)
      fun _ _ calls => ∃ visits, Passes (w.state.reservations request.key) visits ∧
        calls = visits.flatMap (Visit.calls · request) := by
  have hstatus : Procedure.exec (surroundings oracle noFaults)
      (transact (.allocationStatus request.key)) w =
      (.ok (w.state.allocation request.key), ⟨w.state, w.trace ++ [⟨.transaction
        (.allocationStatus request.key), .ok (w.state.allocation request.key)⟩]⟩) :=
    exec_transact_noFaults oracle w (.allocationStatus request.key)
  refine Ends.bind hstatus rfl rfl ?_
  have hverify := exec_invoke oracle noFaults
    ⟨w.state, w.trace ++ [⟨.transaction (.allocationStatus request.key),
      .ok (w.state.allocation request.key)⟩]⟩
    (.verifyRelease request senderUid
      (Option.map AllocationRow.jobUid (w.state.allocation request.key)))
    (Except.mapError VerifierFailure.error)
  obtain ⟨job, hjob⟩ := hverified (w.trace ++ [(⟨.transaction (.allocationStatus request.key),
    .ok (w.state.allocation request.key)⟩ : Event)]).length
    (Option.map AllocationRow.jobUid (w.state.allocation request.key))
  rw [hjob] at hverify
  refine Ends.bind hverify rfl rfl ?_
  refine Ends.bind (exec_reservations oracle _ request.key) rfl rfl ?_
  obtain ⟨visits, hpass, events, hall, hcalls⟩ := exec_releaseAll oracle request
    (w.state.reservations request.key) _
  refine Ends.bind_calls hall rfl ?_
  have hend (results : List ReleaseResult) : Procedure.Asks (fun q => ∃ t, q = .transaction t) (do
      let response : ReleaseResponse := ⟨request.requestId, results⟩
      let encoded := responseToDict (.release response)
      transact (.completeAllocation request.key
        (releasedState ReservationState.isUnresolved results) encoded)
      transact (.completeOperation (request.operationKey senderUid) encoded .complete)
      return response : Gateway ReleaseResponse) :=
    .bind (asks_transact ⟨_, rfl⟩) fun _ => .bind (asks_transact ⟨_, rfl⟩) fun _ => trivial
  refine (ends_of_transactions (hend _)).mono fun _ _ calls hnone => ⟨visits, hpass, ?_⟩
  rw [hnone, hcalls, List.append_nil]

/-- The calls of a procedure that makes a pass reach a row that it does not leave alone. -/
lemma returned_of_ends {α : Type} {x : Gateway α} {j : Journal} (request : ReleaseRequest)
    {records : List ReservationRecord}
    (h : Ends ⟨j, []⟩ (surroundings oracle noFaults) x fun _ _ calls =>
      ∃ visits, Passes records visits ∧ calls = visits.flatMap (Visit.calls · request))
    {record : ReservationRecord} (hrecord : record ∈ records) {id : ℤ}
    (hid : record.reservationId = some id) (hstate : record.state.isTerminal = false)
    (hfinds : Finds oracle record.serviceId record.qpmRuntimeId) :
    (record.serviceId, some id) ∈
      returned (Procedure.exec (surroundings oracle noFaults) x ⟨j, []⟩).2.trace := by
  obtain ⟨visits, hpass, hcalls⟩ := h.of_nil
  rw [← returned_adapterCalls, hcalls]
  refine returned_of_passes hpass hrecord hid hstate fun answer hanswer => ?_
  rw [← hcalls] at hanswer
  exact hfinds.of_mem (List.mem_filter.mp hanswer).1

end Afterwards

/-- The reservation is on record.  After any requests for other allocations, a release request under
a new request id and a `retry_release` call `adapter.release` for it, when the QPM is found in the
incarnation on record. -/
structure Retrievable (sha256 : Document → String) (j : Journal) (key : AllocationKey)
    (pair : String × ℤ) : Prop where
  recorded : Recorded j key pair
  released : ∀ steps : List Step, (∀ step ∈ steps, step.key ≠ some key) →
    ∀ row, j.reservation key pair.1 = some row →
    ∀ (request : ReleaseRequest) (oracle : Oracle), request.key = key →
    Finds oracle pair.1 row.qpmRuntimeId →
    (∀ senderUid,
      (journalAfter sha256 j steps).operation (request.operationKey senderUid) = none →
      (∀ n uid, ∃ job, oracle n (.verifyRelease request senderUid uid) = .ok job) →
      (pair.1, some pair.2) ∈ returned
        (serve sha256 (journalAfter sha256 j steps) (.release request) senderUid oracle).2.trace) ∧
    (pair.1, some pair.2) ∈
      returned ((Step.retry request oracle).trace sha256 (journalAfter sha256 j steps))

/-- Requests for other allocations leave the rows of an allocation alone. -/
lemma sameRows_journalAfter (sha256 : Document → String) (j : Journal) {key : AllocationKey}
    {steps : List Step} (h : ∀ step ∈ steps, step.key ≠ some key) :
    SameRows j (journalAfter sha256 j steps) key := by
  induction steps using List.reverseRecOn with
  | nil => exact SameRows.refl j key
  | append_singleton steps step ih =>
    rw [journalAfter_concat]
    have hbefore := ih fun other hother => h other (List.mem_append_left _ hother)
    exact hbefore.trans (step.sameRows (h step (by simp)))

/-- What is on record can be released. -/
lemma Recorded.retrievable (sha256 : Document → String) {j : Journal} {key : AllocationKey}
    {pair : String × ℤ} (h : Recorded j key pair) : Retrievable sha256 j key pair := by
  refine ⟨h, fun steps hsteps row hrow request oracle hkey hfinds => ?_⟩
  obtain ⟨row', hrow', hid, -, hstate⟩ := h
  cases hrow'.symm.trans hrow
  have hsame := sameRows_journalAfter sha256 j hsteps
  generalize journalAfter sha256 j steps = j' at hsame
  have hlisted : row.record pair.1 ∈ j'.reservations request.key := by
    rw [hkey]
    exact Journal.mem_reservations.mpr ⟨row, (hsame.reservation_eq pair.1).trans hrow, rfl⟩
  refine ⟨fun senderUid hnew hverified => ?_, ?_⟩
  · rw [serve, handle, release, run_answer]
    refine returned_of_ends request ?_ hlisted hid hstate hfinds
    have hbegin := exec_transact_noFaults oracle ⟨j', []⟩
      (.beginOperation (request.operationKey senderUid) (sha256 (.release request)))
    simp only [Transaction.apply, Journal.beginOperation, hnew] at hbegin
    exact Ends.bind hbegin rfl rfl (ends_attemptRelease _ hverified)
  · refine returned_of_ends request ?_ hlisted hid hstate hfinds
    refine (exec_retryRelease oracle request ⟨j', []⟩).mono fun result j'' calls hretries => ?_
    cases hretries with
    | unknown visits hpass hallocation j'' hj => exact ⟨visits, hpass, rfl⟩
    | retried row visits hpass hallocation j'' hj => exact ⟨visits, hpass, rfl⟩

/-! ### Cancelled handlers -/

/-- A point of a handler is a point of its body. -/
lemma along_body {α : Type} {oracle : Oracle} {I : GatewayWorld → Prop} {body : Gateway α}
    {Post : Except PyError α → GatewayWorld → Prop} {w : GatewayWorld}
    (h : Procedure.Along (surroundings oracle noFaults) I Post body w) (respond : α → Response)
    (fail : PyError → Response) :
    (do return .ok (← answer body respond fail) :
      Program Query Answer (Except PyError Response)).Along (surroundings oracle noFaults) I
        (fun _ _ => True) w := by
  refine Program.Along.bind (Program.Along.bind (Program.Along.mono ?_ h))
  intro r w' hI _
  cases r with
  | ok value => exact ⟨hI, hI, trivial⟩
  | error error => exact ⟨hI, hI, trivial⟩

/-- A handler that is stopped after `n` questions.  At a reserve request, each reservation that was
granted and not given back since is on record and can be released later, exactly when the last call
grants no reservation and the replies before it confirm.  At a release request, each reservation
that was on record is so still unless its release was confirmed. -/
theorem cancelled_loses_nothing_iff (sha256 : Document → String) (j : Journal) (senderUid : ℤ)
    (oracle : Oracle) (n : ℕ) :
    (∀ request (valid : (Request.reserve request).Valid),
      (∀ pair ∈ unconfirmed []
        ((Step.handle (.reserve request) valid senderUid oracle).upTo sha256 j n).2.trace,
        Retrievable sha256
          ((Step.handle (.reserve request) valid senderUid oracle).upTo sha256 j n).2.state
          request.key pair) ↔
      Sparing ((Step.handle (.reserve request) valid senderUid oracle).upTo sha256 j n).2.trace) ∧
    ∀ (request : ReleaseRequest) (valid : (Request.release request).Valid)
      (held : List (String × ℤ)), (∀ pair ∈ held, Recorded j request.key pair) →
      ∀ pair ∈ unconfirmed held
        ((Step.handle (.release request) valid senderUid oracle).upTo sha256 j n).2.trace,
        Retrievable sha256
          ((Step.handle (.release request) valid senderUid oracle).upTo sha256 j n).2.state
          request.key pair := by
  refine ⟨fun request valid => ?_, fun request valid held hheld pair hpair => ?_⟩
  · have htold : Told request.key
        ((Step.handle (.reserve request) valid senderUid oracle).upTo sha256 j n).2 :=
      (along_body (along_reserveTry (services_of_valid valid).2.1 senderUid j) _ _).runFor n
    refine Iff.trans ⟨fun h pair hpair => ?_, fun h pair hpair => ?_⟩ htold
    · exact (h pair hpair).recorded
    · exact (h pair hpair).retrievable sha256
  · have hintact : Intact request.key held
        ((Step.handle (.release request) valid senderUid oracle).upTo sha256 j n).2 :=
      (along_body (along_releaseTry sha256 senderUid hheld) _ _).runFor n
    exact (hintact pair hpair).retrievable sha256

/-- The reserve handler is cancelled while it looks for the QPM of `qpm-b`. -/
theorem cancelled_loses_nothing_iff_resolving :
    Retrievable sampleDigest
      ((Step.handle (.reserve (sampleReserve 1 ["qpm-a", "qpm-b"])) (by decide) 1000
        obliging).upTo sampleDigest Journal.empty 8).2.state sampleKey ("qpm-a", 5) := by
  refine ((cancelled_loses_nothing_iff sampleDigest Journal.empty 1000 obliging 8).1
    (sampleReserve 1 ["qpm-a", "qpm-b"]) (by decide)).mpr ⟨fun event hevent => ?_, by decide⟩
      ("qpm-a", 5) (by decide)
  cases hevent
  rfl

/-- The reserve handler is cancelled while the QPM of `qpm-a` grants reservation 5. -/
theorem cancelled_while_granting :
    unconfirmed [] ((Step.handle (.reserve (sampleReserve 1 ["qpm-a"])) (by decide) 1000
        obliging).upTo sampleDigest Journal.empty 6).2.trace = [("qpm-a", 5)] ∧
      (((Step.handle (.reserve (sampleReserve 1 ["qpm-a"])) (by decide) 1000
        obliging).upTo sampleDigest Journal.empty 6).2.state.reservation sampleKey "qpm-a").map
          (fun row => (row.state, row.reservationId)) = some (.pending, none) ∧
      returned ((Step.retry (sampleRelease 2) obliging).trace sampleDigest
        ((Step.handle (.reserve (sampleReserve 1 ["qpm-a"])) (by decide) 1000
          obliging).upTo sampleDigest Journal.empty 6).2.state) = [] := by
  decide

end QfwSlurm
