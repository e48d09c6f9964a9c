import QfwSlurm.Interaction.Machine

/-!
# What is held after a list of events

Some events grant an item and some give one back.  `heldAfter` is the account of the items that
were granted and not given back since, latest first.  What counts as giving back is a parameter:
the same events can be read with a strict and with a lenient notion of it.
-/

namespace Interaction

variable {ε α : Type} [DecidableEq α] (grant giveBack : ε → Option α)

/-- What is held after one event. -/
def hold (held : List α) (event : ε) : List α :=
  (grant event).toList ++ held.filter fun item => giveBack event ≠ some item

/-- What is held after a list of events. -/
def heldAfter (held : List α) (events : List ε) : List α := after (hold grant giveBack) held events

@[simp] lemma heldAfter_nil (held : List α) : heldAfter grant giveBack held [] = held := rfl

@[simp] lemma heldAfter_cons (held : List α) (event : ε) (events : List ε) :
    heldAfter grant giveBack held (event :: events) =
      heldAfter grant giveBack (hold grant giveBack held event) events := rfl

lemma heldAfter_append (held : List α) (events more : List ε) :
    heldAfter grant giveBack held (events ++ more) =
      heldAfter grant giveBack (heldAfter grant giveBack held events) more :=
  after_append ..

/-- No more is held than was held before or granted since. -/
lemma countP_heldAfter_le (p : α → Bool) (held : List α) (events : List ε) :
    (heldAfter grant giveBack held events).countP p ≤
      held.countP p + (events.filterMap grant).countP p := by
  induction events generalizing held with
  | nil => simp
  | cons event events ih =>
    have hheld : (held.filter fun item => giveBack event ≠ some item).countP p ≤ held.countP p :=
      List.filter_sublist.countP_le
    have hstep := ih (hold grant giveBack held event)
    rw [hold, List.countP_append] at hstep
    rw [heldAfter_cons, hold]
    cases hgrant : grant event with
    | none =>
      rw [hgrant, Option.toList_none, List.countP_nil] at hstep
      rw [List.filterMap_cons_none hgrant, Option.toList_none]
      omega
    | some item =>
      rw [hgrant, Option.toList_some, List.countP_singleton] at hstep
      rw [List.filterMap_cons_some hgrant, List.countP_cons, Option.toList_some]
      omega

/-- What is held was held before or granted since. -/
lemma mem_heldAfter {item : α} {held : List α} {events : List ε}
    (h : item ∈ heldAfter grant giveBack held events) :
    item ∈ held ∨ item ∈ events.filterMap grant := by
  have hle := countP_heldAfter_le grant giveBack (· == item) held events
  have hpos := List.count_pos_iff.mpr h
  rw [List.count] at hpos
  by_contra hnot
  push Not at hnot
  have hheld := List.count_eq_zero.mpr hnot.1
  have hgranted := List.count_eq_zero.mpr hnot.2
  rw [List.count] at hheld hgranted
  omega

/-- Events that grant nothing take away what they give back. -/
lemma heldAfter_of_no_grant {events : List ε} (h : events.filterMap grant = []) (held : List α) :
    heldAfter grant giveBack held events =
      held.filter fun item => item ∉ events.filterMap giveBack := by
  induction events generalizing held with
  | nil => simp
  | cons event events ih =>
    have hgrant : grant event = none := List.filterMap_eq_nil_iff.mp h event List.mem_cons_self
    rw [List.filterMap_cons_none hgrant] at h
    rw [heldAfter_cons, ih h, hold, hgrant, Option.toList_none, List.nil_append, List.filter_filter]
    refine List.filter_congr fun item _ => ?_
    cases hback : giveBack event with
    | none => simp [List.filterMap_cons_none hback]
    | some other => simp [List.filterMap_cons_some hback, eq_comm, Bool.and_comm]

lemma mem_heldAfter_of_no_grant {events : List ε} (h : events.filterMap grant = []) {held : List α}
    {item : α} :
    item ∈ heldAfter grant giveBack held events ↔
      item ∈ held ∧ item ∉ events.filterMap giveBack := by
  rw [heldAfter_of_no_grant grant giveBack h, List.mem_filter, decide_eq_true_eq]

/-- Nothing is held once everything was given back and nothing granted since. -/
lemma heldAfter_eq_nil {events : List ε} (hgrant : events.filterMap grant = []) {held : List α}
    (hback : ∀ item ∈ held, item ∈ events.filterMap giveBack) :
    heldAfter grant giveBack held events = [] := by
  rw [heldAfter_of_no_grant grant giveBack hgrant, List.filter_eq_nil_iff]
  intro item hitem
  simpa using hback item hitem

/-- Events that give nothing back add what they grant. -/
lemma heldAfter_of_no_giveBack {events : List ε} (h : events.filterMap giveBack = [])
    (held : List α) :
    heldAfter grant giveBack held events = (events.filterMap grant).reverse ++ held := by
  induction events generalizing held with
  | nil => rfl
  | cons event events ih =>
    have hback : giveBack event = none := List.filterMap_eq_nil_iff.mp h event List.mem_cons_self
    rw [List.filterMap_cons_none hback] at h
    rw [heldAfter_cons, ih h, hold, hback]
    cases hgrant : grant event with
    | none => simp [List.filterMap_cons_none hgrant]
    | some item => simp [List.filterMap_cons_some hgrant]

/-- Events that neither grant nor give back can be left out. -/
lemma heldAfter_filter {p : ε → Bool}
    (hp : ∀ event, p event = false → grant event = none ∧ giveBack event = none) (held : List α)
    (events : List ε) :
    heldAfter grant giveBack held (events.filter p) = heldAfter grant giveBack held events := by
  induction events generalizing held with
  | nil => rfl
  | cons event events ih =>
    cases hevent : p event with
    | true => rw [List.filter_cons_of_pos hevent, heldAfter_cons, heldAfter_cons, ih]
    | false =>
      obtain ⟨hgrant, hback⟩ := hp event hevent
      rw [List.filter_cons_of_neg (by simp [hevent]), ih, heldAfter_cons, hold, hgrant, hback]
      simp

end Interaction
