import QfwSlurm.Protocol.Decode

/-!
# The contents of a message

A message says a value for some of the scalar fields (`Scalars`), and may repeat one container.  An
encoder writes the scalar fields in an order of its own and then the containers (`messageTlvs`); the
readers get the same contents back whatever the order was (`collect_fieldTlvs`,
`collect_messageTlvs`), and the payload is no longer than the bounds on the values allow.
-/

namespace QfwSlurm

open Wire

/-! ### Writing contents -/

/-- The fields that have a value, in the given order. -/
def fieldTlvs (order : List Field) (scalars : Scalars) : List Tlv :=
  order.filterMap fun field => (scalars field).map field.tlv

/-- The scalar fields of a message and then its containers. -/
def messageTlvs (order : List Field) (scalars : Scalars) (container : Field)
    (items : List (List UInt8)) : List Tlv :=
  fieldTlvs order scalars ++ items.map container.tlv

/-- The first field is written if it has a value. -/
lemma encodeAll_fieldTlvs_cons (field : Field) (order : List Field) (scalars : Scalars) :
    encodeAll (fieldTlvs (field :: order) scalars) =
      encodeAll ((scalars field).toList.map field.tlv) ++ encodeAll (fieldTlvs order scalars) := by
  cases h : scalars field <;> simp [fieldTlvs, h]

@[simp] lemma fieldTlvs_nil (scalars : Scalars) : fieldTlvs [] scalars = [] := rfl

lemma mem_fieldTlvs {order : List Field} {scalars : Scalars} {tlv : Tlv}
    (h : tlv ∈ fieldTlvs order scalars) :
    ∃ field value, scalars field = some value ∧ tlv = field.tlv value := by
  obtain ⟨field, -, hvalue⟩ := List.mem_filterMap.mp h
  obtain ⟨value, hscalar, rfl⟩ := Option.map_eq_some_iff.mp hvalue
  exact ⟨field, value, hscalar, rfl⟩

/-- A field that is written once occurs with its value. -/
lemma occurrences_fieldTlvs {order : List Field} (hnodup : order.Nodup) (scalars : Scalars)
    (field : Field) :
    occurrences (fieldTlvs order scalars) field.code =
      if field ∈ order then (scalars field).toList else [] := by
  induction order with
  | nil => rfl
  | cons first order ih =>
    rw [List.nodup_cons] at hnodup
    have hrest := ih hnodup.2
    have hcons : fieldTlvs (first :: order) scalars =
        (scalars first).toList.map first.tlv ++ fieldTlvs order scalars := by
      cases h : scalars first <;> simp [fieldTlvs, h]
    rw [hcons, occurrences_append, hrest]
    rcases eq_or_ne field first with rfl | hne
    · rw [if_neg hnodup.1, if_pos List.mem_cons_self, List.append_nil]
      cases h : scalars field <;> simp [occurrences, Field.tlv]
    · have hnone : occurrences ((scalars first).toList.map first.tlv) field.code = [] := by
        cases h : scalars first with
        | none => rfl
        | some value =>
          rw [Option.toList_some, List.map_singleton, occurrences_cons, occurrences_nil,
            if_neg (by simpa using hne.symm)]
      simp [hnone, hne]

lemma occurrences_containers (container : Field) (items : List (List UInt8)) (field : Field) :
    occurrences (items.map container.tlv) field.code = if field = container then items else [] := by
  induction items with
  | nil => simp
  | cons item items ih =>
    rw [List.map_cons, occurrences_cons, ih]
    rcases eq_or_ne field container with rfl | hne
    · simp [Field.tlv]
    · simp [hne, hne.symm]

/-! ### Reading contents back -/

/-- Fields that are written with their code are legible. -/
lemma legible_of_written {tlvs : List Tlv} (hsize : (encodeAll tlvs).length < 256 ^ 4)
    (h : ∀ tlv ∈ tlvs, ∃ field : Field, tlv = field.tlv tlv.value) :
    ∀ tlv ∈ tlvs, Legible tlv := by
  intro tlv htlv
  obtain ⟨field, hfield⟩ := h tlv htlv
  rw [hfield]
  exact Field.legible (lt_of_le_of_lt (length_value_le htlv) hsize)

/-- The scalar fields of a message without containers are collected as they were. -/
lemma collect_fieldTlvs {order : List Field} {scalars : Scalars} (hnodup : order.Nodup)
    (hsupport : ∀ field ∉ order, scalars field = none)
    (hsize : (encodeAll (fieldTlvs order scalars)).length < 256 ^ 4) :
    collect (encodeAll (fieldTlvs order scalars)) [] = .ok { scalar := scalars } := by
  have hvalue (field : Field) :
      occurrences (fieldTlvs order scalars) field.code = (scalars field).toList := by
    rw [occurrences_fieldTlvs hnodup]
    split_ifs with hmem
    · rfl
    · rw [hsupport field hmem, Option.toList_none]
  refine collect_eq_ok_iff.mpr ⟨_, legible_of_written hsize ?_, rfl, fun field _ => ?_, ?_⟩
  · intro tlv htlv
    obtain ⟨field, value, -, rfl⟩ := mem_fieldTlvs htlv
    exact ⟨field, rfl⟩
  · rw [hvalue]
    cases scalars field <;> simp
  · simp only [gathered, hvalue, List.not_mem_nil, if_false]
    congr 1
    funext field
    cases scalars field <;> rfl

/-- The scalar fields and the containers of a message are collected as they were. -/
lemma collect_messageTlvs {order : List Field} {scalars : Scalars} {container : Field}
    {items : List (List UInt8)} (hnodup : order.Nodup) (hcontainer : container ∉ order)
    (hsupport : ∀ field ∉ order, scalars field = none)
    (hsize : (encodeAll (messageTlvs order scalars container items)).length < 256 ^ 4) :
    collect (encodeAll (messageTlvs order scalars container items)) [container] =
      .ok ⟨scalars, fun field => if field = container then items else []⟩ := by
  have hvalue (field : Field) :
      occurrences (messageTlvs order scalars container items) field.code =
        if field = container then items else (scalars field).toList := by
    rw [messageTlvs, occurrences_append, occurrences_fieldTlvs hnodup, occurrences_containers]
    rcases eq_or_ne field container with rfl | hne
    · simp [hcontainer]
    · rw [if_neg hne, if_neg hne, List.append_nil]
      split_ifs with hmem
      · rfl
      · rw [hsupport field hmem, Option.toList_none]
  refine collect_eq_ok_iff.mpr ⟨_, legible_of_written hsize ?_, rfl, fun field hfield => ?_, ?_⟩
  · intro tlv htlv
    rcases List.mem_append.mp htlv with hscalar | hitem
    · obtain ⟨field, value, -, rfl⟩ := mem_fieldTlvs hscalar
      exact ⟨field, rfl⟩
    · obtain ⟨item, -, rfl⟩ := List.mem_map.mp hitem
      exact ⟨container, rfl⟩
  · rw [hvalue, if_neg (by simpa using hfield)]
    cases scalars field <;> simp
  · simp only [gathered, hvalue, List.mem_singleton]
    congr 1 <;> funext field
    · rcases eq_or_ne field container with rfl | hne
      · simp [hsupport field hcontainer]
      · rw [if_neg hne, if_neg hne]
        cases scalars field <;> rfl
    · split_ifs <;> rfl

/-! ### Sizes -/

/-- The longest value of a field. -/
def Field.maxLength : Field → ℕ
  | .clusterName => maxClusterName
  | .serviceId | .qpmRuntimeId => maxServiceId
  | .diagnostic => maxDiagnostic
  | _ => 8

/-- No value is longer than its field allows. -/
def Bounded (scalars : Scalars) : Prop :=
  ∀ field value, scalars field = some value → value.length ≤ field.maxLength

/-- The scalar fields take at most eleven bytes more than their values. -/
lemma Bounded.length_fieldTlvs_le {scalars : Scalars} (h : Bounded scalars) (order : List Field) :
    (encodeAll (fieldTlvs order scalars)).length ≤
      (order.map fun field => field.maxLength + 11).sum := by
  induction order with
  | nil => simp
  | cons field order ih =>
    rw [encodeAll_fieldTlvs_cons, List.length_append, List.map_cons, List.sum_cons]
    have hfirst : (encodeAll ((scalars field).toList.map field.tlv)).length ≤
        field.maxLength + 11 := by
      cases hvalue : scalars field with
      | none => simp
      | some value =>
        have hlength := h field value hvalue
        have htlv := field.length_tlv_le value
        simp only [Option.toList_some, List.map_singleton, encodeAll_cons, encodeAll_nil,
          List.append_nil]
        omega
    omega

/-- The containers take at most eleven bytes more than their values. -/
lemma length_containers_le (container : Field) {items : List (List UInt8)} {bound : ℕ}
    (h : ∀ item ∈ items, item.length ≤ bound) :
    (encodeAll (items.map container.tlv)).length ≤ items.length * (bound + 11) := by
  induction items with
  | nil => simp
  | cons item items ih =>
    have hitem := h item List.mem_cons_self
    have hrest := ih fun other hother => h other (List.mem_cons_of_mem _ hother)
    have htlv := container.length_tlv_le item
    rw [List.map_cons, encodeAll_cons, List.length_append, List.length_cons, add_mul, one_mul]
    omega

/-- A message with at most as many containers as there may be services. -/
lemma Bounded.length_messageTlvs_le {scalars : Scalars} (h : Bounded scalars) (order : List Field)
    (container : Field) {items : List (List UInt8)} {bound : ℕ}
    (hcount : items.length ≤ maxServices) (hitems : ∀ item ∈ items, item.length ≤ bound) :
    (encodeAll (messageTlvs order scalars container items)).length ≤
      (order.map fun field => field.maxLength + 11).sum + maxServices * (bound + 11) := by
  have hscalars := h.length_fieldTlvs_le order
  have hcontainers := length_containers_le container hitems
  have hall : items.length * (bound + 11) ≤ maxServices * (bound + 11) :=
    Nat.mul_le_mul_right _ hcount
  rw [messageTlvs, encodeAll_append, List.length_append]
  omega

end QfwSlurm
