import Mathlib.Tactic

/-!
# Prefixes within a budget

Every symbol of a sequence has a size.  `fitting size budget text` is the longest prefix of the text
that takes no more than the budget (`isPrefix_fitting_iff`).  When the symbols are coded and the
code of the text is cut off at the budget, `take_flatMap` says what is left: the code of this prefix,
and an incomplete code of the next symbol.
-/

namespace Sequence

variable {α β : Type*}

/-- What all the symbols take. -/
def totalSize (size : α → ℕ) (text : List α) : ℕ := (text.map size).sum

/-- The longest prefix within the budget. -/
def fitting (size : α → ℕ) : ℕ → List α → List α
  | _, [] => []
  | budget, a :: rest =>
    if size a ≤ budget then a :: fitting size (budget - size a) rest else []

variable {size : α → ℕ} {budget : ℕ} {text : List α}

@[simp] lemma totalSize_nil : totalSize size [] = 0 := rfl

@[simp] lemma totalSize_cons (a : α) (rest : List α) :
    totalSize size (a :: rest) = size a + totalSize size rest := by
  rw [totalSize, totalSize, List.map_cons, List.sum_cons]

lemma totalSize_append (first second : List α) :
    totalSize size (first ++ second) = totalSize size first + totalSize size second := by
  rw [totalSize, totalSize, totalSize, List.map_append, List.sum_append]

/-- The prefixes within the budget are those of the longest one. -/
theorem isPrefix_fitting_iff {first : List α} :
    first <+: fitting size budget text ↔ first <+: text ∧ totalSize size first ≤ budget := by
  induction text generalizing first budget with
  | nil =>
    rw [fitting, List.prefix_nil]
    refine ⟨fun h => ⟨h, ?_⟩, And.left⟩
    rw [h]
    exact Nat.zero_le budget
  | cons a rest ih =>
    cases first with
    | nil => exact iff_of_true List.nil_prefix ⟨List.nil_prefix, Nat.zero_le budget⟩
    | cons b first =>
      rw [fitting, totalSize_cons, List.cons_prefix_cons]
      split_ifs with hroom
      · rw [List.cons_prefix_cons, ih]
        constructor
        · rintro ⟨rfl, hrest, hsize⟩
          exact ⟨⟨rfl, hrest⟩, by omega⟩
        · rintro ⟨⟨rfl, hrest⟩, hsize⟩
          exact ⟨rfl, hrest, by omega⟩
      · refine iff_of_false (fun h => List.cons_ne_nil _ _ (List.prefix_nil.mp h)) ?_
        rintro ⟨⟨rfl, -⟩, hsize⟩
        omega

lemma fitting_isPrefix : fitting size budget text <+: text :=
  (isPrefix_fitting_iff.mp List.prefix_rfl).1

lemma totalSize_fitting_le : totalSize size (fitting size budget text) ≤ budget :=
  (isPrefix_fitting_iff.mp List.prefix_rfl).2

/-- A text within the budget is its own longest prefix. -/
lemma fitting_eq_self (h : totalSize size text ≤ budget) : fitting size budget text = text := by
  have hwhole : text <+: fitting size budget text :=
    isPrefix_fitting_iff.mpr ⟨List.prefix_rfl, h⟩
  exact fitting_isPrefix.eq_of_length_le hwhole.length_le

/-- A symbol is in the prefix when one occurrence of it ends within the budget. -/
lemma mem_fitting_iff {a : α} :
    a ∈ fitting size budget text ↔ ∃ before after, text = before ++ a :: after ∧
      totalSize size before + size a ≤ budget := by
  have hconcat (before : List α) :
      totalSize size (before ++ [a]) = totalSize size before + size a := by
    rw [totalSize_append, totalSize_cons, totalSize_nil, Nat.add_zero]
  constructor
  · intro h
    obtain ⟨before, kept, hkept⟩ := List.append_of_mem h
    have hfirst : before ++ [a] <+: fitting size budget text := by
      rw [hkept]
      exact ⟨kept, by rw [List.append_assoc, List.singleton_append]⟩
    obtain ⟨⟨after, hafter⟩, hsize⟩ := isPrefix_fitting_iff.mp hfirst
    refine ⟨before, after, ?_, (hconcat before).symm.trans_le hsize⟩
    rw [← hafter, List.append_assoc, List.singleton_append]
  · rintro ⟨before, after, rfl, hsize⟩
    have hfirst : before ++ [a] <+: fitting size budget (before ++ a :: after) := by
      refine isPrefix_fitting_iff.mpr ⟨⟨after, ?_⟩, (hconcat before).trans_le hsize⟩
      rw [List.append_assoc, List.singleton_append]
    exact hfirst.subset (List.mem_append_right before List.mem_cons_self)

lemma fitting_map (size : β → ℕ) (f : α → β) (budget : ℕ) (text : List α) :
    fitting size budget (text.map f) = (fitting (size ∘ f) budget text).map f := by
  induction text generalizing budget with
  | nil => rfl
  | cons a rest ih =>
    rw [List.map_cons, fitting, fitting, Function.comp_apply]
    split_ifs
    · rw [ih, List.map_cons]
    · rfl

/-- A part of the code of some symbol, without its end. -/
def Incomplete (code : α → List β) (text : List α) (part : List β) : Prop :=
  part = [] ∨ ∃ a ∈ text, part <+: code a ∧ part ≠ code a

/-- What is left of a code that is cut off. -/
theorem take_flatMap (code : α → List β) (budget : ℕ) (text : List α) :
    ∃ part, Incomplete code text part ∧ (text.flatMap code).take budget =
      (fitting (fun a => (code a).length) budget text).flatMap code ++ part := by
  induction text generalizing budget with
  | nil => exact ⟨[], .inl rfl, List.take_nil⟩
  | cons a rest ih =>
    rw [fitting, List.flatMap_cons]
    split_ifs with hroom
    · obtain ⟨part, hpart, htake⟩ := ih (budget - (code a).length)
      refine ⟨part, ?_, ?_⟩
      · refine hpart.imp_right ?_
        rintro ⟨b, hb, hprefix⟩
        exact ⟨b, List.mem_cons_of_mem a hb, hprefix⟩
      · rw [List.take_append, List.take_of_length_le hroom, htake, List.flatMap_cons,
          List.append_assoc]
    · have hcut : budget ≤ (code a).length := (not_le.mp hroom).le
      refine ⟨(code a).take budget, .inr ⟨a, List.mem_cons_self, List.take_prefix _ _, ?_⟩, ?_⟩
      · intro hwhole
        have hlength := congrArg List.length hwhole
        rw [List.length_take, min_eq_left hcut] at hlength
        exact hroom hlength.ge
      · rw [List.take_append_of_le_length hcut, List.flatMap_nil, List.nil_append]

end Sequence
