import Mathlib.Tactic

/-!
# Insertion sort in place

Two ways to move a new element of an array to its place among the sorted ones before it: elements
are shifted up until the place is free (`shiftDown`), or the element is swapped downwards
(`swapDown`).  Both insert the element (`Inserted`), and an array into which its elements are
inserted one after another is sorted.
-/

namespace Sorting

variable {α : Type} [Inhabited α] (above : α → α → Bool)

/-- Shifts the elements below `position` that are above the value, and stores the value in the place
that becomes free. -/
def shiftDown (value : α) : ℕ → List α → List α
  | 0, cells => cells.set 0 value
  | position + 1, cells =>
    let previous := cells.getD position default
    if above previous value then shiftDown value position (cells.set (position + 1) previous)
    else cells.set (position + 1) value

/-- Swaps the element at `position` with the one before it while that one is above it. -/
def swapDown : ℕ → List α → List α
  | 0, cells => cells
  | position + 1, cells =>
    let previous := cells.getD position default
    let current := cells.getD (position + 1) default
    if above previous current then
      swapDown position ((cells.set position current).set (position + 1) previous)
    else cells

/-- Inserts the elements from `index` on, `count` of them. -/
def sortFrom : (index count : ℕ) → List α → List α
  | _, 0, cells => cells
  | index, count + 1, cells =>
    sortFrom (index + 1) count (shiftDown above (cells.getD index default) index cells)

/-- No element is above a later one. -/
def Ordered (cells : List α) : Prop := cells.Pairwise fun a b => above a b = false

/-- The value was inserted into a sorted array. -/
structure Inserted (first : List α) (value : α) (result : List α) : Prop where
  perm : result.Perm (value :: first)
  ordered : Ordered above first → Ordered above result

variable {above}

/-- The test is that of a total preorder. -/
structure Compares (above : α → α → Bool) : Prop where
  asymm : ∀ a b, above a b = true → above b a = false
  trans : ∀ a b c, above a b = false → above b c = false → above a c = false

omit [Inhabited α] in
/-- An element that is not above the value stays before it. -/
lemma Compares.inserted_last (h : Compares above) {first : List α} {last value : α}
    (hlast : above last value = false) :
    Inserted above (first ++ [last]) value (first ++ [last, value]) where
  perm := by
    have hswap : ([last, value] : List α).Perm (value :: [last]) := List.Perm.swap value last []
    exact (hswap.append_left first).trans List.perm_middle
  ordered hordered := by
    rw [Ordered, show first ++ [last, value] = (first ++ [last]) ++ [value] by simp,
      List.pairwise_append]
    refine ⟨hordered, List.pairwise_singleton _ _, fun a ha b hb => ?_⟩
    rw [List.mem_singleton.mp hb]
    rcases List.mem_append.mp ha with ha | ha
    · have hbefore := (List.pairwise_append.mp hordered).2.2 a ha last (List.mem_singleton_self _)
      exact h.trans a last value hbefore hlast
    · rw [List.mem_singleton.mp ha]
      exact hlast

omit [Inhabited α] in
/-- An element above the value stays after it. -/
lemma Compares.inserted_before (h : Compares above) {first result : List α} {last value : α}
    (hlast : above last value = true) (hresult : Inserted above first value result) :
    Inserted above (first ++ [last]) value (result ++ [last]) where
  perm := hresult.perm.append_right [last]
  ordered hordered := by
    obtain ⟨hfirst, -, hbefore⟩ := List.pairwise_append.mp hordered
    refine List.pairwise_append.mpr
      ⟨hresult.ordered hfirst, List.pairwise_singleton _ _, fun a ha b hb => ?_⟩
    rcases List.mem_cons.mp (hresult.perm.mem_iff.mp ha) with rfl | ha
    · rw [List.mem_singleton.mp hb]
      exact h.asymm last a hlast
    · exact hbefore a ha b hb

/-- The array is the sorted part, the value, and the rest. -/
theorem Compares.shiftDown (h : Compares above) (first : List α) (value hole : α)
    (rest : List α) : ∃ result, Inserted above first value result ∧
      Sorting.shiftDown above value first.length (first ++ hole :: rest) = result ++ rest := by
  induction first using List.reverseRecOn generalizing hole rest with
  | nil => exact ⟨[value], ⟨List.Perm.refl _, fun _ => List.pairwise_singleton _ _⟩, rfl⟩
  | append_singleton first last ih =>
    have hlength : (first ++ [last]).length = first.length + 1 := by simp
    have hcells : first ++ [last] ++ hole :: rest = first ++ last :: hole :: rest := by simp
    have hprevious : (first ++ last :: hole :: rest).getD first.length default = last := by simp
    rw [hlength, hcells, Sorting.shiftDown, hprevious]
    by_cases hlast : above last value = true
    · have hset : (first ++ last :: hole :: rest).set (first.length + 1) last =
          first ++ last :: last :: rest := by simp
      obtain ⟨result, hresult, hshift⟩ := ih last (last :: rest)
      refine ⟨result ++ [last], h.inserted_before hlast hresult, ?_⟩
      rw [if_pos hlast, hset, hshift]
      simp
    · have hset : (first ++ last :: hole :: rest).set (first.length + 1) value =
          first ++ [last, value] ++ rest := by simp
      refine ⟨_, h.inserted_last (Bool.not_eq_true _ ▸ hlast), ?_⟩
      rw [if_neg hlast, hset]

/-- The element is swapped to its place. -/
theorem Compares.swapDown (h : Compares above) (first : List α) (value : α) (rest : List α) :
    ∃ result, Inserted above first value result ∧
      Sorting.swapDown above first.length (first ++ value :: rest) = result ++ rest := by
  induction first using List.reverseRecOn generalizing rest with
  | nil => exact ⟨[value], ⟨List.Perm.refl _, fun _ => List.pairwise_singleton _ _⟩, rfl⟩
  | append_singleton first last ih =>
    have hlength : (first ++ [last]).length = first.length + 1 := by simp
    have hcells : first ++ [last] ++ value :: rest = first ++ last :: value :: rest := by simp
    have hprevious : (first ++ last :: value :: rest).getD first.length default = last := by simp
    have hcurrent : (first ++ last :: value :: rest).getD (first.length + 1) default = value := by
      simp
    rw [hlength, hcells, Sorting.swapDown, hprevious, hcurrent]
    by_cases hlast : above last value = true
    · have hset : ((first ++ last :: value :: rest).set first.length value).set
          (first.length + 1) last = first ++ value :: last :: rest := by simp
      obtain ⟨result, hresult, hswap⟩ := ih (last :: rest)
      refine ⟨result ++ [last], h.inserted_before hlast hresult, ?_⟩
      rw [if_pos hlast, hset, hswap]
      simp
    · refine ⟨_, h.inserted_last (Bool.not_eq_true _ ▸ hlast), ?_⟩
      rw [if_neg hlast]
      simp

/-- Insertions into the sorted part of an array sort it. -/
theorem Compares.sortFrom (h : Compares above) (first rest : List α)
    (hordered : Ordered above first) :
    (Sorting.sortFrom above first.length rest.length (first ++ rest)).Perm (first ++ rest) ∧
      Ordered above (Sorting.sortFrom above first.length rest.length (first ++ rest)) := by
  induction rest generalizing first with
  | nil =>
    rw [List.append_nil]
    exact ⟨List.Perm.refl _, hordered⟩
  | cons value rest ih =>
    obtain ⟨result, hresult, hshift⟩ := h.shiftDown first value value rest
    have hvalue : (first ++ value :: rest).getD first.length default = value := by simp
    have hlength : result.length = first.length + 1 := by
      rw [hresult.perm.length_eq, List.length_cons]
    rw [List.length_cons, Sorting.sortFrom, hvalue, hshift, ← hlength]
    obtain ⟨hperm, hsorted⟩ := ih result (hresult.ordered hordered)
    refine ⟨hperm.trans ?_, hsorted⟩
    exact (hresult.perm.append_right rest).trans List.perm_middle.symm

end Sorting
