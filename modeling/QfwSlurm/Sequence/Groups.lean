import Mathlib.Tactic

/-!
# Grouping a list by a key

A dictionary of lists to which the elements are appended one after the other, as an association list
in the order in which the keys appear.  `mem_groupsOf` says which groups there are, and
`perm_groupsOf` that nothing is lost.
-/

namespace Sequence

variable {α κ : Type} [DecidableEq κ]

/-- Appends an element to the list of a key, which is empty at first. -/
def addTo (key : κ) (x : α) : List (κ × List α) → List (κ × List α)
  | [] => [(key, [x])]
  | (other, members) :: groups =>
    if other = key then (other, members ++ [x]) :: groups
    else (other, members) :: addTo key x groups

/-- The elements, each in the list of its key. -/
def groupsOf (key : α → κ) (xs : List α) : List (κ × List α) :=
  xs.foldl (fun groups x => addTo (key x) x groups) []

omit [DecidableEq κ] in
/-- The keys that are filled. -/
lemma keys_filterMap {β : Type} (keys : List κ) (f : κ → Option β) :
    (keys.filterMap fun k => (f k).map (k, ·)).map Prod.fst =
      keys.filter fun k => (f k).isSome := by
  induction keys with
  | nil => rfl
  | cons k keys ih =>
    rw [List.filterMap_cons]
    rcases hvalue : f k with - | value
    · rw [List.filter_cons_of_neg (by rw [hvalue]; exact Bool.false_ne_true), ← ih]
      rfl
    · rw [List.filter_cons_of_pos (by rw [hvalue]; rfl), ← ih]
      rfl

section Lookup

variable [BEq κ] [LawfulBEq κ]

lemma lookup_cons_eq {β : Type} (k : κ) (value : β) (entries : List (κ × β)) (other : κ) :
    ((k, value) :: entries).lookup other = if other = k then some value else entries.lookup other := by
  rw [List.lookup_cons]
  by_cases hother : other = k
  · rw [if_pos hother, beq_iff_eq.mpr hother]
  · rw [if_neg hother, beq_eq_false_iff_ne.mpr hother]

lemma lookup_addTo (key : κ) (x : α) (groups : List (κ × List α)) (other : κ) :
    (addTo key x groups).lookup other =
      if other = key then some ((groups.lookup key).getD [] ++ [x]) else groups.lookup other := by
  induction groups with
  | nil => exact lookup_cons_eq key [x] [] other
  | cons group groups ih =>
    obtain ⟨first, members⟩ := group
    rw [addTo]
    by_cases hkey : first = key
    · subst hkey
      rw [if_pos rfl, lookup_cons_eq, lookup_cons_eq, lookup_cons_eq, if_pos rfl]
      split_ifs <;> rfl
    · rw [if_neg hkey, lookup_cons_eq, ih, lookup_cons_eq, lookup_cons_eq, if_neg (Ne.symm hkey)]
      by_cases hother : other = first
      · rw [if_pos hother, if_neg (hother ▸ hkey), if_pos hother]
      · rw [if_neg hother, if_neg hother]

/-- A dictionary that is filled key by key. -/
lemma lookup_filterMap {β : Type} (keys : List κ) (f : κ → Option β) (key : κ) :
    (keys.filterMap fun k => (f k).map (k, ·)).lookup key = if key ∈ keys then f key else none := by
  induction keys with
  | nil => rfl
  | cons k keys ih =>
    rw [List.filterMap_cons]
    by_cases hkey : key = k
    · subst hkey
      rw [if_pos List.mem_cons_self]
      rcases hvalue : f key with - | value
      · rw [Option.map_none]
        dsimp only
        rw [ih, hvalue, ite_self]
      · rw [Option.map_some]
        dsimp only
        rw [lookup_cons_eq, if_pos rfl]
    · have hmem : key ∈ k :: keys ↔ key ∈ keys := List.mem_cons.trans (or_iff_right hkey)
      rw [if_congr hmem rfl rfl, ← ih]
      rcases f k with - | value
      · rfl
      · rw [Option.map_some]
        dsimp only
        rw [lookup_cons_eq, if_neg hkey]

/-- A dictionary under other names. -/
lemma lookup_map {κ' β γ : Type} [DecidableEq κ'] [BEq κ'] [LawfulBEq κ'] {name : κ → κ'}
    (hname : Function.Injective name) (value : β → γ) (entries : List (κ × β)) (key : κ) :
    (entries.map fun entry => (name entry.1, value entry.2)).lookup (name key) =
      (entries.lookup key).map value := by
  induction entries with
  | nil => rfl
  | cons entry entries ih =>
    obtain ⟨k, v⟩ := entry
    rw [List.map_cons, lookup_cons_eq, lookup_cons_eq, ih]
    by_cases hkey : key = k
    · rw [if_pos hkey, if_pos (congrArg name hkey)]
      rfl
    · rw [if_neg hkey, if_neg fun h => hkey (hname h)]

end Lookup

lemma keys_addTo (key : κ) (x : α) (groups : List (κ × List α)) :
    (addTo key x groups).map Prod.fst =
      if key ∈ groups.map Prod.fst then groups.map Prod.fst else groups.map Prod.fst ++ [key] := by
  induction groups with
  | nil => rfl
  | cons group groups ih =>
    obtain ⟨other, members⟩ := group
    rw [addTo, List.map_cons]
    by_cases hkey : other = key
    · have hmem : key ∈ other :: groups.map Prod.fst := List.mem_cons.mpr (.inl hkey.symm)
      rw [if_pos hkey, if_pos hmem, List.map_cons]
    · have hmem : key ∈ other :: groups.map Prod.fst ↔ key ∈ groups.map Prod.fst :=
        List.mem_cons.trans (or_iff_right (Ne.symm hkey))
      rw [if_neg hkey, List.map_cons, ih]
      by_cases hfound : key ∈ groups.map Prod.fst
      · rw [if_pos hfound, if_pos (hmem.mpr hfound)]
      · rw [if_neg hfound, if_neg fun h => hfound (hmem.mp h), List.cons_append]

lemma perm_addTo (key : κ) (x : α) (groups : List (κ × List α)) :
    ((addTo key x groups).flatMap Prod.snd).Perm (groups.flatMap Prod.snd ++ [x]) := by
  induction groups with
  | nil => exact List.Perm.refl _
  | cons group groups ih =>
    obtain ⟨other, members⟩ := group
    rw [addTo]
    split_ifs
    · rw [List.flatMap_cons, List.flatMap_cons, List.append_assoc, List.append_assoc]
      exact List.perm_append_comm.append_left members
    · rw [List.flatMap_cons, List.flatMap_cons, List.append_assoc]
      exact ih.append_left members

variable {key : α → κ}

lemma groupsOf_concat (xs : List α) (x : α) :
    groupsOf key (xs ++ [x]) = addTo (key x) x (groupsOf key xs) := by
  rw [groupsOf, List.foldl_append]
  rfl

lemma nodup_keys_groupsOf (xs : List α) : ((groupsOf key xs).map Prod.fst).Nodup := by
  induction xs using List.reverseRecOn with
  | nil => exact List.nodup_nil
  | append_singleton xs x ih =>
    rw [groupsOf_concat, keys_addTo]
    split_ifs with hmem
    · exact ih
    · rw [List.nodup_append]
      refine ⟨ih, List.nodup_singleton _, ?_⟩
      rintro k hk other hother rfl
      exact hmem (List.mem_singleton.mp hother ▸ hk)

lemma mem_keys_groupsOf {xs : List α} {k : κ} :
    k ∈ (groupsOf key xs).map Prod.fst ↔ ∃ x ∈ xs, key x = k := by
  induction xs using List.reverseRecOn with
  | nil => simp [groupsOf]
  | append_singleton xs x ih =>
    have hstep : k ∈ (groupsOf key (xs ++ [x])).map Prod.fst ↔
        k ∈ (groupsOf key xs).map Prod.fst ∨ k = key x := by
      rw [groupsOf_concat, keys_addTo]
      split_ifs with hmem
      · exact ⟨.inl, fun h => h.elim id fun h => h ▸ hmem⟩
      · rw [List.mem_append, List.mem_singleton]
    rw [hstep, ih]
    simp [or_and_right, exists_or, eq_comm]

/-- The list of a key holds the elements with this key, in their order. -/
lemma lookup_groupsOf [BEq κ] [LawfulBEq κ] (xs : List α) (k : κ) :
    (groupsOf key xs).lookup k =
      if xs.filter (key · = k) = [] then none else some (xs.filter (key · = k)) := by
  induction xs using List.reverseRecOn with
  | nil => rfl
  | append_singleton xs x ih =>
    rw [groupsOf_concat, lookup_addTo, List.filter_append]
    by_cases hk : k = key x
    · have hsingle : [x].filter (key · = k) = [x] := by simp [hk]
      rw [if_pos hk, hsingle, if_neg (List.append_ne_nil_of_right_ne_nil _ (List.cons_ne_nil _ _)),
        ← hk, ih]
      split_ifs with hnil
      · rw [hnil]
        rfl
      · rfl
    · have hsingle : [x].filter (key · = k) = [] := by simp [Ne.symm hk]
      rw [if_neg hk, hsingle, List.append_nil]
      exact ih

/-- The groups are the elements with one key each. -/
theorem mem_groupsOf {xs : List α} {k : κ} {members : List α} :
    (k, members) ∈ groupsOf key xs ↔ members = xs.filter (key · = k) ∧ members ≠ [] := by
  have hlookup : ∀ groups : List (κ × List α), (groups.map Prod.fst).Nodup →
      ((k, members) ∈ groups ↔ groups.lookup k = some members) := by
    intro groups hnodup
    induction groups with
    | nil => simp
    | cons group groups ih =>
      obtain ⟨other, others⟩ := group
      obtain ⟨hfresh, hrest⟩ := List.nodup_cons.mp hnodup
      rw [List.mem_cons, ih hrest, lookup_cons_eq, Prod.mk.injEq]
      by_cases hk : k = other
      · have hnone : groups.lookup k ≠ some members := by
          intro h
          have hmem : k ∈ groups.map Prod.fst :=
            List.mem_map_of_mem (f := Prod.fst) ((ih hrest).mpr h)
          exact hfresh (hk ▸ hmem)
        rw [if_pos hk, Option.some.injEq, eq_comm (a := members), or_iff_left hnone,
          and_iff_right hk]
      · rw [if_neg hk, or_iff_right fun h => hk h.1]
  rw [hlookup _ (nodup_keys_groupsOf xs), lookup_groupsOf]
  split_ifs with hnil
  · exact iff_of_false nofun fun h => h.2 (h.1.trans hnil)
  · rw [Option.some.injEq, eq_comm]
    exact ⟨fun h => ⟨h, h ▸ hnil⟩, And.left⟩

/-- Each element is in one group. -/
theorem perm_groupsOf (xs : List α) : ((groupsOf key xs).flatMap Prod.snd).Perm xs := by
  induction xs using List.reverseRecOn with
  | nil => exact List.Perm.refl _
  | append_singleton xs x ih =>
    rw [groupsOf_concat]
    exact (perm_addTo _ _ _).trans (ih.append_right [x])

end Sequence
