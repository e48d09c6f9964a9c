import Mathlib.Data.List.Lex
import Mathlib.Data.List.Sort
import Mathlib.Order.Fin.Basic
import QfwSlurm.Python.CodePoints

/-!
# Documents with any strings

`json.dumps` with sorted keys and without white space, and `json.loads`, on values whose strings are
sequences of code points.  A value that is written and read again is the value with its members
sorted by their names and its strings `merged` (`Value.loads_dumps`).
-/

namespace Python

/-- The documents whose strings are those of Python. -/
abbrev Value := Document Str

namespace Value

/-! ### Writing -/

/-- The order of members. -/
def byName {β : Type} (a b : Str × β) : Prop := a.1 ≤ b.1

instance {β : Type} : DecidableRel (@byName β) := fun a b =>
  inferInstanceAs (Decidable (a.1 ≤ b.1))

/-- The digits of an integer, with its sign. -/
def intText (z : ℤ) : List Char :=
  if z < 0 then '-' :: decimalText z.natAbs else decimalText z.natAbs

/-- A member of an object. -/
def memberText (member : Str × List Char) : List Char := quotedStr member.1 ++ ':' :: member.2

mutual

/-- `json.dumps` with `sort_keys=True` and `separators=(",", ":")` -/
def dumps : Value → List Char
  | .null => "null".toList
  | .bool true => "true".toList
  | .bool false => "false".toList
  | .int z => intText z
  | .float text => text
  | .str text => quotedStr text
  | .arr items => '[' :: (commaSeparated (dumpsItems items) ++ [']'])
  | .obj members => '\x7b' ::
    (commaSeparated (((dumpsMembers members).insertionSort byName).map memberText) ++ ['\x7d'])

/-- The texts of the items of an array. -/
def dumpsItems : List Value → List (List Char)
  | [] => []
  | item :: items => dumps item :: dumpsItems items

/-- The texts of the members of an object, with their names. -/
def dumpsMembers : List (Str × Value) → List (Str × List Char)
  | [] => []
  | (name, value) :: members => (name, dumps value) :: dumpsMembers members

end

/-- `json.loads`, `none` where it raises. -/
def loads (text : List Char) : Option Value := loadsWith scanStr text

/-! ### What comes back -/

mutual

/-- The value that is read again. -/
def stored : Value → Value
  | .str text => .str (merged text)
  | .arr items => .arr (storedItems items)
  | .obj members =>
    .obj (((storedMembers members).insertionSort byName).map fun member =>
      (merged member.1, member.2))
  | value => value

def storedItems : List Value → List Value
  | [] => []
  | item :: items => stored item :: storedItems items

def storedMembers : List (Str × Value) → List (Str × Value)
  | [] => []
  | (name, value) :: members => (name, stored value) :: storedMembers members

end

mutual

/-- The value is written as it is: its integers have no more digits than Python converts, and it has
no fractions. -/
def Writable : Value → Prop
  | .int z => z.natAbs < 10 ^ intMaxStrDigits
  | .float _ => False
  | .arr items => WritableItems items
  | .obj members => WritableMembers members
  | _ => True

def WritableItems : List Value → Prop
  | [] => True
  | item :: items => Writable item ∧ WritableItems items

def WritableMembers : List (Str × Value) → Prop
  | [] => True
  | (_, value) :: members => Writable value ∧ WritableMembers members

end

lemma dumpsItems_eq (items : List Value) : dumpsItems items = items.map dumps := by
  induction items with
  | nil => rfl
  | cons item items ih => exact congrArg _ ih

lemma dumpsMembers_eq (members : List (Str × Value)) :
    dumpsMembers members = members.map fun member => (member.1, dumps member.2) := by
  induction members with
  | nil => rfl
  | cons member members ih => exact congrArg _ ih

lemma storedItems_eq (items : List Value) : storedItems items = items.map stored := by
  induction items with
  | nil => rfl
  | cons item items ih => exact congrArg _ ih

lemma storedMembers_eq (members : List (Str × Value)) :
    storedMembers members = members.map fun member => (member.1, stored member.2) := by
  induction members with
  | nil => rfl
  | cons member members ih => exact congrArg _ ih

lemma writableItems_iff {items : List Value} :
    WritableItems items ↔ ∀ item ∈ items, Writable item := by
  induction items with
  | nil => simp [WritableItems]
  | cons item items ih => rw [WritableItems, ih, List.forall_mem_cons]

lemma writableMembers_iff {members : List (Str × Value)} :
    WritableMembers members ↔ ∀ member ∈ members, Writable member.2 := by
  induction members with
  | nil => simp [WritableMembers]
  | cons member members ih => rw [WritableMembers, ih, List.forall_mem_cons]

/-- Members are sorted before or after their values are changed. -/
lemma map_sorted {β γ : Type} (f : β → γ) (members : List (Str × β)) :
    (members.map fun member => (member.1, f member.2)).insertionSort byName =
      (members.insertionSort byName).map fun member => (member.1, f member.2) :=
  (List.map_insertionSort byName byName (fun member : Str × β => (member.1, f member.2)) members
    fun _ _ _ _ => Iff.rfl).symm

lemma dumps_obj (members : List (Str × Value)) : dumps (.obj members) = '\x7b' ::
    (commaSeparated ((members.insertionSort byName).map fun member =>
      memberText (member.1, dumps member.2)) ++ ['\x7d']) := by
  rw [dumps, dumpsMembers_eq, map_sorted, List.map_map]
  rfl

lemma stored_obj (members : List (Str × Value)) : stored (.obj members) =
    .obj ((members.insertionSort byName).map fun member =>
      (merged member.1, stored member.2)) := by
  rw [stored, storedMembers_eq, map_sorted, List.map_map]
  rfl

/-! ### Values -/

lemma reads_bool (b : Bool) : Reads scanStr (dumps (.bool b)) (.bool b) := by
  cases b with
  | true =>
    have htext : dumps (.bool true) = 't' :: ['r', 'u', 'e'] := rfl
    rw [htext]
    exact Reads.scalar (.bool true) (by decide) (by decide) fun rest _ => by
      simp [scanScalar, constants]
  | false =>
    have htext : dumps (.bool false) = 'f' :: ['a', 'l', 's', 'e'] := rfl
    rw [htext]
    exact Reads.scalar (.bool false) (by decide) (by decide) fun rest _ => by
      simp [scanScalar, constants]

lemma reads_intText {z : ℤ} (hz : z.natAbs < 10 ^ intMaxStrDigits) :
    Reads scanStr (intText z) (.int z) := by
  rw [intText]
  split_ifs with hneg
  · have hvalue : z = -(z.natAbs : ℤ) := by omega
    have hread := @Reads.negative Str scanStr _ hz
    rwa [← hvalue] at hread
  · have hvalue : z = (z.natAbs : ℤ) := by omega
    have hread := @Reads.nat Str scanStr _ hz
    rwa [← hvalue] at hread

/-- A string is read with its surrogate pairs merged. -/
lemma readsString_quotedStr (text : Str) : ReadsString scanStr (quotedStr text) (merged text) := by
  refine ⟨_, rfl, fun rest => ?_⟩
  rw [List.append_assoc, List.singleton_append, scanStr_quotedStr]

/-- An array is read when its items are. -/
lemma reads_arr {items : List Value}
    (h : ∀ item ∈ items, Reads scanStr (dumps item) (stored item)) :
    Reads scanStr (dumps (.arr items)) (stored (.arr items)) := by
  rw [dumps, dumpsItems_eq, stored, storedItems_eq]
  apply Reads.arr
  rw [List.forall₂_map_left_iff, List.forall₂_map_right_iff, List.forall₂_same]
  exact h

/-- An object is read when the values of its members are. -/
lemma reads_obj {members : List (Str × Value)}
    (h : ∀ member ∈ members, Reads scanStr (dumps member.2) (stored member.2)) :
    Reads scanStr (dumps (.obj members)) (stored (.obj members)) := by
  rw [dumps_obj, stored_obj]
  apply Reads.obj
  rw [List.forall₂_map_left_iff, List.forall₂_map_right_iff, List.forall₂_same]
  intro member hmember
  exact ⟨_, _, rfl, readsString_quotedStr member.1, h member ((List.mem_insertionSort _).mp hmember)⟩

mutual

/-- What is written for a value is read for the value that is stored. -/
theorem reads_dumps : ∀ value : Value, Writable value → Reads scanStr (dumps value) (stored value)
  | .null, _ => Reads.null
  | .bool b, _ => reads_bool b
  | .int _, h => reads_intText h
  | .float _, h => h.elim
  | .str text, _ => Reads.str (readsString_quotedStr text)
  | .arr items, h => reads_arr (reads_items items h)
  | .obj members, h => reads_obj (reads_members members h)

theorem reads_items : ∀ items : List Value, WritableItems items →
    ∀ item ∈ items, Reads scanStr (dumps item) (stored item)
  | [], _ => nofun
  | item :: items, h => List.forall_mem_cons.mpr
    ⟨reads_dumps item h.1, reads_items items h.2⟩

theorem reads_members : ∀ members : List (Str × Value), WritableMembers members →
    ∀ member ∈ members, Reads scanStr (dumps member.2) (stored member.2)
  | [], _ => nofun
  | (_, value) :: members, h => List.forall_mem_cons.mpr
    ⟨reads_dumps value h.1, reads_members members h.2⟩

end

/-- A value that is written and read is the one that is stored. -/
theorem loads_dumps {value : Value} (h : Writable value) :
    loads (dumps value) = some (stored value) :=
  (reads_dumps value h).loadsWith

/-! ### Looking up members -/

/-- The names of an object: they are different, and no surrogate pair stands in them. -/
structure Named (members : List (Str × Value)) : Prop where
  nodup : (members.map Prod.fst).Nodup
  unpaired : ∀ member ∈ members, Unpaired member.1

/-- The members of an object with good names are found again, and no others. -/
lemma get_stored {members : List (Str × Value)} (h : Named members) (name : Str) :
    Document.get (stored (.obj members)) name = (members.lookup name).map stored := by
  have hmerged {member : Str × Value} (hmember : member ∈ members) : merged member.1 = member.1 :=
    (merged_eq_iff _).mpr (h.unpaired member hmember)
  have hlookup : ∀ entries : List (Str × Value), (∀ member ∈ entries, member ∈ members) →
      (∀ value, (name, value) ∈ members → (name, value) ∈ entries) →
      (entries.map fun member => (merged member.1, stored member.2)).lookup name =
        (members.lookup name).map stored := by
    intro entries hentries hall
    induction entries with
    | nil =>
      have hnone : members.lookup name = none := by
        rw [List.lookup_eq_none_iff]
        intro member hmember
        refine bne_iff_ne.mpr ?_
        rintro rfl
        exact nomatch hall member.2 hmember
      rw [hnone]
      rfl
    | cons first entries ih =>
      obtain ⟨hfirst, hrest⟩ := List.forall_mem_cons.mp hentries
      rw [List.map_cons, List.lookup_cons, hmerged hfirst]
      by_cases hname : name = first.1
      · subst hname
        have hfound : members.lookup first.1 = some first.2 := by
          obtain ⟨before, after, rfl⟩ := List.append_of_mem hfirst
          have hnodup := h.nodup
          rw [List.map_append, List.map_cons, List.nodup_append] at hnodup
          rw [List.lookup_append, List.lookup_cons, beq_self_eq_true,
            List.lookup_eq_none_iff.mpr]
          · rfl
          · intro member hmember
            exact bne_iff_ne.mpr (hnodup.2.2 _ (List.mem_map_of_mem hmember) _ List.mem_cons_self).symm
        rw [beq_self_eq_true, hfound]
        rfl
      · rw [beq_eq_false_iff_ne.mpr hname]
        refine ih hrest fun value hvalue => ?_
        rcases List.mem_cons.mp (hall value hvalue) with rfl | hmem
        · exact absurd rfl hname
        · exact hmem
  rw [stored_obj, Document.get, ← List.map_reverse]
  refine hlookup _ (fun member hmember => ?_) (fun value hvalue => ?_)
  · exact (List.mem_insertionSort _).mp (List.mem_reverse.mp hmember)
  · exact List.mem_reverse.mpr ((List.mem_insertionSort _).mpr hvalue)

end Value

end Python
