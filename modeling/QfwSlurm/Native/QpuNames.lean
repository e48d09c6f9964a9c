import QfwSlurm.C.Strings
import QfwSlurm.Interaction.Loop
import QfwSlurm.Native.Options

/-!
# The list of QPU names in memory

`parse_qpu_names` with its memory: the cursor walks along the string, every name is copied to the
next row of an array of fixed size and compared with the rows before it.  `parseQpuNames_refines`
says that the loop ends, that no access misses a row, and that what it leaves in the array is what
the parser of `Native.Options` returns.

The documented form of the list is `name[,name...]`.  The loop also takes one more comma behind the
last name, because it ends before it looks at what follows; `readsList_iff` says that this is the
only difference.
-/

namespace QfwSlurm.Native.QpuNames

/-! ### The parser -/

/-- The fields of `struct qfw_quantum_options` that the parser uses; `qpu_names` row by row. -/
structure Options where
  active : Bool
  qpuNames : List (List UInt8)
  qpuCount : ℕ
  deriving DecidableEq

/-- `qfw_quantum_options_init` -/
def fresh : Options where
  active := false
  qpuNames := List.replicate maxServices (List.replicate (maxResourceName + 1) 0)
  qpuCount := 0

/-- The strings in the array. -/
def Options.names (output : Options) : List (List UInt8) :=
  (output.qpuNames.take output.qpuCount).map C.stringOf

/-- Where the parser is. -/
inductive Scan where
  /-- The test of the loop is next. -/
  | atTest (cursor : List UInt8) (output : Options)
  /-- The loop is left. -/
  | behind (output : Options)
  /-- The parser has returned -1. -/
  | refused (output : Options)
  /-- An access has missed the array. -/
  | outside
  deriving DecidableEq

/-- The two stores of a name in the next row. -/
def copyName (output : Options) (name : List UInt8) : Except C.Stop Options :=
  match output.qpuNames[output.qpuCount]? with
  | none => .error .outside
  | some row => do
    let row ← C.store row 0 name
    let row ← C.store row name.length [0]
    return { output with qpuNames := output.qpuNames.set output.qpuCount row }

/-- A row as `strcmp` reads it, up to its terminator. -/
def readName (output : Options) (index : ℕ) : Except C.Stop (List UInt8) :=
  match output.qpuNames[index]? with
  | none => .error .outside
  | some row => if 0 ∈ row then .ok (C.stringOf row) else .error .outside

/-- The loop over the rows before the new one. -/
def repeats (output : Options) : List ℕ → Except C.Stop Bool
  | [] => .ok false
  | index :: indices => do
    let earlier ← readName output index
    let name ← readName output output.qpuCount
    if C.strcmp earlier name = 0 then return true else repeats output indices

/-- The body of the loop. -/
def round (cursor : List UInt8) (output : Options) : Except C.Stop Scan :=
  let separator := cursor.idxOf? 44
  let length := separator.getD cursor.length
  if length = 0 ∨ maxResourceName < length ∨ maxServices ≤ output.qpuCount then
    .ok (.refused output)
  else if ¬ (cursor.take length).all isNameByte then .ok (.refused output)
  else do
    let output ← copyName output (cursor.take length)
    if ← repeats output (List.range output.qpuCount) then return .refused output
    let output := { output with qpuCount := output.qpuCount + 1 }
    match separator with
    | none => return .behind output
    | some offset => return .atTest (cursor.drop (offset + 1)) output

/-- One step: the test of the loop and its body. -/
def next : Scan → Option Scan
  | .atTest cursor output =>
    if cursor = [] then some (.behind output)
    else
      match round cursor output with
      | .ok scan => some scan
      | .error _ => some .outside
  | _ => none

/-- How a call ends. -/
inductive Outcome where
  | returned (status : ℤ) (output : Options)
  | outside
  deriving DecidableEq

/-- What the parser does behind the loop. -/
def Scan.outcome : Scan → Option Outcome
  | .atTest _ _ => none
  | .behind output => some (.returned 0 { output with active := true })
  | .refused output => some (.returned (-1) output)
  | .outside => some .outside

/-- `parse_qpu_names`, where it ends within this number of steps; `none` is the null pointer. -/
def parseQpuNames (fuel : ℕ) (value : Option (List UInt8)) (output : Options) : Option Outcome :=
  match value with
  | none => some (.returned (-1) output)
  | some value =>
    if value = [] then some (.returned (-1) output)
    else (Interaction.loop next fuel (.atTest value output)).bind Scan.outcome

/-! ### The rows of the array -/

/-- The first rows of the array hold these names. -/
structure Rows (names rows : List (List UInt8)) : Prop where
  count : rows.length = maxServices
  width : ∀ row ∈ rows, row.length = maxResourceName + 1
  holds : ∀ (index : ℕ) (name : List UInt8), names[index]? = some name →
    ∃ row, rows[index]? = some row ∧ C.Holds (maxResourceName + 1) name ⟨row, name.length⟩

lemma rows_fresh : Rows [] fresh.qpuNames where
  count := List.length_replicate
  width := by
    intro row hrow
    rw [List.eq_of_mem_replicate hrow, List.length_replicate]
  holds := by
    intro index name hname
    cases hname

variable {names : List (List UInt8)} {output : Options} {name : List UInt8}

/-- There is room for a name in the next row, and the others are left as they are. -/
lemma Rows.copyName (h : Rows names output.qpuNames) (hcount : output.qpuCount = names.length)
    (hroom : names.length < maxServices) (hname : name.length ≤ maxResourceName) :
    ∃ rows, copyName output name = .ok { output with qpuNames := rows } ∧
      Rows (names ++ [name]) rows := by
  have hlt : output.qpuCount < output.qpuNames.length := by
    rw [hcount, h.count]
    exact hroom
  obtain ⟨row, hrow⟩ : ∃ row, output.qpuNames[output.qpuCount]? = some row :=
    ⟨_, List.getElem?_eq_getElem hlt⟩
  have hwidth : row.length = maxResourceName + 1 := h.width row (List.mem_of_getElem? hrow)
  have hfirst : C.store row 0 name = .ok (name ++ row.drop name.length) :=
    C.store_append [] row name (by omega)
  have hsecond : C.store (name ++ row.drop name.length) name.length [0] =
      .ok (name ++ 0 :: (row.drop name.length).drop 1) := by
    refine C.store_append name (row.drop name.length) [0] ?_
    rw [List.length_singleton, List.length_drop]
    omega
  have hlength : (name ++ 0 :: (row.drop name.length).drop 1).length = maxResourceName + 1 := by
    rw [List.length_append, List.length_cons, List.length_drop, List.length_drop]
    omega
  refine ⟨output.qpuNames.set output.qpuCount (name ++ 0 :: (row.drop name.length).drop 1), ?_,
    ?_, ?_, ?_⟩
  · rw [QpuNames.copyName, hrow]
    dsimp only
    rw [hfirst]
    change (C.store (name ++ row.drop name.length) name.length [0] >>= _) = _
    rw [hsecond]
    rfl
  · rw [List.length_set, h.count]
  · intro other hother
    rcases List.mem_or_eq_of_mem_set hother with hother | rfl
    · exact h.width other hother
    · exact hlength
  · intro index other hother
    rcases lt_trichotomy index names.length with hless | rfl | hgreater
    · rw [List.getElem?_append_left hless] at hother
      rw [List.getElem?_set_ne (by omega)]
      exact h.holds index other hother
    · rw [List.getElem?_concat_length, Option.some.injEq] at hother
      rw [← hother, ← hcount, List.getElem?_set_self hlt]
      exact ⟨_, rfl, hlength, rfl, _, rfl⟩
    · rw [List.getElem?_eq_none (by rw [List.length_append, List.length_singleton]; omega)] at hother
      cases hother

/-- A name is read as it was written. -/
lemma Rows.readName (h : Rows names output.qpuNames) {index : ℕ} (hname : names[index]? = some name)
    (hnul : 0 ∉ name) : readName output index = .ok name := by
  obtain ⟨row, hrow, hholds⟩ := h.holds index name hname
  rw [QpuNames.readName, hrow]
  dsimp only
  rw [if_pos hholds.terminated.2]
  exact congrArg Except.ok (hholds.stringOf_eq hnul)

/-- The comparison finds the new name among the others. -/
lemma Rows.repeats (h : Rows (names ++ [name]) output.qpuNames)
    (hcount : output.qpuCount = names.length) (hnul : ∀ other ∈ names ++ [name], 0 ∉ other) :
    repeats output (List.range output.qpuCount) = .ok (decide (name ∈ names)) := by
  have hlast : (names ++ [name])[output.qpuCount]? = some name := by
    rw [hcount, List.getElem?_concat_length]
  have hnew : 0 ∉ name := hnul name (List.mem_append_right _ (List.mem_singleton_self name))
  have hindices (indices : List ℕ) (hindices : ∀ index ∈ indices, index < names.length) :
      QpuNames.repeats output indices =
        .ok (indices.any fun index => decide (names[index]? = some name)) := by
    induction indices with
    | nil => rfl
    | cons index indices ih =>
      obtain ⟨hindex, hrest⟩ := List.forall_mem_cons.mp hindices
      have hearlier : names[index]? = some names[index] := List.getElem?_eq_getElem hindex
      have hsaved : (names ++ [name])[index]? = some names[index] := by
        rw [List.getElem?_append_left hindex, hearlier]
      have hold : 0 ∉ names[index] := hnul _ (List.mem_of_getElem? hsaved)
      have hequal : C.strcmp names[index] name = 0 ↔ names[index] = name :=
        C.strcmp_eq_zero_iff hold hnew
      have hfound : names[index]? = some name ↔ names[index] = name := by
        rw [hearlier, Option.some.injEq]
      rw [QpuNames.repeats, h.readName hsaved hold, h.readName hlast hnew, List.any_cons]
      change (if C.strcmp names[index] name = 0 then Except.ok true
        else QpuNames.repeats output indices) = _
      by_cases hsame : names[index] = name
      · rw [if_pos (hequal.mpr hsame), decide_eq_true (hfound.mpr hsame), Bool.true_or]
      · rw [if_neg fun hzero => hsame (hequal.mp hzero), ih hrest,
          decide_eq_false fun heq => hsame (hfound.mp heq), Bool.false_or]
  rw [hindices _ fun index hindex => hcount ▸ List.mem_range.mp hindex, hcount]
  refine congrArg Except.ok (Bool.eq_iff_iff.mpr ?_)
  rw [List.any_eq_true, decide_eq_true_eq, List.mem_iff_getElem?]
  constructor
  · rintro ⟨index, -, hindex⟩
    exact ⟨index, of_decide_eq_true hindex⟩
  · rintro ⟨index, hindex⟩
    obtain ⟨hlt, -⟩ := List.getElem?_eq_some_iff.mp hindex
    exact ⟨index, List.mem_range.mpr hlt, decide_eq_true hindex⟩

/-! ### The loop -/

/-- What the loop is expected to find at the end, from here. -/
def Expects (found : Option (List (List UInt8))) : Scan → Prop
  | .atTest cursor output => ∃ names, Rows names output.qpuNames ∧
      output.qpuCount = names.length ∧ (∀ name ∈ names, 0 ∉ name) ∧
      addQpuNames names (Sequence.linesOf (· = 44) cursor) = found
  | .behind output => ∃ names, Rows names output.qpuNames ∧ output.qpuCount = names.length ∧
      (∀ name ∈ names, 0 ∉ name) ∧ found = some names
  | .refused _ => found = none
  | .outside => False

/-- What the cursor has still to pass. -/
def Scan.remaining : Scan → ℕ
  | .atTest cursor _ => cursor.length + 1
  | _ => 0

/-- The name at the cursor is the first line of the rest. -/
lemma linesOf_cursor {cursor : List UInt8} (hne : cursor ≠ []) :
    Sequence.linesOf (· = 44) cursor =
      cursor.take ((cursor.idxOf? 44).getD cursor.length) ::
        Sequence.linesOf (· = 44)
          (((cursor.idxOf? 44).map fun offset => cursor.drop (offset + 1)).getD []) := by
  rcases hseparator : cursor.idxOf? 44 with - | offset
  · have hnone : ∀ b ∈ cursor, decide (b = 44) = false := fun b hb =>
      decide_eq_false fun heq => List.idxOf?_eq_none_iff.mp hseparator (heq ▸ hb)
    rw [Sequence.linesOf_line hne hnone, Option.getD_none, List.take_length]
    rfl
  · obtain ⟨hlt, hcomma, hbefore⟩ := List.idxOf?_eq_some_iff.mp hseparator
    have hline : ∀ b ∈ cursor.take offset, decide (b = 44) = false := by
      intro b hb
      obtain ⟨i, hi, rfl⟩ := List.mem_iff_getElem.mp hb
      rw [List.length_take] at hi
      rw [List.getElem_take]
      exact decide_eq_false (hbefore i (by omega))
    have hsplit : cursor = cursor.take offset ++ 44 :: cursor.drop (offset + 1) := by
      conv_lhs => rw [← List.take_append_drop offset cursor, List.drop_eq_getElem_cons hlt, hcomma]
    rw [Option.getD_some, Option.map_some, Option.getD_some]
    conv_lhs => rw [hsplit]
    exact Sequence.linesOf_append_cons hline (decide_eq_true rfl) _

lemma zero_notMem_of_nameBytes (h : name.all isNameByte = true) : 0 ∉ name := fun hzero =>
  absurd (List.all_eq_true.mp h 0 hzero) (by decide)

/-- The body of the loop takes the name at the cursor, or refuses. -/
lemma Expects.round {found : Option (List (List UInt8))} {cursor : List UInt8}
    (h : Expects found (.atTest cursor output)) (hne : cursor ≠ []) :
    ∃ scan, round cursor output = .ok scan ∧ Expects found scan ∧
      scan.remaining ≤ cursor.length := by
  obtain ⟨names, hrows, hcount, hnul, hfound⟩ := h
  rw [linesOf_cursor hne, addQpuNames] at hfound
  rw [QpuNames.round]
  have hlength : (cursor.take ((cursor.idxOf? 44).getD cursor.length)).length =
      (cursor.idxOf? 44).getD cursor.length := by
    rw [List.length_take, min_eq_left]
    rcases hseparator : cursor.idxOf? 44 with - | offset
    · exact le_rfl
    · obtain ⟨hlt, -⟩ := List.idxOf?_eq_some_iff.mp hseparator
      exact hlt.le
  dsimp only
  rw [hcount]
  generalize hname : cursor.take ((cursor.idxOf? 44).getD cursor.length) = name at *
  rw [hlength] at hfound
  by_cases hbad : (cursor.idxOf? 44).getD cursor.length = 0 ∨
      maxResourceName < (cursor.idxOf? 44).getD cursor.length ∨ maxServices ≤ names.length
  · rw [if_pos hbad] at hfound ⊢
    exact ⟨_, rfl, hfound.symm, Nat.zero_le _⟩
  rw [if_neg hbad] at hfound ⊢
  by_cases hbytes : name.all isNameByte
  · rw [if_neg (not_not.mpr hbytes)] at hfound ⊢
    rw [not_or, not_or, not_lt, not_le] at hbad
    obtain ⟨rows, hcopy, hrows⟩ :=
      hrows.copyName hcount hbad.2.2 (hlength.trans_le hbad.2.1)
    have hnul : ∀ other ∈ names ++ [name], 0 ∉ other := by
      intro other hother
      rcases List.mem_append.mp hother with hother | hother
      · exact hnul other hother
      · rw [List.mem_singleton.mp hother]
        exact zero_notMem_of_nameBytes hbytes
    have hrepeats : repeats { output with qpuNames := rows } (List.range output.qpuCount) =
        .ok (decide (name ∈ names)) := Rows.repeats hrows hcount hnul
    rw [hcopy]
    change ∃ scan, (repeats { output with qpuNames := rows } (List.range output.qpuCount) >>= _) =
      .ok scan ∧ _
    rw [hrepeats]
    by_cases hmem : name ∈ names
    · rw [if_pos hmem] at hfound
      rw [decide_eq_true hmem]
      exact ⟨_, rfl, hfound.symm, Nat.zero_le _⟩
    · rw [if_neg hmem] at hfound
      rw [decide_eq_false hmem]
      have hnext : output.qpuCount + 1 = (names ++ [name]).length := by
        rw [hcount, List.length_append, List.length_singleton]
      rcases hseparator : cursor.idxOf? 44 with - | offset
      · rw [hseparator] at hfound
        exact ⟨_, rfl, ⟨_, hrows, hnext, hnul, hfound.symm⟩, Nat.zero_le _⟩
      · rw [hseparator] at hfound
        obtain ⟨hlt, -⟩ := List.idxOf?_eq_some_iff.mp hseparator
        refine ⟨_, rfl, ⟨_, hrows, hnext, hnul, hfound⟩, ?_⟩
        rw [Scan.remaining, List.length_drop]
        omega
  · rw [if_pos hbytes] at hfound ⊢
    exact ⟨_, rfl, hfound.symm, Nat.zero_le _⟩

/-- Every step keeps what is expected and brings the loop nearer to its end. -/
lemma Expects.next {found : Option (List (List UInt8))} {scan scan' : Scan}
    (h : Expects found scan) (hnext : next scan = some scan') :
    Expects found scan' ∧ scan'.remaining < scan.remaining := by
  cases scan with
  | atTest cursor output =>
    rw [QpuNames.next] at hnext
    by_cases hnil : cursor = []
    · rw [if_pos hnil, Option.some.injEq] at hnext
      obtain ⟨names, hrows, hcount, hnul, hfound⟩ := h
      rw [hnil] at hfound
      rw [← hnext]
      exact ⟨⟨names, hrows, hcount, hnul, hfound.symm⟩, Nat.succ_pos _⟩
    · obtain ⟨last, hround, hlast, hless⟩ := h.round hnil
      rw [if_neg hnil, hround, Option.some.injEq] at hnext
      rw [← hnext]
      exact ⟨hlast, Nat.lt_succ_of_le hless⟩
  | behind output => cases hnext
  | refused output => cases hnext
  | outside => cases hnext

/-! ### What the parser returns -/

/-- The parser ends like this on fresh options, within the steps that the length of the value
allows. -/
def Ends (value : List UInt8) (outcome : Outcome) : Prop :=
  ∀ fuel, value.length + 1 < fuel → parseQpuNames fuel (some value) fresh = some outcome

lemma Ends.unique {value : List UInt8} {outcome other : Outcome} (h : Ends value outcome)
    (hother : Ends value other) : outcome = other := by
  have hsame := h (value.length + 2) (Nat.lt_succ_self _)
  rw [hother (value.length + 2) (Nat.lt_succ_self _)] at hsame
  exact (Option.some.inj hsame).symm

lemma Rows.names_eq (h : Rows names output.qpuNames) (hcount : output.qpuCount = names.length)
    (hnul : ∀ name ∈ names, 0 ∉ name) : output.names = names := by
  refine List.ext_getElem? fun index => ?_
  rw [Options.names, List.getElem?_map, List.getElem?_take, hcount]
  split_ifs with hindex
  · have hname : names[index]? = some names[index] := List.getElem?_eq_getElem hindex
    obtain ⟨row, hrow, hholds⟩ := h.holds index _ hname
    rw [hrow, hname, Option.map_some,
      hholds.stringOf_eq (hnul _ (List.getElem_mem hindex))]
  · rw [List.getElem?_eq_none (not_lt.mp hindex)]
    rfl

/-- The loop ends within the array, with what the parser on lists returns. -/
theorem parseQpuNames_refines (value : List UInt8) :
    match Native.parseQpuNames value with
    | none => ∃ output, Ends value (.returned (-1) output)
    | some names => ∃ output, Ends value (.returned 0 output) ∧ output.active = true ∧
        output.names = names := by
  by_cases hnil : value = []
  · rw [hnil]
    exact ⟨fresh, fun fuel _ => rfl⟩
  have hstart : Expects (addQpuNames [] (Sequence.linesOf (· = 44) value))
      (.atTest value fresh) :=
    ⟨[], rows_fresh, rfl, fun name hname => absurd hname List.not_mem_nil, rfl⟩
  obtain ⟨last, hlast, hend, hloop⟩ := Interaction.loop_of_measure
    (Expects (addQpuNames [] (Sequence.linesOf (· = 44) value))) Scan.remaining
    (fun scan scan' (h : Expects _ scan) (hnext : next scan = some scan') => h.next hnext) hstart
  have hparse (fuel : ℕ) (hfuel : value.length + 1 < fuel) :
      parseQpuNames fuel (some value) fresh = last.outcome := by
    rw [parseQpuNames, if_neg hnil, hloop fuel hfuel, Option.bind_some]
  rw [Native.parseQpuNames, if_neg hnil]
  cases last with
  | atTest cursor output =>
    rw [next] at hend
    split_ifs at hend
    split at hend <;> cases hend
  | behind output =>
    obtain ⟨names, hrows, hcount, hnul, hfound⟩ := hlast
    rw [hfound]
    exact ⟨{ output with active := true }, hparse, rfl, hrows.names_eq hcount hnul⟩
  | refused output =>
    have hfound : addQpuNames [] (Sequence.linesOf (· = 44) value) = none := hlast
    rw [hfound]
    exact ⟨output, hparse⟩
  | outside => exact hlast.elim

/-- The parser accepts the valid lists. -/
lemma ends_ok_iff {value : List UInt8} :
    (∃ output, Ends value (.returned 0 output)) ↔ ValidNames value := by
  have hrefines := parseQpuNames_refines value
  rcases hparsed : Native.parseQpuNames value with - | names
  · rw [hparsed] at hrefines
    obtain ⟨output, hends⟩ := hrefines
    refine iff_of_false ?_ fun hvalid => ?_
    · rintro ⟨other, hother⟩
      cases hends.unique hother
    · have hsome := parseQpuNames_eq_some_iff.mpr ⟨hvalid, rfl⟩
      rw [hparsed] at hsome
      cases hsome
  · rw [hparsed] at hrefines
    obtain ⟨output, hends, -⟩ := hrefines
    exact iff_of_true ⟨output, hends⟩ (parseQpuNames_eq_some_iff.mp hparsed).1

/-- What the accepted list leaves in the array. -/
lemma Ends.names_eq {value : List UInt8} (h : Ends value (.returned 0 output)) :
    output.names = Sequence.linesOf (· = 44) value := by
  have hvalid := ends_ok_iff.mp ⟨output, h⟩
  have hrefines := parseQpuNames_refines value
  rw [parseQpuNames_eq_some_iff.mpr ⟨hvalid, rfl⟩] at hrefines
  obtain ⟨other, hends, -, hnames⟩ := hrefines
  cases hends.unique h
  exact hnames

/-! ### The documented form -/

/-- The characters of a name. -/
def IsNameCharacter (b : UInt8) : Prop :=
  b ∈ utf8 "ABCDEFGHIJKLMNOPQRSTUVWXYZabcdefghijklmnopqrstuvwxyz0123456789_-."

/-- Between 1 and 32 different names of 1 to 128 characters. -/
structure IsNameList (names : List (List UInt8)) : Prop where
  count : 1 ≤ names.length ∧ names.length ≤ 32
  name : ∀ name ∈ names, 1 ≤ name.length ∧ name.length ≤ 128 ∧ ∀ b ∈ name, IsNameCharacter b
  nodup : names.Nodup

/-- `name[,name...]` -/
def joined (names : List (List UInt8)) : List UInt8 := [44].intercalate names

/-- The parser ends within the array, accepts the lists of the documented form and no others, and
leaves their names in the array. -/
structure ReadsList (value : List UInt8) : Prop where
  ends : ∃ status output, Ends value (.returned status output)
  accepts_iff : (∃ output, Ends value (.returned 0 output)) ↔
    ∃ names, IsNameList names ∧ value = joined names
  holds : ∀ output, Ends value (.returned 0 output) →
    ∃ names, IsNameList names ∧ value = joined names ∧ output.names = names

lemma mem_consecutive_iff {first count : ℕ} (h : first + count ≤ 256) {b : UInt8} :
    b ∈ (List.range' first count).map UInt8.ofNat ↔
      first ≤ b.toNat ∧ b.toNat < first + count := by
  rw [List.mem_map]
  constructor
  · rintro ⟨n, hn, rfl⟩
    rw [List.mem_range'_1] at hn
    rwa [UInt8.toNat_ofNat_of_lt' (by simp only [UInt8.size]; omega)]
  · intro hb
    exact ⟨b.toNat, List.mem_range'_1.mpr hb, UInt8.ofNat_toNat⟩

lemma isNameByte_iff (b : UInt8) : isNameByte b = true ↔ IsNameCharacter b := by
  have hcharacters : utf8 "ABCDEFGHIJKLMNOPQRSTUVWXYZabcdefghijklmnopqrstuvwxyz0123456789_-." =
      (List.range' 65 26).map UInt8.ofNat ++ (List.range' 97 26).map UInt8.ofNat ++
        (List.range' 48 10).map UInt8.ofNat ++ [95, 45, 46] := by
    decide +kernel
  unfold IsNameCharacter isNameByte
  rw [hcharacters]
  rw [List.mem_append, List.mem_append, List.mem_append, mem_consecutive_iff (by decide),
    mem_consecutive_iff (by decide), mem_consecutive_iff (by decide)]
  simp only [Bool.or_eq_true, Bool.and_eq_true, decide_eq_true_eq, List.mem_cons, List.not_mem_nil,
    or_false, Nat.lt_succ_iff]
  tauto

lemma IsNameList.ne_nil (h : IsNameList names) : names ≠ [] :=
  List.length_pos_iff.mp h.count.1

lemma IsNameList.noComma (h : IsNameList names) :
    ∀ name ∈ names, name ≠ [] ∧ ∀ b ∈ name, decide (b = 44) = false := by
  intro name hname
  obtain ⟨hpos, -, hbytes⟩ := h.name name hname
  refine ⟨List.length_pos_iff.mp hpos, fun b hb => decide_eq_false ?_⟩
  rintro rfl
  exact absurd ((isNameByte_iff 44).mpr (hbytes 44 hb)) (by decide)

lemma linesOf_joined (h : IsNameList names) :
    Sequence.linesOf (· = 44) (joined names) = names := by
  refine Sequence.linesOf_intercalate ?_ h.ne_nil h.noComma
  exact decide_eq_true rfl

/-- One more comma makes no difference to the lines. -/
lemma linesOf_joined_comma (h : IsNameList names) :
    Sequence.linesOf (· = 44) (joined names ++ [44]) = names := by
  refine Sequence.linesOf_intercalate_concat ?_ h.ne_nil fun name hname => ?_
  · exact decide_eq_true rfl
  · exact (h.noComma name hname).2

/-- What is valid are the lines of the list. -/
lemma validNames_iff_lines {value : List UInt8} :
    ValidNames value ↔ IsNameList (Sequence.linesOf (· = 44) value) := by
  have hname (name : List UInt8) :
      (name ≠ [] ∧ name.length ≤ maxResourceName ∧ name.all isNameByte) ↔
        1 ≤ name.length ∧ name.length ≤ 128 ∧ ∀ b ∈ name, IsNameCharacter b := by
    rw [List.all_eq_true, Ne, ← List.length_eq_zero_iff, ← Ne, Nat.one_le_iff_ne_zero]
    refine and_congr_right' (and_congr_right' ?_)
    exact forall₂_congr fun b _ => isNameByte_iff b
  constructor
  · intro h
    refine ⟨⟨List.length_pos_iff.mpr (linesOf_ne_nil h.ne_nil), h.count⟩, ?_, h.nodup⟩
    exact fun name hmem => (hname name).mp (h.name name hmem)
  · intro h
    refine ⟨?_, h.count.2, fun name hmem => (hname name).mpr (h.name name hmem), h.nodup⟩
    rintro rfl
    exact h.ne_nil rfl

/-- The valid lists are those of the documented form, with or without one more comma. -/
lemma validNames_iff_joined {value : List UInt8} :
    ValidNames value ↔ ∃ names, IsNameList names ∧
      (value = joined names ∨ value = joined names ++ [44]) := by
  constructor
  · intro h
    exact ⟨_, validNames_iff_lines.mp h, Sequence.eq_intercalate_linesOf 44 h.ne_nil⟩
  · rintro ⟨names, hnames, rfl | rfl⟩
    · exact validNames_iff_lines.mpr (by rwa [linesOf_joined hnames])
    · exact validNames_iff_lines.mpr (by rwa [linesOf_joined_comma hnames])

/-- The parser reads the documented form, except that it takes one more comma at the end. -/
theorem readsList_iff (value : List UInt8) :
    ReadsList value ↔ ¬ ∃ names, IsNameList names ∧ value = joined names ++ [44] := by
  constructor
  · rintro h ⟨names, hnames, rfl⟩
    have hvalid := validNames_iff_joined.mpr ⟨names, hnames, .inr rfl⟩
    obtain ⟨other, hother, heq⟩ := h.accepts_iff.mp (ends_ok_iff.mpr hvalid)
    -- the names are the lines, with or without the comma
    have hsame : names = other := by
      rw [← linesOf_joined_comma hnames, heq, linesOf_joined hother]
    rw [← hsame] at heq
    have hlength := congrArg List.length heq
    rw [List.length_append, List.length_singleton] at hlength
    omega
  · intro h
    have hform (hvalid : ValidNames value) : ∃ names, IsNameList names ∧ value = joined names := by
      obtain ⟨names, hnames, heq | heq⟩ := validNames_iff_joined.mp hvalid
      · exact ⟨names, hnames, heq⟩
      · exact absurd ⟨names, hnames, heq⟩ h
    refine ⟨?_, ?_, ?_⟩
    · have hrefines := parseQpuNames_refines value
      split at hrefines
      · exact ⟨-1, hrefines⟩
      · obtain ⟨output, hends, -⟩ := hrefines
        exact ⟨0, output, hends⟩
    · rw [ends_ok_iff]
      refine ⟨hform, ?_⟩
      rintro ⟨names, hnames, rfl⟩
      exact validNames_iff_joined.mpr ⟨names, hnames, .inl rfl⟩
    · intro output hends
      obtain ⟨names, hnames, rfl⟩ := hform (ends_ok_iff.mp ⟨output, hends⟩)
      exact ⟨names, hnames, rfl, hends.names_eq.trans (linesOf_joined hnames)⟩

/-- A comma behind the only name is accepted, which the documented form has no place for. -/
theorem last_comma_accepted :
    (∃ output, Ends (utf8 "a,") (.returned 0 output)) ∧ ¬ ReadsList (utf8 "a,") := by
  have hlines : Sequence.linesOf (· = 44) (utf8 "a,") = [[97]] := by decide
  have hvalid : ValidNames (utf8 "a,") := by
    refine ⟨by decide, ?_, ?_, ?_⟩ <;> rw [hlines] <;> decide
  have hends := ends_ok_iff.mpr hvalid
  refine ⟨hends, fun h => ?_⟩
  obtain ⟨names, hnames, heq⟩ := h.accepts_iff.mp hends
  have hsame : names = [[97]] := by rw [← linesOf_joined hnames, ← heq, hlines]
  rw [hsame] at heq
  revert heq
  decide

end QfwSlurm.Native.QpuNames
