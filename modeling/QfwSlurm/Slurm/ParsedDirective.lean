import QfwSlurm.Python.Json
import QfwSlurm.Slurm.Script

/-!
# The directive as the helper reads it

`parse_directive` splits the line that it has selected at white space, reads each piece as a field,
and checks the fields.  `checkValues_eq_ok_iff` says which fields it accepts.
-/

namespace QfwSlurm.Helper

/-- `FIELDS` -/
def fieldNames : List String :=
  ["qpu", "workload", "circuits", "qubits", "depth", "shots", "oneq", "twoq", "measurements"]

/-- `REQUIRED`, in the order of `sorted`. -/
def requiredNames : List String := ["circuits", "depth", "qpu", "qubits", "shots", "workload"]

/-- `FIELDS[2:]` -/
def numericNames : List String :=
  ["circuits", "qubits", "depth", "shots", "oneq", "twoq", "measurements"]

/-- `UINT.fullmatch`, and a number that is not zero. -/
def isNonzero (text : String) : Bool :=
  text ≠ "" && text.toList.all Python.isJsonDigit && Python.numberOfDigits text.toList ≠ 0

/-- The loop of `parse_directive` over the pieces behind the version. -/
def parseFields (values : Directive) : List (List Char) → Except Failure Directive
  | [] => .ok values
  | token :: tokens =>
    if '=' ∉ token then .error (.helper "malformed QFW directive field")
    else
      let name := String.ofList (token.takeWhile (· ≠ '='))
      let value := String.ofList ((token.dropWhile (· ≠ '=')).drop 1)
      if name ∉ fieldNames ∨ (values.lookup name).isSome ∨ value = "" then
        .error (.helper s!"invalid or duplicate QFW field: {name}")
      else parseFields (values ++ [(name, value)]) tokens

/-- The check of the numbers. -/
def checkNumbers (values : Directive) : List String → Except Failure Unit
  | [] => .ok ()
  | name :: names =>
    match values.lookup name with
    | none => checkNumbers values names
    | some value =>
      if isNonzero value then checkNumbers values names
      else .error (.helper s!"invalid QFW numeric field: {name}")

/-- The services of a directive. -/
def servicesOf (values : Directive) : List (List Char) :=
  ((values.lookup "qpu").getD "").toList.splitOnP (· = ',')

/-- The checks of `parse_directive` on the fields. -/
def checkValues (values : Directive) : Except Failure Unit :=
  let missing := requiredNames.filter fun name => (values.lookup name).isNone
  let workload := (values.lookup "workload").getD ""
  let services := servicesOf values
  if missing ≠ [] then .error (.helper ("missing QFW fields: " ++ ",".intercalate missing))
  else if workload ≠ "quantum" ∧ workload ≠ "hybrid" then .error (.helper "invalid QFW workload")
  else if services = [] ∨ ¬ services.Nodup then
    .error (.helper "QPM service list is empty or contains duplicates")
  else if ¬ services.all fun service => isIdentifier (String.ofList service) then
    .error (.helper "invalid QPM service identifier")
  else checkNumbers values numericNames

/-- The second part of `parse_directive`, on the selected line. -/
def readDirective (directive : List Char) : Except Failure Directive :=
  match Python.split directive with
  | first :: version :: tokens =>
    if first = "#QFW".toList ∧ version = "v=1".toList then do
      let values ← parseFields [] tokens
      checkValues values
      return values
    else .error (.helper "unsupported QFW directive version")
  | _ => .error (.helper "unsupported QFW directive version")

/-- `parse_directive` on the content of the job script; bytes that are not UTF-8 raise an exception
that is not caught. -/
def parseDirective (data : List UInt8) : Except Failure Directive :=
  match decodeUtf8 data with
  | none => .error .other
  | some text => selectDirective text.toList >>= readDirective

/-! ### What is read -/

/-- The piece of a field. -/
def fieldToken (field : String × String) : List Char := field.1.toList ++ '=' :: field.2.toList

/-- Different fields are read one after the other. -/
lemma parseFields_fieldToken {values fields : Directive}
    (hfields : ∀ field ∈ fields, field.1 ∈ fieldNames ∧ field.2 ≠ "")
    (hnodup : (fields.map Prod.fst).Nodup)
    (hfresh : ∀ field ∈ fields, values.lookup field.1 = none) :
    parseFields values (fields.map fieldToken) = .ok (values ++ fields) := by
  induction fields generalizing values with
  | nil => rw [List.append_nil]; rfl
  | cons field fields ih =>
    obtain ⟨⟨hname, hvalue⟩, hrest⟩ := List.forall_mem_cons.mp hfields
    obtain ⟨hnew, hlater⟩ := List.forall_mem_cons.mp hfresh
    rw [List.map_cons, List.nodup_cons] at hnodup
    have hletters : ∀ c ∈ field.1.toList, decide (c ≠ '=') = true := by
      have hall : ∀ name ∈ fieldNames, name.toList.all (· ≠ '=') = true := by decide
      exact List.all_eq_true.mp (hall field.1 hname)
    have htake : (fieldToken field).takeWhile (· ≠ '=') = field.1.toList := by
      rw [fieldToken, List.takeWhile_append_of_pos hletters,
        List.takeWhile_cons_of_neg (by decide), List.append_nil]
    have hdrop : (fieldToken field).dropWhile (· ≠ '=') = '=' :: field.2.toList := by
      rw [fieldToken, List.dropWhile_append_of_pos hletters,
        List.dropWhile_cons_of_neg (by decide)]
    have hequals : '=' ∈ fieldToken field := List.mem_append_right _ List.mem_cons_self
    have hgood : ¬ (field.1 ∉ fieldNames ∨ (values.lookup field.1).isSome ∨ field.2 = "") := by
      rw [hnew]
      simp [hname, hvalue]
    rw [List.map_cons, parseFields, if_neg (not_not.mpr hequals), htake, hdrop]
    dsimp only
    rw [List.drop_succ_cons, List.drop_zero, String.ofList_toList, String.ofList_toList,
      if_neg hgood, ih hrest hnodup.2, List.append_assoc, List.singleton_append]
    intro other hother
    have hne : other.1 ≠ field.1 := by
      intro heq
      have hmem := List.mem_map_of_mem (f := Prod.fst) hother
      rw [heq] at hmem
      exact hnodup.1 hmem
    have hbeq : (other.1 == field.1) = false := by simpa using hne
    rw [List.lookup_append, hlater other hother, Option.none_or, List.lookup_cons, hbeq]
    rfl

lemma checkNumbers_eq_ok_iff {values : Directive} {names : List String} :
    checkNumbers values names = .ok () ↔
      ∀ name ∈ names, ∀ value, values.lookup name = some value → isNonzero value = true := by
  induction names with
  | nil => exact iff_of_true rfl fun name hname => absurd hname List.not_mem_nil
  | cons name names ih =>
    rw [checkNumbers, List.forall_mem_cons]
    rcases values.lookup name with - | value
    · rw [ih]
      exact ⟨fun h => ⟨nofun, h⟩, And.right⟩
    · dsimp only
      by_cases hvalue : isNonzero value = true
      · rw [if_pos hvalue, ih]
        exact ⟨fun h => ⟨fun other hother => Option.some.inj hother ▸ hvalue, h⟩, And.right⟩
      · rw [if_neg hvalue]
        exact iff_of_false nofun fun h => hvalue (h.1 value rfl)

/-- Fields that can be used: the required ones are there, the workload is one of two, the services
are different identifiers, and no number is zero. -/
structure Usable (values : Directive) : Prop where
  required : ∀ name ∈ requiredNames, (values.lookup name).isSome = true
  workload : (values.lookup "workload").getD "" = "quantum" ∨
    (values.lookup "workload").getD "" = "hybrid"
  nodup : (servicesOf values).Nodup
  identifiers : ∀ service ∈ servicesOf values, isIdentifier (String.ofList service) = true
  numbers : ∀ name ∈ numericNames, ∀ value, values.lookup name = some value →
    isNonzero value = true

/-- The checks accept the fields that can be used. -/
theorem checkValues_eq_ok_iff {values : Directive} : checkValues values = .ok () ↔ Usable values := by
  have hmissing : (requiredNames.filter fun name => (values.lookup name).isNone) = [] ↔
      ∀ name ∈ requiredNames, (values.lookup name).isSome = true := by
    rw [List.filter_eq_nil_iff]
    simp only [Option.isNone_iff_eq_none, Option.isSome_iff_ne_none]
  unfold checkValues
  dsimp only
  by_cases hrequired : ∀ name ∈ requiredNames, (values.lookup name).isSome = true
  · rw [if_neg (not_not.mpr (hmissing.mpr hrequired))]
    by_cases hworkload : (values.lookup "workload").getD "" = "quantum" ∨
        (values.lookup "workload").getD "" = "hybrid"
    · rw [if_neg fun h => hworkload.elim h.1 h.2]
      have hne : servicesOf values ≠ [] := List.splitOnP_ne_nil _ _
      by_cases hnodup : (servicesOf values).Nodup
      · rw [if_neg fun h => h.elim hne fun h => h hnodup]
        by_cases hidentifiers :
            ∀ service ∈ servicesOf values, isIdentifier (String.ofList service) = true
        · rw [if_neg (not_not.mpr (List.all_eq_true.mpr hidentifiers)), checkNumbers_eq_ok_iff]
          exact ⟨fun h => ⟨hrequired, hworkload, hnodup, hidentifiers, h⟩, fun h => h.numbers⟩
        · rw [if_pos fun h => hidentifiers (List.all_eq_true.mp h)]
          exact iff_of_false nofun fun h => hidentifiers h.identifiers
      · rw [if_pos (.inr hnodup)]
        exact iff_of_false nofun fun h => hnodup h.nodup
    · rw [if_pos (not_or.mp hworkload)]
      exact iff_of_false nofun fun h => hworkload h.workload
  · rw [if_pos fun h => hrequired (hmissing.mp h)]
    exact iff_of_false nofun fun h => hrequired h.required

/-- The line of the fields. -/
def directiveText (fields : Directive) : List Char :=
  [' '].intercalate ("#QFW".toList :: "v=1".toList :: fields.map fieldToken)

/-- Fields with names that are known, and with values that are not empty and have no white space. -/
def Legible (fields : Directive) : Prop :=
  ∀ field ∈ fields, field.1 ∈ fieldNames ∧ field.2 ≠ "" ∧
    ∀ c ∈ field.2.toList, Python.isSpace c = false

/-- White space stands between the pieces only. -/
lemma Legible.pieces {fields : Directive} (h : Legible fields) :
    ∀ piece ∈ "#QFW".toList :: "v=1".toList :: fields.map fieldToken,
      piece ≠ [] ∧ ∀ c ∈ piece, Python.isSpace c = false := by
  have hliteral {word : List Char} (hword : word.all (fun c => !Python.isSpace c) = true) :
      ∀ c ∈ word, Python.isSpace c = false := fun c hc =>
    (Bool.not_eq_true' _).mp (List.all_eq_true.mp hword c hc)
  rw [List.forall_mem_cons, List.forall_mem_cons, List.forall_mem_map]
  refine ⟨⟨List.cons_ne_nil _ _, hliteral (by decide)⟩,
    ⟨List.cons_ne_nil _ _, hliteral (by decide)⟩, fun field hfield => ⟨?_, fun c hc => ?_⟩⟩
  · exact List.append_ne_nil_of_right_ne_nil _ (List.cons_ne_nil _ _)
  · obtain ⟨hname, -, hvalue⟩ := h field hfield
    rcases List.mem_append.mp hc with hc | hc
    · have hall : ∀ name ∈ fieldNames, name.toList.all (fun c => !Python.isSpace c) = true := by
        decide
      exact hliteral (hall field.1 hname) c hc
    · rcases List.mem_cons.mp hc with rfl | hc
      · decide
      · exact hvalue c hc

/-- A line of usable fields is read as these fields. -/
theorem readDirective_directiveText {fields : Directive} (hlegible : Legible fields)
    (hnodup : (fields.map Prod.fst).Nodup) (husable : Usable fields) :
    readDirective (directiveText fields) = .ok fields := by
  rw [readDirective, directiveText, Python.split_intercalate (List.cons_ne_nil _ _) hlegible.pieces]
  dsimp only
  rw [if_pos ⟨rfl, rfl⟩, parseFields_fieldToken (fun field hfield =>
    ⟨(hlegible field hfield).1, (hlegible field hfield).2.1⟩) hnodup fun _ _ => rfl,
    List.nil_append]
  change (checkValues fields >>= fun _ => .ok fields) = _
  rw [checkValues_eq_ok_iff.mpr husable]
  rfl

/-- The line is not stripped, and has no boundary. -/
lemma Legible.line {fields : Directive} (h : Legible fields) :
    Python.strip (directiveText fields) = directiveText fields ∧
      ∀ c ∈ directiveText fields, Python.isLineBreak c = false := by
  refine ⟨Python.strip_intercalate (List.cons_ne_nil _ _) h.pieces, fun c hc => ?_⟩
  rcases Sequence.mem_intercalate hc with rfl | ⟨piece, hpiece, hc⟩
  · decide
  · have hspace := (h.pieces piece hpiece).2 c hc
    refine Bool.eq_false_iff.mpr fun hbreak => ?_
    rw [isSpace_of_isLineBreak hbreak] at hspace
    cases hspace

end QfwSlurm.Helper
