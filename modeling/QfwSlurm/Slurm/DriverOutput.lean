import QfwSlurm.Native.Environment
import QfwSlurm.Native.Operations
import QfwSlurm.Python.JsonStrings
import QfwSlurm.Python.Lines

/-!
# The line that the driver prints for the helper

`print_reserve` and `print_release` of the driver write a result as one line of JSON, which
`invoke_driver` of the burst-buffer helper takes as the last line of the output.  The printer
escapes what JSON requires.  Python knows three further line boundaries, which JSON leaves as they
are: a result that has one of them in a text is cut there and its rest is no document, any other is
read back as it was (`readBack_iff`).
-/

namespace QfwSlurm

open Native

/-! ### The driver -/

inductive DriverCommand where
  | evaluate
  | reserve
  | release
  deriving DecidableEq

def DriverCommand.text : DriverCommand → String
  | evaluate => "evaluate"
  | reserve => "reserve"
  | release => "release"

/-- `operation_name` -/
def operationName : Native.OperationState → String
  | .accepted => "accepted"
  | .delayed => "delayed"
  | .rejected => "rejected"
  | .clientError => "client-error"
  | .gatewayError => "gateway-error"
  | .responseError => "response-error"
  | .released => "released"
  | .releaseUnresolved => "release-unresolved"
  | .invalid => "invalid"

/-- The fields of `struct qfw_reserve_operation_result` and `struct qfw_release_operation_result`
that are printed. -/
structure OperationResult where
  requestId : ℕ
  state : Native.OperationState
  unresolvedCount : ℕ := 0
  diagnostic : List UInt8 := []
  reservationsJson : List UInt8 := []
  deriving DecidableEq

/-- `print_json_string`, which escapes as `append_json_string` does. -/
def printJsonString (value : List UInt8) : List UInt8 :=
  utf8 "\"" ++ (value.flatMap escapeByte ++ utf8 "\"")

/-- The beginning of a printed line. -/
def printHead (command : DriverCommand) (result : OperationResult) : List UInt8 :=
  utf8 ("\x7b\"schema\":\"qfw-slurm-driver-v1\",\"operation\":\"" ++ command.text ++
    "\",\"request_id\":" ++ toString result.requestId ++ ",\"state\":") ++
  printJsonString (utf8 (operationName result.state))

/-- `print_reserve` with `--json`, for the commands `evaluate` and `reserve`. -/
def printReserve (command : DriverCommand) (result : OperationResult) : List UInt8 :=
  printHead command result ++ (utf8 ",\"diagnostic\":" ++ (printJsonString result.diagnostic ++
    (utf8 ",\"reservations\":" ++
      ((if result.state = .accepted ∧ command ≠ .evaluate then result.reservationsJson
        else utf8 "null") ++ utf8 "\x7d\n"))))

/-- `print_release` with `--json`. -/
def printRelease (result : OperationResult) : List UInt8 :=
  printHead .release result ++
    (utf8 (",\"unresolved_count\":" ++ toString result.unresolvedCount ++ ",\"diagnostic\":") ++
      (printJsonString result.diagnostic ++ utf8 "\x7d\n"))

/-- What the driver prints. -/
def printed (command : DriverCommand) (result : OperationResult) : List UInt8 :=
  if command = .release then printRelease result else printReserve command result

/-! ### The helper -/

/-- Why `invoke_driver` does not return a result. -/
inductive DriverFailure where
  /-- The output is not UTF-8. -/
  | undecodable
  | noResult
  | invalidJson
  /-- The result is not a mapping. -/
  | attributeError
  | wrongResult
  deriving DecidableEq

/-- The last part of `invoke_driver`, on what the driver has printed. -/
def readResult (operation : String) (driverStatus : ℤ) (epoch : ℕ) (stdout : List UInt8) :
    Except DriverFailure Python.Json :=
  match decodeUtf8 stdout with
  | none => .error .undecodable
  | some text =>
    let lines := (Python.splitlines (Python.universalNewlines text.toList)).filter
      fun line => Python.strip line ≠ []
    match lines.getLast? with
    | none => .error .noResult
    | some line =>
      match Python.loads line with
      | none => .error .invalidJson
      | some (.obj members) =>
        match (Python.Document.obj members).get "operation".toList with
        | some (.str text) =>
          if text = operation.toList then
            .ok (.obj (members ++ [("driver_status".toList, .int driverStatus),
              ("allocation_epoch".toList, .str (toString epoch).toList)]))
          else .error .wrongResult
        | _ => .error .wrongResult
      | some _ => .error .attributeError

/-! ### The line as a document -/

/-- A member as it is printed. -/
def memberText (key : String) (value : List Char) : List Char :=
  Python.quoted key.toList ++ ':' :: value

/-- The members of a result: names, texts and values. -/
def resultMembers (command : DriverCommand) (result : OperationResult) (diagnostic : String)
    (reservations : List Char × Python.Json) : List (String × List Char × Python.Json) :=
  [("schema", Python.quoted "qfw-slurm-driver-v1".toList, .str "qfw-slurm-driver-v1".toList),
    ("operation", Python.quoted command.text.toList, .str command.text.toList),
    ("request_id", Python.decimalText result.requestId, .int result.requestId),
    ("state", Python.quoted (operationName result.state).toList,
      .str (operationName result.state).toList)] ++
  if command = .release then
    [("unresolved_count", Python.decimalText result.unresolvedCount, .int result.unresolvedCount),
      ("diagnostic", Python.quoted diagnostic.toList, .str diagnostic.toList)]
  else
    [("diagnostic", Python.quoted diagnostic.toList, .str diagnostic.toList),
      ("reservations", reservations.1, reservations.2)]

/-- An object as it is printed. -/
def objectText (members : List (String × List Char × Python.Json)) : List Char :=
  '\x7b' :: (Python.commaSeparated (members.map fun member => memberText member.1 member.2.1) ++
    ['\x7d'])

/-- The value of an object. -/
def objectValue (members : List (String × List Char × Python.Json)) : Python.Json :=
  .obj (members.map fun member => (member.1.toList, member.2.2))

/-- An object whose values are read is read. -/
lemma reads_objectText {members : List (String × List Char × Python.Json)}
    (h : ∀ member ∈ members, Python.Reads Python.scanString member.2.1 member.2.2) :
    Python.Reads Python.scanString (objectText members) (objectValue members) := by
  apply Python.Reads.obj
  rw [List.forall₂_map_left_iff, List.forall₂_map_right_iff, List.forall₂_same]
  intro member hmember
  exact ⟨_, member.2.1, rfl, Python.readsString_quoted _, h member hmember⟩

section Printing

variable {command : DriverCommand} {result : OperationResult} {diagnostic : String}
  {reservations : List Char × Python.Json}

lemma toList_toString (n : ℕ) : (toString n).toList = Python.decimalText n := by
  rw [Python.decimalText, ← Nat.toList_repr]
  rfl

lemma printJsonString_utf8 (text : String) :
    printJsonString (utf8 text) = bytesOf (Python.quoted text.toList) :=
  (bytesOf_quoted text).symm

/-- The command is printed as it is. -/
lemma quoted_command (command : DriverCommand) :
    Python.quoted command.text.toList = '"' :: (command.text.toList ++ ['"']) := by
  cases command <;> decide

/-- What the driver prints is the document of the result and a line feed. -/
theorem printed_eq (hdiagnostic : result.diagnostic = utf8 diagnostic)
    (hreservations : command ≠ .release →
      (if result.state = .accepted ∧ command ≠ .evaluate then result.reservationsJson
        else utf8 "null") = bytesOf reservations.1) :
    printed command result =
      bytesOf (objectText (resultMembers command result diagnostic reservations) ++ ['\n']) := by
  by_cases hrelease : command = .release
  · subst hrelease
    rw [printed, if_pos rfl, printRelease, printHead, hdiagnostic, printJsonString_utf8,
      printJsonString_utf8, ← bytesOf_toList, ← bytesOf_toList, ← bytesOf_toList, ← bytesOf_append,
      ← bytesOf_append, ← bytesOf_append, ← bytesOf_append]
    refine congrArg bytesOf ?_
    simp only [String.toList_append, toList_toString, resultMembers, if_true, objectText,
      List.cons_append, List.nil_append, List.map_cons, List.map_nil, Python.commaSeparated,
      memberText, quoted_command, List.append_assoc]
    rfl
  · rw [printed, if_neg hrelease, printReserve, printHead, hdiagnostic, hreservations hrelease,
      printJsonString_utf8, printJsonString_utf8, ← bytesOf_toList, ← bytesOf_toList,
      ← bytesOf_toList, ← bytesOf_toList, ← bytesOf_append, ← bytesOf_append, ← bytesOf_append,
      ← bytesOf_append, ← bytesOf_append, ← bytesOf_append]
    refine congrArg bytesOf ?_
    simp only [String.toList_append, toList_toString, resultMembers, if_neg hrelease, objectText,
      List.cons_append, List.nil_append, List.map_cons, List.map_nil, Python.commaSeparated,
      memberText, quoted_command, List.append_assoc]
    rfl

end Printing

/-! ### Reading the line -/

/-- The line boundaries that are printed as they are. -/
def Separates (c : Char) : Prop := c.toNat ∈ [0x85, 0x2028, 0x2029]

instance (c : Char) : Decidable (Separates c) :=
  inferInstanceAs (Decidable (c.toNat ∈ [0x85, 0x2028, 0x2029]))

lemma Separates.high {c : Char} (h : Separates c) : 128 ≤ c.toNat := by
  simp only [Separates, List.mem_cons, List.not_mem_nil, or_false] at h
  omega

/-- Among the characters that are printed, only these end a line. -/
lemma isLineBreak_iff {c : Char} (h : 32 ≤ c.toNat) : Python.isLineBreak c = true ↔ Separates c := by
  rw [Python.isLineBreak, decide_eq_true_eq]
  simp only [Separates, List.mem_cons, List.not_mem_nil, or_false]
  omega

/-- A text without them. -/
def Unbroken (text : String) : Prop := ∀ c ∈ text.toList, ¬ Separates c

/-- The part of `readResult` that looks at the last line. -/
lemma readResult_eq {line : List Char} (lines : List (List Char)) (operation : String)
    (driverStatus : ℤ) (epoch : ℕ) {text : List Char} (hreturn : '\r' ∉ text)
    (hlines : Python.splitlines text = lines ++ [line]) (hline : Python.strip line ≠ []) :
    readResult operation driverStatus epoch (bytesOf text) =
      match Python.loads line with
      | none => .error .invalidJson
      | some (.obj members) =>
        match (Python.Document.obj members).get "operation".toList with
        | some (.str text) =>
          if text = operation.toList then
            .ok (.obj (members ++ [("driver_status".toList, .int driverStatus),
              ("allocation_epoch".toList, .str (toString epoch).toList)]))
          else .error .wrongResult
        | _ => .error .wrongResult
      | some _ => .error .attributeError := by
  have hdecode : decodeUtf8 (bytesOf text) = some (String.ofList text) :=
    decodeUtf8_eq_some_iff.mpr (by rw [← bytesOf_toList, String.toList_ofList])
  have hlast : ((Python.splitlines (Python.universalNewlines (String.ofList text).toList)).filter
      fun line => Python.strip line ≠ []).getLast? = some line := by
    rw [String.toList_ofList, Python.universalNewlines_eq hreturn, hlines]
    exact Python.getLast_filter_concat (decide_eq_true hline)
  rw [readResult, hdecode]
  dsimp only
  rw [hlast]

section Lines

variable {text : List Char} {value : Python.Json}

/-- A printable document that ends with a brace and has no line boundary is the last line. -/
lemma readResult_of_unbroken (hreads : Python.Reads Python.scanString text value)
    (hprintable : ∀ c ∈ text, 32 ≤ c.toNat) (hbrace : '\x7d' ∈ text)
    (hunbroken : ∀ c ∈ text, ¬ Separates c) {members : List (List Char × Python.Json)}
    (hvalue : value = .obj members) {operation : String} (driverStatus : ℤ) (epoch : ℕ)
    (hoperation : (Python.Document.obj members).get "operation".toList = some (.str operation.toList)) :
    readResult operation driverStatus epoch (bytesOf (text ++ ['\n'])) =
      .ok (.obj (members ++ [("driver_status".toList, .int driverStatus),
        ("allocation_epoch".toList, .str (toString epoch).toList)])) := by
  have hreturn : '\r' ∉ text ++ ['\n'] := by
    intro hmem
    rcases List.mem_append.mp hmem with hmem | hmem
    · exact absurd (hprintable _ hmem) (by decide)
    · exact absurd hmem (by decide)
  have hbreaks : ∀ c ∈ text, Python.isLineBreak c = false := by
    intro c hc
    rw [Bool.eq_false_iff, Ne, isLineBreak_iff (hprintable c hc)]
    exact hunbroken c hc
  have hlines := Python.splitlines_line hbreaks (List.ne_nil_of_mem hbrace)
  have hstrip := Python.strip_ne_nil hbrace (by decide)
  rw [readResult_eq [] operation driverStatus epoch hreturn hlines hstrip, hreads.loads,
    hvalue]
  dsimp only
  rw [hoperation]
  exact if_pos rfl

/-- A document whose strings contain a line boundary is not read. -/
lemma readResult_of_broken (hprintable : ∀ c ∈ text ++ ['\x7d'], 32 ≤ c.toNat)
    (hencloses : Python.Encloses Separates (text ++ ['\x7d'])) {c : Char}
    (hc : c ∈ text ++ ['\x7d']) (hseparates : Separates c) (operation : String)
    (driverStatus : ℤ) (epoch : ℕ) :
    readResult operation driverStatus epoch (bytesOf (text ++ ['\x7d'] ++ ['\n'])) =
      .error .invalidJson := by
  obtain ⟨before, last, after, hsplit, hlast, hafter⟩ := Python.exists_last hc hseparates
  have hmemAfter : ∀ d ∈ after, d ∈ text ++ ['\x7d'] := fun d hd => by rw [hsplit]; simp [hd]
  have hbrace : '\x7d' ∈ after := by
    rcases List.eq_nil_or_concat after with rfl | ⟨rest, d, rfl⟩
    · have hend := congrArg List.getLast? hsplit
      rw [List.getLast?_concat, List.getLast?_concat] at hend
      rw [← Option.some.inj hend] at hlast
      exact absurd hlast (by decide)
    · have hend := congrArg List.getLast? hsplit
      rw [List.concat_eq_append, ← List.cons_append, ← List.append_assoc, List.getLast?_concat,
        List.getLast?_concat] at hend
      rw [List.concat_eq_append, Option.some.inj hend]
      simp
  have hmemLast : last ∈ text ++ ['\x7d'] := by rw [hsplit]; simp
  have hbreak : Python.isLineBreak last = true := (isLineBreak_iff (hprintable _ hmemLast)).mpr hlast
  have hfeed : last ≠ '\n' := by
    rintro rfl
    exact absurd (hprintable _ hmemLast) (by decide)
  have hbreaks : ∀ d ∈ after, Python.isLineBreak d = false := by
    intro d hd
    rw [Bool.eq_false_iff, Ne, isLineBreak_iff (hprintable d (hmemAfter d hd))]
    exact hafter d hd
  have hreturn : '\r' ∉ text ++ ['\x7d'] ++ ['\n'] := by
    intro hmem
    rcases List.mem_append.mp hmem with hmem | hmem
    · exact absurd (hprintable _ hmem) (by decide)
    · exact absurd hmem (by decide)
  obtain ⟨lines, hlines⟩ := Python.splitlines_concat before hbreak hfeed hbreaks
    (List.ne_nil_of_mem hbrace)
  have hshape : text ++ ['\x7d'] ++ ['\n'] = before ++ last :: (after ++ ['\n']) := by
    rw [hsplit]
    simp
  rw [hsplit] at hencloses
  rw [readResult_eq lines operation driverStatus epoch hreturn (hshape ▸ hlines)
    (Python.strip_ne_nil hbrace (by decide)),
    hencloses.loads_eq_none (fun _ h => h.high) hlast]

end Lines

/-! ### Faithful results -/

/-- The C value of a result with this diagnostic, and with these reservations where an accepted
reserve has some: `reservations_json` is what `qfw_reservations_json` left in its buffer. -/
structure Represents (command : DriverCommand) (result : OperationResult) (diagnostic : String)
    (pairs : List (String × ℕ)) : Prop where
  requestId : result.requestId < 2 ^ 64
  unresolvedCount : result.unresolvedCount < 2 ^ 64
  noNul : '\x00' ∉ diagnostic.toList
  diagnostic_eq : result.diagnostic = utf8 diagnostic
  reservations : command = .reserve → result.state = .accepted → ReservationSet pairs ∧
    ∃ response buffer written, Grants response pairs ∧ buffer.length = environmentSize ∧
      qfwReservationsJson response buffer environmentSize = .ok written ∧
      result.reservationsJson = C.stringOf written

/-- The helper reads the printed result as it was. -/
def ReadBack (command : DriverCommand) (result : OperationResult) (diagnostic : String)
    (pairs : List (String × ℕ)) (driverStatus : ℤ) (epoch : ℕ) : Prop :=
  ∃ returned, readResult command.text driverStatus epoch (printed command result) = .ok returned ∧
    returned.get "operation".toList = some (.str command.text.toList) ∧
    returned.get "state".toList = some (.str (operationName result.state).toList) ∧
    returned.get "request_id".toList = some (.int result.requestId) ∧
    returned.get "diagnostic".toList = some (.str diagnostic.toList) ∧
    (command = .reserve → result.state = .accepted → ∃ sorted : List (String × ℕ),
      sorted.Perm pairs ∧ (sorted.Pairwise fun left right => idKey left < idKey right) ∧
      returned.get "reservations".toList = some (environmentValue sorted))

/-- The texts that are printed have no line boundary of their own. -/
def PrintsUnbroken (command : DriverCommand) (result : OperationResult) (diagnostic : String)
    (pairs : List (String × ℕ)) : Prop :=
  Unbroken diagnostic ∧
    (command = .reserve → result.state = .accepted → ∀ pair ∈ pairs, Unbroken pair.1)

/-- A text that can stand in the printed line, with the texts of users in it. -/
structure Printable (text : List Char) (users : List String) : Prop where
  printable : ∀ c ∈ text, 32 ≤ c.toNat
  encloses : Python.Encloses Separates text
  separates : ∀ c, Separates c → (c ∈ text ↔ ∃ user ∈ users, c ∈ user.toList)

lemma Printable.quoted (text : String) : Printable (Python.quoted text.toList) [text] where
  printable _ hc := Python.printable_quoted hc
  encloses := Python.Encloses.quoted (fun _ h => h.high) _
  separates c hc := by
    constructor
    · intro h
      exact ⟨text, List.mem_singleton_self _, Python.mem_of_mem_quoted hc.high h⟩
    · rintro ⟨user, huser, h⟩
      rw [List.mem_singleton.mp huser] at h
      exact Python.mem_quoted_of_mem hc.high h

/-- A character in ASCII that is printed as it is. -/
def PlainAscii (c : Char) : Prop := 32 ≤ c.toNat ∧ c.toNat < 128 ∧ Python.Ordinary c

instance (c : Char) : Decidable (PlainAscii c) := inferInstanceAs (Decidable (_ ∧ _))

lemma Printable.ascii {text : List Char} (h : ∀ c ∈ text, PlainAscii c) : Printable text [] where
  printable c hc := (h c hc).1
  encloses := Python.Encloses.of_forall fun c hc => ⟨(h c hc).2.2, fun hbad => by
    have hhigh := hbad.high
    have hlow := (h c hc).2.1
    omega⟩
  separates c hc := by
    refine iff_of_false (fun hmem => ?_) (by simp)
    have hhigh := hc.high
    have hlow := (h c hmem).2.1
    omega

lemma Printable.number (n : ℕ) : Printable (Python.decimalText n) [] := by
  refine Printable.ascii fun c hc => ?_
  have hdigit := Python.isJsonDigit_of_mem hc
  have hordinary := Python.ordinary_of_isJsonDigit hdigit
  simp only [Python.isJsonDigit, Bool.and_eq_true, decide_eq_true_eq] at hdigit
  exact ⟨by omega, by omega, hordinary⟩

/-- A text of the program itself. -/
lemma Printable.quoted_ascii {text : List Char} (h : ∀ c ∈ text, c.toNat < 128) :
    Printable (Python.quoted text) [] := by
  have hquoted := Printable.quoted (String.ofList text)
  rw [String.toList_ofList] at hquoted
  refine ⟨hquoted.printable, hquoted.encloses, fun c hc => ?_⟩
  rw [hquoted.separates c hc]
  refine iff_of_false ?_ (by simp)
  rintro ⟨user, huser, hmem⟩
  rw [List.mem_singleton.mp huser, String.toList_ofList] at hmem
  have hlow := h c hmem
  have hhigh := hc.high
  omega

lemma Printable.append {text more : List Char} {users others : List String}
    (h : Printable text users) (hmore : Printable more others) :
    Printable (text ++ more) (users ++ others) where
  printable c hc := (List.mem_append.mp hc).elim (h.printable c) (hmore.printable c)
  encloses := h.encloses.append hmore.encloses
  separates c hc := by
    rw [List.mem_append, h.separates c hc, hmore.separates c hc]
    constructor
    · rintro (⟨user, huser, hin⟩ | ⟨user, huser, hin⟩)
      · exact ⟨user, List.mem_append_left _ huser, hin⟩
      · exact ⟨user, List.mem_append_right _ huser, hin⟩
    · rintro ⟨user, huser, hin⟩
      rcases List.mem_append.mp huser with huser | huser
      · exact .inl ⟨user, huser, hin⟩
      · exact .inr ⟨user, huser, hin⟩

/-- Texts with commas between them. -/
lemma Printable.commaSeparated {texts : List (List Char × List String)}
    (h : ∀ pair ∈ texts, Printable pair.1 pair.2) :
    Printable (Python.commaSeparated (texts.map Prod.fst)) (texts.flatMap Prod.snd) := by
  have hcomma : Printable [','] [] := Printable.ascii (List.forall_iff_forall_mem.mp (by decide))
  induction texts with
  | nil => exact Printable.ascii (by simp [Python.commaSeparated])
  | cons pair texts ih =>
    have hpair := h pair List.mem_cons_self
    have hrest := ih fun other hother => h other (List.mem_cons_of_mem _ hother)
    cases texts with
    | nil => simpa [Python.commaSeparated] using hpair
    | cons next texts => exact hpair.append (hcomma.append hrest)

/-- Brackets around a text. -/
lemma Printable.bracketed {text : List Char} {users : List String} {opening closing : Char}
    (hopening : PlainAscii opening) (hclosing : PlainAscii closing) (h : Printable text users) :
    Printable (opening :: (text ++ [closing])) users := by
  have hfirst : Printable [opening] [] := Printable.ascii (by simpa using hopening)
  have hlast : Printable [closing] [] := Printable.ascii (by simpa using hclosing)
  have hall := hfirst.append (h.append hlast)
  rwa [List.nil_append, List.append_nil] at hall

/-- The service ids are the texts of users in the environment. -/
lemma printable_environmentText (pairs : List (String × ℕ)) :
    Printable (environmentText pairs) (pairs.map Prod.fst) := by
  have hpair (pair : String × ℕ) : Printable (pairText pair) [pair.1] := by
    have hnumber : ∀ c ∈ Python.decimalText pair.2, c.toNat < 128 := fun c hc =>
      lt_of_le_of_lt (by
        have hdigit := Python.isJsonDigit_of_mem hc
        simp only [Python.isJsonDigit, Bool.and_eq_true, decide_eq_true_eq] at hdigit
        exact hdigit.2) (by decide : 57 < 128)
    have hboth : ∀ item ∈ [(Python.quoted pair.1.toList, [pair.1]),
        (Python.quoted (Python.decimalText pair.2), [])], Printable item.1 item.2 := by
      intro item hitem
      rcases List.mem_pair.mp hitem with rfl | rfl
      · exact Printable.quoted pair.1
      · exact Printable.quoted_ascii hnumber
    exact (Printable.commaSeparated hboth).bracketed (by decide) (by decide)
  have hall : ∀ item ∈ pairs.map fun pair => (pairText pair, [pair.1]),
      Printable item.1 item.2 := by
    intro item hitem
    obtain ⟨pair, -, rfl⟩ := List.mem_map.mp hitem
    exact hpair pair
  have hcommas := Printable.commaSeparated hall
  rw [List.map_map, List.flatMap_map] at hcommas
  have htexts : (pairs.flatMap fun pair => [pair.1]) = pairs.map Prod.fst := by
    rw [← List.map_eq_flatMap]
  exact Printable.bracketed (by decide) (by decide) (htexts ▸ hcommas)

/-- An object with names of the program. -/
lemma printable_objectText {members : List (String × List Char × Python.Json)}
    (users : String × List Char × Python.Json → List String)
    (h : ∀ member ∈ members, (∀ c ∈ member.1.toList, c.toNat < 128) ∧
      Printable member.2.1 (users member)) :
    Printable (objectText members) (members.flatMap users) := by
  have hcolon : Printable [':'] [] := Printable.ascii (List.forall_iff_forall_mem.mp (by decide))
  have hall : ∀ item ∈ members.map fun member => (memberText member.1 member.2.1, users member),
      Printable item.1 item.2 := by
    intro item hitem
    obtain ⟨member, hmember, rfl⟩ := List.mem_map.mp hitem
    obtain ⟨hname, hvalue⟩ := h member hmember
    exact (Printable.quoted_ascii hname).append (hcolon.append hvalue)
  have hcommas := Printable.commaSeparated hall
  rw [List.map_map, List.flatMap_map] at hcommas
  exact hcommas.bracketed (by decide) (by decide)

/-! ### Printed results are read back -/

section Results

variable {command : DriverCommand} {result : OperationResult} {diagnostic : String}
  {pairs : List (String × ℕ)}

/-- The texts of users in a member. -/
def memberUsers (diagnostic : String) (users : List String)
    (member : String × List Char × Python.Json) : List String :=
  if member.1 = "diagnostic" then [diagnostic]
  else if member.1 = "reservations" then users
  else []

/-- A result whose members are read and printable. -/
lemma resultMembers_spec (hrequest : result.requestId < 2 ^ 64)
    (hunresolved : result.unresolvedCount < 2 ^ 64) {reservations : List Char × Python.Json}
    {users : List String} (hreads : Python.Reads Python.scanString reservations.1 reservations.2)
    (hprintable : Printable reservations.1 users) :
    ∀ member ∈ resultMembers command result diagnostic reservations,
      Python.Reads Python.scanString member.2.1 member.2.2 ∧
        (∀ c ∈ member.1.toList, c.toNat < 128) ∧
        Printable member.2.1 (memberUsers diagnostic users member) := by
  have hbound : 2 ^ 64 < 10 ^ Python.intMaxStrDigits :=
    lt_of_lt_of_le (by decide : 2 ^ 64 < 10 ^ 20) (Nat.pow_le_pow_right (by decide) (by decide))
  have hcommand : ∀ c ∈ command.text.toList, c.toNat < 128 := by
    cases command <;> exact List.forall_iff_forall_mem.mp (by decide)
  have hstate : ∀ c ∈ (operationName result.state).toList, c.toNat < 128 := by
    cases result.state <;> exact List.forall_iff_forall_mem.mp (by decide)
  have hdiagnostic : Python.Reads Python.scanString (Python.quoted diagnostic.toList)
        (.str diagnostic.toList) ∧
      (∀ c ∈ "diagnostic".toList, c.toNat < 128) ∧
      Printable (Python.quoted diagnostic.toList) [diagnostic] :=
    ⟨Python.Reads.quoted _, List.forall_iff_forall_mem.mp (by decide), Printable.quoted diagnostic⟩
  have hname (name : String) (hin : name ∈ ["schema", "operation", "request_id", "state",
      "unresolved_count", "reservations"]) : ∀ c ∈ name.toList, c.toNat < 128 := by
    fin_cases hin <;> exact List.forall_iff_forall_mem.mp (by decide)
  intro member hmember
  unfold resultMembers at hmember
  rcases List.mem_append.mp hmember with hmember | hmember
  · simp only [List.mem_cons, List.not_mem_nil, or_false] at hmember
    rcases hmember with rfl | rfl | rfl | rfl
    · exact ⟨Python.Reads.quoted _, hname "schema" (by decide),
        Printable.quoted_ascii (List.forall_iff_forall_mem.mp (by decide))⟩
    · exact ⟨Python.Reads.quoted _, hname "operation" (by decide), Printable.quoted_ascii hcommand⟩
    · exact ⟨Python.Reads.nat (hrequest.trans hbound), hname "request_id" (by decide),
        Printable.number _⟩
    · exact ⟨Python.Reads.quoted _, hname "state" (by decide), Printable.quoted_ascii hstate⟩
  · split at hmember
    · rcases List.mem_pair.mp hmember with rfl | rfl
      · exact ⟨Python.Reads.nat (hunresolved.trans hbound), hname "unresolved_count" (by decide),
          Printable.number _⟩
      · exact hdiagnostic
    · rcases List.mem_pair.mp hmember with rfl | rfl
      · exact hdiagnostic
      · exact ⟨hreads, hname "reservations" (by decide), hprintable⟩

/-- The reservations that the printed line has. -/
lemma Represents.exists_reservations (h : Represents command result diagnostic pairs) :
    ∃ (reservations : List Char × Python.Json) (users : List String),
      (command ≠ .release → (if result.state = .accepted ∧ command ≠ .evaluate then
        result.reservationsJson else utf8 "null") = bytesOf reservations.1) ∧
      Python.Reads Python.scanString reservations.1 reservations.2 ∧ Printable reservations.1 users ∧
      ((command = .reserve ∧ result.state = .accepted ∧ users.Perm (pairs.map Prod.fst) ∧
          ∃ sorted : List (String × ℕ), sorted.Perm pairs ∧
            (sorted.Pairwise fun left right => idKey left < idKey right) ∧
            reservations.2 = environmentValue sorted) ∨
        (¬ (command = .reserve ∧ result.state = .accepted) ∧ users = [])) := by
  by_cases hreserve : command = .reserve ∧ result.state = .accepted
  · obtain ⟨rfl, haccepted⟩ := hreserve
    obtain ⟨hset, response, buffer, written, hgrants, hlength, hwritten, hjson⟩ :=
      h.reservations rfl haccepted
    obtain ⟨sorted, hperm, hsorted⟩ := hset.exists_sorted
    have hdocument := hgrants.writesDocument hset hperm hsorted hlength
    have htext : C.stringOf written = bytesOf (environmentText sorted) := by
      rw [WritesDocument, if_neg (by decide), hwritten] at hdocument
      split at hdocument
      · obtain ⟨_, hsame, -, htext⟩ := hdocument
        cases hsame
        exact htext
      · obtain ⟨_, hrefused, -⟩ := hdocument
        cases hrefused
    refine ⟨(environmentText sorted, environmentValue sorted), sorted.map Prod.fst, fun _ => ?_,
      reads_environmentText sorted, printable_environmentText sorted, .inl ⟨rfl, haccepted,
        hperm.map _, sorted, hperm, hsorted, rfl⟩⟩
    rw [if_pos ⟨haccepted, by decide⟩, hjson, htext]
  · refine ⟨("null".toList, .null), [], fun hrelease => ?_, Python.Reads.null,
      Printable.ascii (List.forall_iff_forall_mem.mp (by decide)), .inr ⟨hreserve, rfl⟩⟩
    have hnone : ¬ (result.state = .accepted ∧ command ≠ .evaluate) := by
      rintro ⟨haccepted, hevaluate⟩
      cases command with
      | evaluate => exact hevaluate rfl
      | reserve => exact hreserve ⟨rfl, haccepted⟩
      | release => exact hrelease rfl
    rw [if_neg hnone, ← bytesOf_toList]

/-- The texts of users in a result. -/
lemma printsUnbroken_iff {reservations : List Char × Python.Json} {users : List String}
    (h : (command = .reserve ∧ result.state = .accepted ∧ users.Perm (pairs.map Prod.fst) ∧
          ∃ sorted : List (String × ℕ), sorted.Perm pairs ∧
            (sorted.Pairwise fun left right => idKey left < idKey right) ∧
            reservations.2 = environmentValue sorted) ∨
        (¬ (command = .reserve ∧ result.state = .accepted) ∧ users = [])) :
    PrintsUnbroken command result diagnostic pairs ↔
      ∀ user ∈ (resultMembers command result diagnostic reservations).flatMap
        (memberUsers diagnostic users), Unbroken user := by
  have hmembers : (resultMembers command result diagnostic reservations).flatMap
      (memberUsers diagnostic users) =
        if command = .release then [diagnostic] else diagnostic :: users := by
    unfold resultMembers
    split <;> simp [memberUsers]
  rw [hmembers]
  rcases h with ⟨rfl, haccepted, hperm, -⟩ | ⟨hnone, rfl⟩
  · rw [if_neg (by decide), List.forall_mem_cons]
    refine and_congr_right fun _ => ⟨fun hall user huser => ?_, fun hall _ _ pair hpair => ?_⟩
    · obtain ⟨pair, hpair, rfl⟩ := List.mem_map.mp (hperm.mem_iff.mp huser)
      exact hall rfl haccepted pair hpair
    · exact hall pair.1 (hperm.mem_iff.mpr (List.mem_map_of_mem hpair))
  · have hsame : (if command = .release then [diagnostic] else [diagnostic]) = [diagnostic] :=
      ite_self _
    rw [hsame, List.forall_mem_singleton]
    exact ⟨fun hall => hall.1, fun hall => ⟨hall, fun hreserve haccepted =>
      absurd ⟨hreserve, haccepted⟩ hnone⟩⟩

/-- The members that the helper looks at. -/
lemma get_members (command : DriverCommand) (result : OperationResult) (diagnostic : String)
    (reservations : List Char × Python.Json) (driverStatus : ℤ) (epoch : ℕ) :
    let members := (resultMembers command result diagnostic reservations).map fun member =>
      (member.1.toList, member.2.2)
    let returned := Python.Document.obj (members ++ [("driver_status".toList, .int driverStatus),
      ("allocation_epoch".toList, .str (toString epoch).toList)])
    (Python.Document.obj members).get "operation".toList = some (.str command.text.toList) ∧
    returned.get "operation".toList = some (.str command.text.toList) ∧
    returned.get "state".toList = some (.str (operationName result.state).toList) ∧
    returned.get "request_id".toList = some (.int result.requestId) ∧
    returned.get "diagnostic".toList = some (.str diagnostic.toList) ∧
    (command ≠ .release → returned.get "reservations".toList = some reservations.2) := by
  by_cases hrelease : command = .release <;>
    simp [resultMembers, hrelease, Python.Document.get, List.lookup_cons]

/-- The helper reads a result as it was exactly when none of its texts has a line boundary. -/
theorem readBack_iff (command : DriverCommand) (result : OperationResult) (diagnostic : String)
    (pairs : List (String × ℕ)) (driverStatus : ℤ) (epoch : ℕ)
    (h : Represents command result diagnostic pairs) :
    ReadBack command result diagnostic pairs driverStatus epoch ↔
      PrintsUnbroken command result diagnostic pairs := by
  obtain ⟨reservations, users, hbytes, hreads, hprintable, hreservations⟩ := h.exists_reservations
  have hspec : ∀ member ∈ resultMembers command result diagnostic reservations,
      Python.Reads Python.scanString member.2.1 member.2.2 ∧
        (∀ c ∈ member.1.toList, c.toNat < 128) ∧
        Printable member.2.1 (memberUsers diagnostic users member) :=
    resultMembers_spec h.requestId h.unresolvedCount hreads hprintable
  have hprinted := printed_eq h.diagnostic_eq hbytes
  have hdocument := reads_objectText fun member hmember => (hspec member hmember).1
  have htext := printable_objectText (memberUsers diagnostic users)
    fun member hmember => (hspec member hmember).2
  have hbrace : '\x7d' ∈ objectText (resultMembers command result diagnostic reservations) := by
    simp [objectText]
  -- the boundaries in the document are those of the diagnostic and of the service ids
  have hseparators : (∀ c ∈ objectText (resultMembers command result diagnostic reservations),
      ¬ Separates c) ↔ PrintsUnbroken command result diagnostic pairs := by
    rw [printsUnbroken_iff hreservations]
    constructor
    · intro hall user huser c hc hbad
      exact hall c ((htext.separates c hbad).mpr ⟨user, huser, hc⟩) hbad
    · intro hall c hc hbad
      obtain ⟨user, huser, hin⟩ := (htext.separates c hbad).mp hc
      exact hall user huser c hin hbad
  obtain ⟨hoperation, hmembers⟩ := get_members command result diagnostic reservations driverStatus
    epoch
  rw [← hseparators]
  constructor
  · rintro ⟨returned, hreturned, -⟩ c hc hbad
    have hshape : objectText (resultMembers command result diagnostic reservations) =
        ('\x7b' :: Python.commaSeparated ((resultMembers command result diagnostic
          reservations).map fun member => memberText member.1 member.2.1)) ++ ['\x7d'] := rfl
    rw [hshape] at htext hc hprinted
    have hbroken := readResult_of_broken htext.printable htext.encloses hc hbad command.text
      driverStatus epoch
    rw [hprinted, hbroken] at hreturned
    cases hreturned
  · intro hunbroken
    have hread := readResult_of_unbroken hdocument htext.printable hbrace hunbroken rfl driverStatus
      epoch hoperation
    obtain ⟨hcommand, hstate, hrequest, hdiagnostic, hlist⟩ := hmembers
    refine ⟨_, by rw [hprinted]; exact hread, hcommand, hstate, hrequest, hdiagnostic, ?_⟩
    rintro rfl haccepted
    rcases hreservations with ⟨-, -, -, sorted, hperm, hsorted, hvalue⟩ | ⟨hnone, -⟩
    · exact ⟨sorted, hperm, hsorted, hvalue ▸ hlist (by decide)⟩
    · exact absurd ⟨rfl, haccepted⟩ hnone

end Results

/-- A delayed reservation with this diagnostic. -/
def delayedResult (diagnostic : String) : OperationResult where
  requestId := 7
  state := .delayed
  diagnostic := utf8 diagnostic

/-- A diagnostic that is read back. -/
theorem readBack_iff_delayed :
    ReadBack .reserve (delayedResult "busy\nretry") "busy\nretry" [] 10 1 ↔
      PrintsUnbroken .reserve (delayedResult "busy\nretry") "busy\nretry" [] :=
  readBack_iff .reserve (delayedResult "busy\nretry") "busy\nretry" [] 10 1
    ⟨by decide, by decide, by decide, rfl, fun _ h => (nomatch h)⟩

/-- A diagnostic with a line separator makes the result unreadable. -/
theorem separator_not_readBack :
    Represents .reserve (delayedResult "busy\u2028retry") "busy\u2028retry" [] ∧
      ¬ ReadBack .reserve (delayedResult "busy\u2028retry") "busy\u2028retry" [] 10 1 := by
  refine ⟨⟨by decide, by decide, by decide, rfl, fun _ h => (nomatch h)⟩, ?_⟩
  rintro ⟨returned, hreturned, -⟩
  have hfails : (readResult "reserve" 10 1
      (printed .reserve (delayedResult "busy\u2028retry"))).isOk = false := by decide +kernel
  rw [show "reserve" = DriverCommand.reserve.text from rfl, hreturned] at hfails
  cases hfails

end QfwSlurm
