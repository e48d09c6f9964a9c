import Mathlib.Data.List.Forall2
import QfwSlurm.Python.Text
import Std.Data.String.ToNat

/-!
# JSON documents

`json.loads` on texts: the scanner of Python's decoder, and the documents that a compact printer
writes.  The strings of a `Document` may be of any type; the scanner is given what reads one.
`Reads string text value` says that the scanner takes this text for that value wherever it stands in
a document; it has one lemma for each kind of value.  The strings of `Json` are lists of characters.
-/

namespace Python

/-- A JSON value.  A number with a fraction or an exponent is kept as its text, and the members of
an object in the order in which they are written. -/
inductive Document (σ : Type) where
  | null
  | bool (value : Bool)
  | int (value : ℤ)
  | float (text : List Char)
  | str (text : σ)
  | arr (items : List (Document σ))
  | obj (members : List (σ × Document σ))

/-- `value.get(key)` of an object: the last member of that name counts. -/
def Document.get {σ : Type} [BEq σ] (value : Document σ) (key : σ) : Option (Document σ) :=
  match value with
  | .obj members => members.reverse.lookup key
  | _ => none

/-! ### Strings -/

/-- White space between tokens. -/
def isJsonSpace (c : Char) : Bool := c = ' ' || c = '\t' || c = '\n' || c = '\r'

/-- A decimal digit. -/
def isJsonDigit (c : Char) : Bool := 48 ≤ c.toNat && c.toNat ≤ 57

def skipSpace (text : List Char) : List Char := text.dropWhile isJsonSpace

/-- The value of a hexadecimal digit. -/
def hexValue (c : Char) : Option ℕ :=
  if 48 ≤ c.toNat ∧ c.toNat ≤ 57 then some (c.toNat - 48)
  else if 97 ≤ c.toNat ∧ c.toNat ≤ 102 then some (c.toNat - 87)
  else if 65 ≤ c.toNat ∧ c.toNat ≤ 70 then some (c.toNat - 55)
  else none

/-- The code unit of `\uXXXX`. -/
def codeUnit (a b c d : Char) : Option ℕ := do
  return (((← hexValue a) * 16 + (← hexValue b)) * 16 + (← hexValue c)) * 16 + (← hexValue d)

/-- The escapes of one character. -/
def simpleEscape (c : Char) : Option Char :=
  if c = '"' then some '"'
  else if c = '\\' then some '\\'
  else if c = '/' then some '/'
  else if c = 'b' then some '\x08'
  else if c = 'f' then some '\x0c'
  else if c = 'n' then some '\n'
  else if c = 'r' then some '\r'
  else if c = 't' then some '\t'
  else none

/-- `py_scanstring`, after the opening quote.  A surrogate that is not part of a pair has no
character, and a text with one is refused. -/
def scanString : List Char → Option (List Char × List Char)
  | [] => none
  | c :: rest =>
    if c = '"' then some ([], rest)
    else if c = '\\' then
      match rest with
      | [] => none
      | e :: rest =>
        if e = 'u' then
          match rest with
          | a :: b :: c :: d :: rest => do
            let unit ← codeUnit a b c d
            if 0xD800 ≤ unit ∧ unit < 0xE000 then
              match rest with
              | '\\' :: 'u' :: a :: b :: c :: d :: rest => do
                let low ← codeUnit a b c d
                if unit < 0xDC00 ∧ 0xDC00 ≤ low ∧ low < 0xE000 then do
                  let (text, rest) ← scanString rest
                  return (Char.ofNat (0x10000 + (unit - 0xD800) * 0x400 + (low - 0xDC00)) :: text,
                    rest)
                else none
              | _ => none
            else do
              let (text, rest) ← scanString rest
              return (Char.ofNat unit :: text, rest)
          | _ => none
        else do
          let escape ← simpleEscape e
          let (text, rest) ← scanString rest
          return (escape :: text, rest)
    else if c.toNat < 32 then none
    else do
      let (text, rest) ← scanString rest
      return (c :: text, rest)

/-! ### Numbers and constants -/

/-- The digits that a number consists of: a zero stands alone. -/
def integerDigits : List Char → List Char
  | [] => []
  | c :: rest => if c = '0' then [c] else (c :: rest).takeWhile isJsonDigit

/-- The fraction of a number. -/
def fractionText : List Char → List Char
  | [] => []
  | c :: rest =>
    if c = '.' ∧ rest.takeWhile isJsonDigit ≠ [] then c :: rest.takeWhile isJsonDigit else []

/-- The sign of an exponent. -/
def exponentSign : List Char → List Char
  | [] => []
  | c :: _ => if c = '+' ∨ c = '-' then [c] else []

/-- The exponent of a number. -/
def exponentText : List Char → List Char
  | [] => []
  | c :: rest =>
    let sign := exponentSign rest
    let digits := (rest.drop sign.length).takeWhile isJsonDigit
    if (c = 'e' ∨ c = 'E') ∧ digits ≠ [] then c :: (sign ++ digits) else []

/-- The number that a run of ASCII digits denotes. -/
def numberOfDigits (digits : List Char) : ℕ :=
  digits.foldl (fun value c => value * 10 + (c.toNat - 48)) 0

section Scalars

variable {σ : Type}

/-- `_match_number` -/
def scanNumber (text : List Char) : Option (Document σ × List Char) :=
  let sign := if text.head? = some '-' then ['-'] else []
  let digits := integerDigits (text.drop sign.length)
  let fraction := fractionText (text.drop (sign ++ digits).length)
  let exponent := exponentText (text.drop (sign ++ digits ++ fraction).length)
  let number := sign ++ digits ++ fraction ++ exponent
  if digits = [] then none
  else if fraction = [] ∧ exponent = [] then
    if intMaxStrDigits < digits.length then none
    else
      some (.int (if sign = [] then numberOfDigits digits else -(numberOfDigits digits : ℤ)),
        text.drop number.length)
  else some (.float number, text.drop number.length)

/-- The constants. -/
def constants : List (List Char × Document σ) :=
  [("null".toList, .null), ("true".toList, .bool true), ("false".toList, .bool false),
    ("NaN".toList, .float "NaN".toList), ("Infinity".toList, .float "Infinity".toList),
    ("-Infinity".toList, .float "-Infinity".toList)]

/-- The constants and the numbers. -/
def scanScalar (text : List Char) : Option (Document σ × List Char) :=
  match constants.find? fun constant => constant.1.isPrefixOf text with
  | some constant => some (constant.2, text.drop constant.1.length)
  | none => scanNumber text

end Scalars

/-! ### The scanner -/

/-- Values with commas between them, up to the bracket that closes them. -/
def scanSeparated {β : Type} (item : List Char → Option (β × List Char)) (close : Char) :
    ℕ → List Char → Option (List β × List Char)
  | 0, _ => none
  | fuel + 1, text => do
    let (x, rest) ← item text
    match skipSpace rest with
    | [] => none
    | c :: rest =>
      if c = close then some ([x], rest)
      else if c = ',' then do
        let (xs, rest) ← scanSeparated item close fuel (skipSpace rest)
        return (x :: xs, rest)
      else none

/-- What stands between two brackets. -/
def scanBracketed {β : Type} (item : List Char → Option (β × List Char)) (close : Char)
    (text : List Char) : Option (List β × List Char) :=
  if (skipSpace text).head? = some close then some ([], (skipSpace text).tail)
  else scanSeparated item close (text.length + 1) (skipSpace text)

section Scanner

variable {σ : Type} (string : List Char → Option (σ × List Char))

/-- A member of an object. -/
def scanMember (value : List Char → Option (Document σ × List Char)) :
    List Char → Option ((σ × Document σ) × List Char)
  | [] => none
  | quotation :: text =>
    if quotation ≠ '"' then none
    else do
      let (name, rest) ← string text
      match skipSpace rest with
      | [] => none
      | colon :: rest =>
        if colon ≠ ':' then none
        else do
          let (v, rest) ← value (skipSpace rest)
          return ((name, v), rest)

/-- `scan_once` -/
def scan : ℕ → List Char → Option (Document σ × List Char)
  | 0, _ => none
  | _ + 1, [] => none
  | fuel + 1, c :: rest =>
    if c = '"' then (string rest).map fun scanned => (.str scanned.1, scanned.2)
    else if c = '[' then
      (scanBracketed (scan fuel) ']' rest).map fun scanned => (.arr scanned.1, scanned.2)
    else if c = '\x7b' then
      (scanBracketed (scanMember string (scan fuel)) '\x7d' rest).map fun scanned =>
        (.obj scanned.1, scanned.2)
    else scanScalar (c :: rest)

/-- `json.loads`, `none` where it raises. -/
def loadsWith (text : List Char) : Option (Document σ) := do
  let (value, rest) ← scan string (text.length + 1) (skipSpace text)
  if skipSpace rest = [] then some value else none

end Scanner

/-! ### Documents of a compact printer -/

/-- How a character stands in a string: quotes, backslashes and control characters are escaped. -/
def escapeChar (c : Char) : List Char :=
  if c = '"' ∨ c = '\\' then ['\\', c]
  else if c.toNat < 32 then ['\\', 'u', '0', '0', hexDigit (c.toNat / 16), hexDigit (c.toNat % 16)]
  else [c]

/-- A string with its quotes. -/
def quoted (text : List Char) : List Char := '"' :: (text.flatMap escapeChar ++ ['"'])

/-- The digits of a number. -/
def decimalText (n : ℕ) : List Char := Nat.toDigits 10 n

/-- The texts with commas between them. -/
def commaSeparated : List (List Char) → List Char
  | [] => []
  | [text] => text
  | text :: next :: texts => text ++ ',' :: commaSeparated (next :: texts)

lemma commaSeparated_cons (text : List Char) {texts : List (List Char)} (h : texts ≠ []) :
    commaSeparated (text :: texts) = text ++ ',' :: commaSeparated texts := by
  cases texts with
  | nil => exact absurd rfl h
  | cons next texts => rfl

lemma commaSeparated_eq_flatMap (text : List Char) (texts : List (List Char)) :
    commaSeparated (text :: texts) = text ++ texts.flatMap fun more => ',' :: more := by
  induction texts generalizing text with
  | nil => simp [commaSeparated]
  | cons next texts ih =>
    rw [commaSeparated_cons text (List.cons_ne_nil next texts), ih]
    rfl

lemma commaSeparated_starts (c : Char) (tail : List Char) (texts : List (List Char)) :
    ∃ more, commaSeparated ((c :: tail) :: texts) = c :: more := by
  cases texts <;> exact ⟨_, rfl⟩

/-- There are fewer texts than characters, as they stand between commas. -/
lemma length_le_commaSeparated (texts : List (List Char)) :
    texts.length ≤ (commaSeparated texts).length + 1 := by
  induction texts with
  | nil => exact Nat.zero_le _
  | cons text texts ih =>
    rcases texts with _ | ⟨next, texts⟩
    · exact Nat.le_add_left _ _
    · simp only [commaSeparated, List.length_append, List.length_cons] at ih ⊢
      omega

/-- A text is no longer than all of them together. -/
lemma length_le_of_mem {text : List Char} {texts : List (List Char)} (h : text ∈ texts) :
    text.length ≤ (commaSeparated texts).length := by
  induction texts with
  | nil => cases h
  | cons first texts ih =>
    rcases texts with _ | ⟨next, texts⟩
    · rw [List.mem_singleton.mp h]
      exact le_rfl
    · rw [commaSeparated, List.length_append, List.length_cons]
      rcases List.mem_cons.mp h with rfl | h
      · omega
      · have := ih h
        omega

lemma skipSpace_cons {c : Char} (h : isJsonSpace c = false) (rest : List Char) :
    skipSpace (c :: rest) = c :: rest := by
  simp [skipSpace, h]

/-! ### Texts that are read -/

/-- A character that can stand after a value. -/
def endsValue (c : Char) : Bool := c = ',' || c = ']' || c = '\x7d'

/-- What can stand after a value. -/
def Follows (rest : List Char) : Prop := ∀ c ∈ rest.head?, endsValue c = true

lemma follows_cons {c : Char} (h : endsValue c = true) (rest : List Char) :
    Follows (c :: rest) := by
  intro d hd
  obtain rfl : c = d := by simpa using hd
  exact h

/-- The scanner takes the text for this result wherever it stands in a document. -/
structure Takes {β : Type} (item : List Char → Option (β × List Char)) (text : List Char) (x : β) :
    Prop where
  starts : ∃ c tail, text = c :: tail ∧ isJsonSpace c = false ∧ c ≠ ']' ∧ c ≠ '\x7d'
  takes : ∀ rest, Follows rest → item (text ++ rest) = some (x, rest)

section Brackets

variable {β : Type} {item : List Char → Option (β × List Char)} {close : Char}

lemma Takes.skipSpace_append {text : List Char} {x : β} (h : Takes item text x)
    (rest : List Char) : skipSpace (text ++ rest) = text ++ rest := by
  obtain ⟨c, tail, rfl, hspace, -⟩ := h.starts
  exact skipSpace_cons hspace _

/-- What begins with the first of several texts. -/
lemma skipSpace_commaSeparated {text : List Char} {x : β} (h : Takes item text x)
    (texts : List (List Char)) (rest : List Char) :
    skipSpace (commaSeparated (text :: texts) ++ rest) = commaSeparated (text :: texts) ++ rest := by
  obtain ⟨c, tail, rfl, hspace, -⟩ := h.starts
  obtain ⟨more, hmore⟩ := commaSeparated_starts c tail texts
  rw [hmore]
  exact skipSpace_cons hspace _

/-- One text after another is read, up to the bracket. -/
lemma scanSeparated_commaSeparated (hclose : isJsonSpace close = false)
    (hends : endsValue close = true) (hcomma : close ≠ ',') {texts : List (List Char)} {xs : List β}
    (h : List.Forall₂ (Takes item) texts xs) (hne : texts ≠ []) (rest : List Char) {fuel : ℕ}
    (hfuel : texts.length ≤ fuel) :
    scanSeparated item close fuel (commaSeparated texts ++ close :: rest) = some (xs, rest) := by
  induction h generalizing fuel with
  | nil => exact absurd rfl hne
  | @cons text x texts xs hfirst hmore ih =>
    obtain ⟨fuel, rfl⟩ : ∃ k, fuel = k + 1 := ⟨fuel - 1, by rw [List.length_cons] at hfuel; omega⟩
    rw [scanSeparated]
    rcases hmore with _ | ⟨hsecond, hmore⟩
    · rw [commaSeparated, hfirst.takes _ (follows_cons hends rest), Option.bind_eq_bind,
        Option.bind_some]
      dsimp only
      rw [skipSpace_cons hclose]
      exact if_pos rfl
    · have hrest := ih (List.cons_ne_nil _ _) (Nat.le_of_succ_le_succ hfuel)
      rw [commaSeparated, List.append_assoc, List.cons_append,
        hfirst.takes _ (follows_cons rfl _), Option.bind_eq_bind, Option.bind_some]
      dsimp only
      rw [skipSpace_cons (by decide)]
      dsimp only
      rw [if_neg hcomma.symm, if_pos rfl, skipSpace_commaSeparated hsecond, hrest]
      rfl

/-- Texts between brackets are read, also when there are none. -/
lemma scanBracketed_commaSeparated (hclose : close = ']' ∨ close = '\x7d')
    {texts : List (List Char)} {xs : List β} (h : List.Forall₂ (Takes item) texts xs)
    (rest : List Char) :
    scanBracketed item close (commaSeparated texts ++ close :: rest) = some (xs, rest) := by
  have hshape : isJsonSpace close = false ∧ endsValue close = true ∧ close ≠ ',' := by
    rcases hclose with rfl | rfl <;> decide
  obtain ⟨hspace, hends, hcomma⟩ := hshape
  rw [scanBracketed]
  rcases h with _ | ⟨hfirst, hmore⟩
  · rw [commaSeparated, List.nil_append, skipSpace_cons hspace]
    exact if_pos rfl
  · rename_i text x texts xs
    have hskip := skipSpace_commaSeparated hfirst texts (close :: rest)
    have hhead : ¬ (commaSeparated (text :: texts) ++ close :: rest).head? = some close := by
      obtain ⟨c, tail, rfl, -, hbracket, hbrace⟩ := hfirst.starts
      obtain ⟨more, hstart⟩ := commaSeparated_starts c tail texts
      rw [hstart]
      intro hsame
      obtain rfl : c = close := Option.some.inj hsame
      exact hclose.elim hbracket hbrace
    have hlength : (text :: texts).length ≤
        (commaSeparated (text :: texts) ++ close :: rest).length + 1 := by
      have hcount := length_le_commaSeparated (text :: texts)
      rw [List.length_append]
      omega
    rw [hskip, if_neg hhead]
    exact scanSeparated_commaSeparated hspace hends hcomma (.cons hfirst hmore)
      (List.cons_ne_nil _ _) rest hlength

end Brackets

/-! ### Values -/

section Values

variable {σ : Type} {string : List Char → Option (σ × List Char)}

variable (string) in
/-- The text stands for the value. -/
def Reads (text : List Char) (value : Document σ) : Prop :=
  ∀ fuel, text.length ≤ fuel → Takes (scan string fuel) text value

variable (string) in
/-- The text is that of a string, with its quotes. -/
def ReadsString (text : List Char) (x : σ) : Prop :=
  ∃ body, text = '"' :: body ∧ ∀ rest, string (body ++ rest) = some (x, rest)

variable (string) in
/-- The text of a member of an object. -/
def ReadsMember (text : List Char) (member : σ × Document σ) : Prop :=
  ∃ name value, text = name ++ ':' :: value ∧ ReadsString string name member.1 ∧
    Reads string value member.2

/-- A string is read. -/
theorem Reads.str {text : List Char} {x : σ} (h : ReadsString string text x) :
    Reads string text (.str x) := by
  intro fuel hfuel
  obtain ⟨body, rfl, hbody⟩ := h
  obtain ⟨fuel, rfl⟩ : ∃ k, fuel = k + 1 := ⟨fuel - 1, by rw [List.length_cons] at hfuel; omega⟩
  refine ⟨⟨'"', body, rfl, by decide, by decide, by decide⟩, fun rest _ => ?_⟩
  rw [List.cons_append, scan, if_pos rfl, hbody]
  rfl

/-- A member is read. -/
lemma takes_member {value : List Char → Option (Document σ × List Char)} {name text : List Char}
    {x : σ} {v : Document σ} (hname : ReadsString string name x) (h : Takes value text v) :
    Takes (scanMember string value) (name ++ ':' :: text) (x, v) := by
  obtain ⟨body, rfl, hbody⟩ := hname
  refine ⟨⟨'"', _, rfl, by decide, by decide, by decide⟩, fun rest hrest => ?_⟩
  rw [List.cons_append, List.cons_append, List.append_assoc, scanMember, if_neg (by decide), hbody,
    Option.bind_eq_bind, Option.bind_some]
  dsimp only
  rw [List.cons_append, skipSpace_cons (by decide)]
  dsimp only
  rw [if_neg (by decide), h.skipSpace_append, h.takes rest hrest]
  rfl

/-- Texts that are read one by one are taken by the scanner whose fuel is enough for them all. -/
lemma takes_all {β : Type} {reads : List Char → β → Prop}
    {item : List Char → Option (β × List Char)} {texts : List (List Char)} {xs : List β}
    (h : List.Forall₂ reads texts xs)
    (htakes : ∀ text ∈ texts, ∀ x, reads text x → Takes item text x) :
    List.Forall₂ (Takes item) texts xs := by
  induction h with
  | nil => exact .nil
  | cons hfirst _ ih =>
    refine .cons (htakes _ List.mem_cons_self _ hfirst) (ih fun text hmem => ?_)
    exact htakes text (List.mem_cons_of_mem _ hmem)

/-- An array is read when its items are. -/
theorem Reads.arr {texts : List (List Char)} {items : List (Document σ)}
    (h : List.Forall₂ (Reads string) texts items) :
    Reads string ('[' :: (commaSeparated texts ++ [']'])) (.arr items) := by
  intro fuel hfuel
  obtain ⟨fuel, rfl⟩ : ∃ k, fuel = k + 1 := ⟨fuel - 1, by rw [List.length_cons] at hfuel; omega⟩
  rw [List.length_cons, List.length_append, List.length_singleton] at hfuel
  have hitems : List.Forall₂ (Takes (scan string fuel)) texts items := by
    refine takes_all h fun text hmem item hread => hread fuel ?_
    have hle := length_le_of_mem hmem
    omega
  refine ⟨⟨'[', _, rfl, by decide, by decide, by decide⟩, fun rest _ => ?_⟩
  rw [List.cons_append, List.append_assoc, List.singleton_append, scan, if_neg (by decide),
    if_pos rfl, scanBracketed_commaSeparated (.inl rfl) hitems]
  rfl

/-- An object is read when its members are. -/
theorem Reads.obj {texts : List (List Char)} {members : List (σ × Document σ)}
    (h : List.Forall₂ (ReadsMember string) texts members) :
    Reads string ('\x7b' :: (commaSeparated texts ++ ['\x7d'])) (.obj members) := by
  intro fuel hfuel
  obtain ⟨fuel, rfl⟩ : ∃ k, fuel = k + 1 := ⟨fuel - 1, by rw [List.length_cons] at hfuel; omega⟩
  rw [List.length_cons, List.length_append, List.length_singleton] at hfuel
  have hmembers : List.Forall₂ (Takes (scanMember string (scan string fuel))) texts members := by
    refine takes_all h fun text hmem member hread => ?_
    have hle := length_le_of_mem hmem
    obtain ⟨name, value, rfl, hname, hvalue⟩ := hread
    rw [List.length_append, List.length_cons] at hle
    exact takes_member hname (hvalue fuel (by omega))
  refine ⟨⟨'\x7b', _, rfl, by decide, by decide, by decide⟩, fun rest _ => ?_⟩
  rw [List.cons_append, List.append_assoc, List.singleton_append, scan, if_neg (by decide),
    if_neg (by decide), if_pos rfl, scanBracketed_commaSeparated (.inr rfl) hmembers]
  rfl

/-- A number or a constant is read wherever it stands. -/
lemma Reads.scalar {c : Char} {tail : List Char} (value : Document σ)
    (hc : c ≠ '"' ∧ c ≠ '[' ∧ c ≠ '\x7b') (hstart : isJsonSpace c = false ∧ c ≠ ']' ∧ c ≠ '\x7d')
    (h : ∀ rest, Follows rest → scanScalar (c :: (tail ++ rest)) = some (value, rest)) :
    Reads string (c :: tail) value := by
  intro fuel hfuel
  obtain ⟨fuel, rfl⟩ : ∃ k, fuel = k + 1 := ⟨fuel - 1, by rw [List.length_cons] at hfuel; omega⟩
  refine ⟨⟨c, tail, rfl, hstart⟩, fun rest hrest => ?_⟩
  rw [List.cons_append, scan, if_neg hc.1, if_neg hc.2.1, if_neg hc.2.2, h rest hrest]

theorem Reads.null : Reads string "null".toList .null := by
  have htext : "null".toList = 'n' :: ['u', 'l', 'l'] := rfl
  rw [htext]
  exact Reads.scalar .null (by decide) (by decide) fun rest _ => by simp [scanScalar, constants]

/-- A text that is read for a value is a document of that value. -/
theorem Reads.loadsWith {text : List Char} {value : Document σ} (h : Reads string text value) :
    loadsWith string text = some value := by
  have hread := h (text.length + 1) (Nat.le_succ _)
  have hskip := hread.skipSpace_append []
  have hscan := hread.takes [] (by simp [Follows])
  rw [List.append_nil] at hskip hscan
  rw [Python.loadsWith, hskip, hscan]
  rfl

end Values

/-! ### Numbers of a compact printer -/

/-- The first digit of a number is not a zero. -/
lemma head_decimalText {n : ℕ} (hn : 0 < n) : (decimalText n).head? ≠ some '0' := by
  induction n using Nat.strong_induction_on with
  | _ n ih =>
    rw [decimalText, Nat.toDigits_eq_if (by decide)]
    split
    next hlow =>
      have hdigits : ∀ n < 10, 0 < n → [Nat.digitChar n].head? ≠ some '0' := by decide
      exact hdigits n hlow hn
    next hhigh =>
      have hrest : 0 < n / 10 := by omega
      have hhead := ih (n / 10) (by omega) hrest
      rw [List.head?_append_of_ne_nil _ Nat.toDigits_ne_nil]
      exact hhead

lemma isJsonDigit_of_mem {n : ℕ} {c : Char} (h : c ∈ decimalText n) : isJsonDigit c = true := by
  have hdigit := Nat.isDigit_of_mem_toDigits (by decide) (by decide) h
  simp only [Char.isDigit, Bool.and_eq_true, decide_eq_true_eq] at hdigit
  simp only [isJsonDigit, Bool.and_eq_true, decide_eq_true_eq]
  exact hdigit

/-- The first digit of a number, apart from what stands at the beginning of other values. -/
lemma decimalText_starts (n : ℕ) : ∃ c digits, decimalText n = c :: digits ∧
    isJsonDigit c = true ∧ (c ≠ '"' ∧ c ≠ '[' ∧ c ≠ '\x7b') ∧
      isJsonSpace c = false ∧ c ≠ ']' ∧ c ≠ '\x7d' := by
  obtain ⟨c, digits, hdigits⟩ := List.exists_cons_of_ne_nil
    (show decimalText n ≠ [] from Nat.toDigits_ne_nil)
  have hc : isJsonDigit c = true := isJsonDigit_of_mem (n := n) (by rw [hdigits]; simp)
  have hne {d : Char} (hd : isJsonDigit d = false) : c ≠ d := by
    rintro rfl
    exact Bool.false_ne_true (hd.symm.trans hc)
  refine ⟨c, digits, hdigits, hc, ⟨hne rfl, hne rfl, hne rfl⟩, ?_, hne rfl, hne rfl⟩
  simp only [isJsonSpace, Bool.or_eq_false_iff, decide_eq_false_iff_not]
  exact ⟨⟨⟨hne rfl, hne rfl⟩, hne rfl⟩, hne rfl⟩

/-- What follows a value does not continue a number. -/
lemma Follows.takeWhile {rest : List Char} (h : Follows rest) :
    rest.takeWhile isJsonDigit = [] ∧ fractionText rest = [] ∧ exponentText rest = [] := by
  cases rest with
  | nil => exact ⟨rfl, rfl, rfl⟩
  | cons c rest =>
    have hc : endsValue c = true := h c rfl
    simp only [endsValue, Bool.or_eq_true, decide_eq_true_eq] at hc
    rcases hc with (rfl | rfl) | rfl <;>
      simp [isJsonDigit, fractionText, exponentText]

/-- The digits of a number are taken, and nothing else. -/
lemma integerDigits_decimalText (n : ℕ) {rest : List Char} (h : Follows rest) :
    integerDigits (decimalText n ++ rest) = decimalText n := by
  rcases Nat.eq_zero_or_pos n with rfl | hn
  · rfl
  · obtain ⟨c, digits, hdigits, -⟩ := decimalText_starts n
    have hhead := head_decimalText hn
    have hall : ∀ d ∈ decimalText n, isJsonDigit d = true := fun d hd => isJsonDigit_of_mem hd
    have hne : c ≠ '0' := by
      rw [hdigits] at hhead
      exact fun h => hhead (congrArg some h)
    have htake : (decimalText n ++ rest).takeWhile isJsonDigit = decimalText n := by
      rw [List.takeWhile_append_of_pos hall, h.takeWhile.1, List.append_nil]
    rw [hdigits, List.cons_append] at htake ⊢
    rw [integerDigits, if_neg hne, htake]

/-- Digits denote the number they were printed for. -/
lemma numberOfDigits_decimalText (n : ℕ) : numberOfDigits (decimalText n) = n := by
  have hread : Nat.ofDigitChars 10 (decimalText n) 0 = n := Nat.ofDigitChars_ten_toDigits
  have hsame (digits : List Char) (value : ℕ) :
      digits.foldl (fun value c => value * 10 + (c.toNat - 48)) value =
        Nat.ofDigitChars 10 digits value := by
    induction digits generalizing value with
    | nil => rfl
    | cons c digits ih =>
      rw [List.foldl_cons, ih, Nat.ofDigitChars_cons, Nat.mul_comm]
      rfl
  rw [numberOfDigits, hsame, hread]

section Numbers

variable {σ : Type} {string : List Char → Option (σ × List Char)} {n : ℕ}

/-- A number does not begin like a constant. -/
lemma find_constants {c : Char} (h : isJsonDigit c = true) (rest : List Char) :
    ((constants : List (List Char × Document σ)).find? fun constant =>
      constant.1.isPrefixOf (c :: rest)) = none := by
  have hne : c ≠ 'n' ∧ c ≠ 't' ∧ c ≠ 'f' ∧ c ≠ 'N' ∧ c ≠ 'I' ∧ c ≠ '-' := by
    refine ⟨?_, ?_, ?_, ?_, ?_, ?_⟩ <;> rintro rfl <;> exact absurd h (by decide)
  simp [constants, hne.1.symm, hne.2.1.symm, hne.2.2.1.symm, hne.2.2.2.1.symm,
    hne.2.2.2.2.1.symm, hne.2.2.2.2.2.symm]

/-- Neither does one with a sign. -/
lemma find_constants_negative {c : Char} (h : isJsonDigit c = true) (rest : List Char) :
    ((constants : List (List Char × Document σ)).find? fun constant =>
      constant.1.isPrefixOf ('-' :: c :: rest)) = none := by
  have hinfinity : c ≠ 'I' := by
    rintro rfl
    exact absurd h (by decide)
  simp [constants, hinfinity.symm]

/-- A number without a sign is read. -/
theorem Reads.nat (hn : n < 10 ^ intMaxStrDigits) : Reads string (decimalText n) (.int n) := by
  obtain ⟨c, digits, hdigits, hc, hother, hstart⟩ := decimalText_starts n
  have hsign : c ≠ '-' := by
    rintro rfl
    exact absurd hc (by decide)
  rw [hdigits]
  refine Reads.scalar (.int n) hother hstart fun rest hrest => ?_
  obtain ⟨-, hfraction, hexponent⟩ := hrest.takeWhile
  have hnumber := integerDigits_decimalText n hrest
  have hvalue := numberOfDigits_decimalText n
  have hlength : ¬ intMaxStrDigits < (decimalText n).length :=
    not_lt.mpr (Nat.toDigits_length 10 n intMaxStrDigits (by decide) hn)
  have hne : decimalText n ≠ [] := Nat.toDigits_ne_nil
  have hhead : ¬ (decimalText n ++ rest).head? = some '-' := by
    rw [hdigits]
    exact fun h => hsign (Option.some.inj h)
  rw [scanScalar, find_constants hc]
  rw [← List.cons_append, ← hdigits]
  simp only [scanNumber, if_neg hhead, List.nil_append, List.length_nil, List.drop_zero, hnumber,
    List.drop_left, hfraction, List.append_nil, hexponent, if_neg hne, and_self, if_true,
    if_neg hlength, hvalue]

/-- A number with a sign is read. -/
theorem Reads.negative (hn : n < 10 ^ intMaxStrDigits) :
    Reads string ('-' :: decimalText n) (.int (-n)) := by
  obtain ⟨c, digits, hdigits, hc, -⟩ := decimalText_starts n
  refine Reads.scalar (.int (-n)) (by decide) (by decide) fun rest hrest => ?_
  obtain ⟨-, hfraction, hexponent⟩ := hrest.takeWhile
  have hnumber := integerDigits_decimalText n hrest
  have hvalue := numberOfDigits_decimalText n
  have hlength : ¬ intMaxStrDigits < (decimalText n).length :=
    not_lt.mpr (Nat.toDigits_length 10 n intMaxStrDigits (by decide) hn)
  have hne : decimalText n ≠ [] := Nat.toDigits_ne_nil
  have hdrop : (['-'] ++ decimalText n).length = (decimalText n).length + 1 := by simp
  rw [scanScalar, hdigits, List.cons_append, find_constants_negative hc, ← List.cons_append,
    ← hdigits]
  simp only [scanNumber, List.head?_cons, if_true, List.length_singleton, List.drop_succ_cons,
    List.drop_zero, hnumber, hdrop, List.drop_left, hfraction, List.append_nil, hexponent,
    if_neg hne, and_self, if_neg hlength, hvalue, List.cons_ne_nil, if_false]

end Numbers

/-! ### Strings of characters -/

/-- The documents whose strings are lists of characters. -/
abbrev Json := Document (List Char)

/-- `json.loads`, where every string is one of characters. -/
def loads (text : List Char) : Option Json := loadsWith scanString text

/-- The digits of a control character are read back. -/
lemma codeUnit_hexDigit :
    ∀ n < 32, codeUnit '0' '0' (hexDigit (n / 16)) (hexDigit (n % 16)) = some n := by
  decide

lemma scanString_quotation (rest : List Char) : scanString ('"' :: rest) = some ([], rest) := by
  rw [scanString.eq_def]
  rfl

/-- A character that stands for itself. -/
lemma scanString_plain {c : Char} (hquote : c ≠ '"') (hslash : c ≠ '\\') (hcontrol : 32 ≤ c.toNat)
    (rest : List Char) : scanString (c :: rest) =
      (scanString rest).map fun scanned => (c :: scanned.1, scanned.2) := by
  rw [scanString.eq_def]
  have hprinted : ¬ c.toNat < 32 := by omega
  cases hrest : scanString rest <;> simp [hquote, hslash, hprinted, hrest]

/-- An escape of one character. -/
lemma scanString_escape {e c : Char} (he : e ≠ 'u') (rest : List Char) :
    simpleEscape e = some c → scanString ('\\' :: e :: rest) =
      (scanString rest).map fun scanned => (c :: scanned.1, scanned.2) := by
  intro hescape
  rw [scanString.eq_def]
  cases hrest : scanString rest <;> simp [he, hescape, hrest]

/-- An escape of a code point below the surrogates. -/
lemma scanString_unit {a b c d : Char} {n : ℕ} (hunit : codeUnit a b c d = some n)
    (hn : n < 0xD800) (rest : List Char) : scanString ('\\' :: 'u' :: a :: b :: c :: d :: rest) =
      (scanString rest).map fun scanned => (Char.ofNat n :: scanned.1, scanned.2) := by
  rw [scanString.eq_def]
  have hplain : ¬ (55296 ≤ n ∧ n < 57344) := by omega
  cases hrest : scanString rest <;> simp [hunit, hplain, hrest]

/-- An escaped character is read back. -/
lemma scanString_escapeChar (c : Char) (rest : List Char) :
    scanString (escapeChar c ++ rest) =
      (scanString rest).map fun scanned => (c :: scanned.1, scanned.2) := by
  unfold escapeChar
  split
  next hquote =>
    rcases hquote with rfl | rfl
    · exact scanString_escape (by decide) rest rfl
    · exact scanString_escape (by decide) rest rfl
  next hquote =>
    rw [not_or] at hquote
    split
    next hcontrol =>
      have hscan := scanString_unit (codeUnit_hexDigit c.toNat hcontrol) (by omega) rest
      rw [Char.ofNat_toNat] at hscan
      exact hscan
    next hcontrol => exact scanString_plain hquote.1 hquote.2 (by omega) rest

/-- A quoted string is read back. -/
lemma readsString_quoted (text : List Char) : ReadsString scanString (quoted text) text := by
  refine ⟨_, rfl, fun rest => ?_⟩
  rw [List.append_assoc, List.singleton_append]
  induction text with
  | nil => exact scanString_quotation rest
  | cons c text ih =>
    rw [List.flatMap_cons, List.append_assoc, scanString_escapeChar, ih]
    rfl

theorem Reads.quoted (text : List Char) : Reads scanString (quoted text) (.str text) :=
  Reads.str (readsString_quoted text)

theorem Reads.loads {text : List Char} {value : Json} (h : Reads scanString text value) :
    loads text = some value :=
  h.loadsWith

end Python
