import Mathlib.Data.Nat.Digits.Defs
import Mathlib.Data.List.DropRight

/-!
# Texts in Python

The methods of `str` on lists of characters, with the character classes of Unicode that they use:
white space, line boundaries, and the texts that `int` accepts.
-/

namespace Python

/-- `str.isspace` -/
def isSpace (c : Char) : Bool :=
  (9 ≤ c.toNat ∧ c.toNat ≤ 13) ∨ (28 ≤ c.toNat ∧ c.toNat ≤ 32) ∨
    (0x2000 ≤ c.toNat ∧ c.toNat ≤ 0x200A) ∨
    c.toNat ∈ [0x85, 0xA0, 0x1680, 0x2028, 0x2029, 0x202F, 0x205F, 0x3000]

/-- A hexadecimal digit, in lower case. -/
def hexDigit (n : ℕ) : Char := Char.ofNat (if n < 10 then 48 + n else 87 + n)

/-! ### `int` -/

section Integers

variable (decimal : Char → Option ℕ)

/-- The value of a decimal digit; those beyond ASCII depend on the Unicode database and are given by
`decimal`. -/
def digitValue (c : Char) : Option ℕ :=
  if c.toNat < 128 then
    if 48 ≤ c.toNat ∧ c.toNat ≤ 57 then some (c.toNat - 48) else none
  else decimal c

/-- The digits of a number, with single underscores between them. -/
def digitGroups : List Char → Option (List ℕ)
  | [] => none
  | [c] => (digitValue decimal c).map ([·])
  | c :: '_' :: d :: rest => do
    let value ← digitValue decimal c
    let values ← digitGroups (d :: rest)
    return value :: values
  | c :: d :: rest => do
    let value ← digitValue decimal c
    let values ← digitGroups (d :: rest)
    return value :: values

/-- The limit of `sys.get_int_max_str_digits`. -/
def intMaxStrDigits : ℕ := 4300

/-- The number that a run of digits denotes, unless it is longer than Python converts. -/
def naturalOfText (text : List Char) : Option ℕ := do
  let digits ← digitGroups decimal text
  if intMaxStrDigits < digits.length then none
  else some (digits.foldl (fun value digit => value * 10 + digit) 0)

/-- The white space that `int` skips: `str.isspace` without the separators of ASCII. -/
def isIntSpace (c : Char) : Bool := isSpace c && !(28 ≤ c.toNat && c.toNat ≤ 31)

/-- `int(text)`, `none` for `ValueError`. -/
def intOfText (text : List Char) : Option ℤ :=
  match (text.dropWhile isIntSpace).rdropWhile isIntSpace with
  | '+' :: rest => (naturalOfText decimal rest).map fun n => (n : ℤ)
  | '-' :: rest => (naturalOfText decimal rest).map fun n => -(n : ℤ)
  | rest => (naturalOfText decimal rest).map fun n => (n : ℤ)

/-- `int("0")`. -/
lemma intOfText_zero : intOfText decimal ['0'] = some 0 := by
  have hspace : isIntSpace '0' = false := by decide
  have hdigits : naturalOfText decimal ['0'] = some 0 := by
    simp [naturalOfText, digitGroups, digitValue, intMaxStrDigits]
  simp [intOfText, hspace, hdigits, List.rdropWhile]

end Integers

end Python
