import QfwSlurm.Sequence.Lines

/-!
# Strings in Lua

A string of Lua is a sequence of bytes.  The few patterns that are matched are definitions of their
own, with the pattern in the comment.
-/

namespace Lua

/-- `stream:lines()` -/
def lines (bytes : List UInt8) : List (List UInt8) := Sequence.linesOf (· = 10) bytes

/-- The matches of `[^,]+`: the pieces between the commas that are not empty. -/
def commaFields (value : List UInt8) : List (List UInt8) :=
  (value.splitOnP (· = 44)).filter (· ≠ [])

/-- `^([^=]+)=(.*)$` -/
def keyValue (entry : List UInt8) : Option (List UInt8 × List UInt8) :=
  match entry.dropWhile (· ≠ 61) with
  | [] => none
  | _ :: value =>
    let key := entry.takeWhile (· ≠ 61)
    if key = [] then none else some (key, value)

/-- `^[A-Za-z0-9_.-]+$` -/
def isWord (value : List UInt8) : Bool :=
  value ≠ [] && value.all fun b =>
    (65 ≤ b.toNat && b.toNat ≤ 90) || (97 ≤ b.toNat && b.toNat ≤ 122) ||
      (48 ≤ b.toNat && b.toNat ≤ 57) || b = 95 || b = 46 || b = 45

/-- `^[0-9]+$` -/
def isNumeric (value : List UInt8) : Bool :=
  value ≠ [] && value.all fun b => 48 ≤ b.toNat && b.toNat ≤ 57

/-- `^[1-9][0-9]*$` -/
def isPositive : List UInt8 → Bool
  | [] => false
  | first :: rest =>
    (49 ≤ first.toNat && first.toNat ≤ 57) && rest.all fun b => 48 ≤ b.toNat && b.toNat ≤ 57

/-- `table.concat` -/
def concat (texts : List (List UInt8)) (separator : List UInt8) : List UInt8 :=
  separator.intercalate texts

/-- A key without an equals sign is found. -/
lemma keyValue_append {key : List UInt8} (hne : key ≠ []) (h : ∀ b ∈ key, b ≠ 61)
    (value : List UInt8) : keyValue (key ++ 61 :: value) = some (key, value) := by
  have hkey : ∀ b ∈ key, decide (b ≠ 61) = true := fun b hb => decide_eq_true (h b hb)
  have hdrop : (key ++ 61 :: value).dropWhile (· ≠ 61) = 61 :: value := by
    rw [List.dropWhile_append_of_pos hkey]
    exact List.dropWhile_cons_of_neg (by decide)
  have htake : (key ++ 61 :: value).takeWhile (· ≠ 61) = key := by
    rw [List.takeWhile_append_of_pos hkey, List.takeWhile_cons_of_neg (by decide), List.append_nil]
  rw [keyValue, hdrop]
  dsimp only
  rw [htake, if_neg hne]

end Lua
