import Mathlib.Data.FinEnum
import QfwSlurm.Protocol.Texts
import QfwSlurm.Lua.Strings

/-!
# Values in Lua

Texts and numbers, with the conversions between them.  How numbers are represented depends on the
version of Lua, so they are a class with the operations that a script uses.
-/

namespace Lua

/-- The numbers, with what a script does with them. -/
class Numbers (N : Type) where
  ofNat : ℕ → N
  mul : N → N → N
  le : N → N → Bool
  eq : N → N → Bool
  tostring : N → List UInt8
  /-- The number that a text is read as. -/
  tonumber : List UInt8 → Option N

/-- A value that is not `nil`. -/
inductive Value (N : Type) where
  | text (bytes : List UInt8)
  | number (n : N)
  deriving DecidableEq

variable {N : Type} [Numbers N]

/-- `tostring`, also the conversion of `string.match` and `..` -/
def Value.tostring : Value N → List UInt8
  | text bytes => bytes
  | number n => Numbers.tostring n

/-- `tonumber` -/
def Value.tonumber : Value N → Option N
  | text bytes => Numbers.tonumber bytes
  | number n => some n

/-- `tostring` of a value that may be `nil`. -/
def tostring : Option (Value N) → List UInt8
  | some value => value.tostring
  | none => QfwSlurm.utf8 "nil"

/-- `tonumber(value) or default` -/
def numberOr (value : Option (Value N)) (default : N) : N :=
  (value.bind Value.tonumber).getD default

/-- The integers, as long as they stay within the range of the version; of the texts that are read
as numbers, the decimal ones. -/
instance : Numbers ℤ where
  ofNat := Int.ofNat
  mul := (· * ·)
  le a b := a ≤ b
  eq a b := a = b
  tostring n := QfwSlurm.utf8 (toString n)
  tonumber text :=
    if text ≠ [] ∧ ∀ b ∈ text, 48 ≤ b.toNat ∧ b.toNat ≤ 57 then
      some (text.foldl (fun value b => value * 10 + (b.toNat - 48)) 0)
    else none

end Lua
