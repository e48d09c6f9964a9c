import Mathlib.Data.Rat.Floor
import Mathlib.Tactic.Linarith

/-!
# Arithmetic in Lua

From version 5.3 on a number of Lua is a 64-bit integer or a double.  Sums and products of integers
wrap around, those of doubles are rounded, and comparisons are exact, also between the two kinds.
The doubles are those of `Float`, and `Quantity` is what a number stands for.
-/

namespace Lua

/-- A number of Lua. -/
inductive Number where
  | integer (value : Int64)
  | float (value : Float)
  deriving DecidableEq

/-- A rational, an infinity, or nothing that can be compared. -/
inductive Quantity where
  | finite (value : ℚ)
  | infinite (negative : Bool)
  | undefined
  deriving DecidableEq

/-- What a double stands for. -/
def floatQuantity (x : Float) : Quantity :=
  match x.toModel.unpack with
  | .finite .positive mantissa exponent _ => .finite (mantissa * 2 ^ exponent)
  | .finite .negative mantissa exponent _ => .finite (-(mantissa * 2 ^ exponent))
  | .zero _ => .finite 0
  | .infinity .positive => .infinite false
  | .infinity .negative => .infinite true
  | .notANumber => .undefined

/-- What a number stands for. -/
def Number.quantity : Number → Quantity
  | integer a => .finite a.toInt
  | float x => floatQuantity x

/-- The whole numbers that an integer can be. -/
def IntegerRange (n : ℤ) : Prop := -2 ^ 63 ≤ n ∧ n < 2 ^ 63

instance (n : ℤ) : Decidable (IntegerRange n) := inferInstanceAs (Decidable (_ ∧ _))

namespace Number

/-- The conversion of an operand when the other one is a double. -/
def toFloat : Number → Float
  | integer a => .ofModel (.ofInt a.toInt)
  | float x => x

/-- The rational that a number stands for, if it is one. -/
def amount (a : Number) : ℚ :=
  match a.quantity with
  | .finite q => q
  | _ => 0

/-- `+` -/
def add : Number → Number → Number
  | integer a, integer b => integer (a + b)
  | a, b => float (a.toFloat + b.toFloat)

/-- `-` -/
def sub : Number → Number → Number
  | integer a, integer b => integer (a - b)
  | a, b => float (a.toFloat - b.toFloat)

/-- `*` -/
def mul : Number → Number → Number
  | integer a, integer b => integer (a * b)
  | a, b => float (a.toFloat * b.toFloat)

/-- `<` -/
def lt (a b : Number) : Bool :=
  match a.quantity, b.quantity with
  | .finite x, .finite y => x < y
  | .infinite negative, .finite _ => negative
  | .finite _, .infinite negative => !negative
  | .infinite negative, .infinite negative' => negative && !negative'
  | _, _ => false

/-- `<=` -/
def le (a b : Number) : Bool :=
  match a.quantity, b.quantity with
  | .finite x, .finite y => x ≤ y
  | .infinite negative, .finite _ => negative
  | .finite _, .infinite negative => !negative
  | .infinite negative, .infinite negative' => negative || !negative'
  | _, _ => false

/-- `math.max` of two numbers -/
def max (a b : Number) : Number := if a.lt b then b else a

/-- `math.floor`: an integer where there is one, and a double beyond them is whole. -/
def floor : Number → Number
  | integer a => integer a
  | float x =>
    match floatQuantity x with
    | .finite q => if IntegerRange ⌊q⌋ then integer (.ofInt ⌊q⌋) else float x
    | _ => float x

/-- The integer that `string.format` prints for `%d`; `none` where it raises that the number has no
integer representation. -/
def toInteger : Number → Option Int64
  | integer a => some a
  | float x =>
    match floatQuantity x with
    | .finite q => if q.den = 1 ∧ IntegerRange q.num then some (.ofInt q.num) else none
    | _ => none

variable {a b : Number} {x y : ℚ}

@[simp] lemma quantity_integer (a : Int64) : (integer a).quantity = .finite a.toInt := rfl

lemma amount_of_finite (ha : a.quantity = .finite x) : a.amount = x := by
  rw [amount, ha]

lemma lt_iff (ha : a.quantity = .finite x) (hb : b.quantity = .finite y) :
    a.lt b = true ↔ x < y := by
  simp [lt, ha, hb]

lemma le_iff (ha : a.quantity = .finite x) (hb : b.quantity = .finite y) :
    a.le b = true ↔ x ≤ y := by
  simp [le, ha, hb]

/-! ### Where nothing wraps around -/

lemma integerRange_toInt (a : Int64) : IntegerRange a.toInt := ⟨a.le_toInt, a.toInt_lt⟩

lemma toInt_ofInt {n : ℤ} (h : IntegerRange n) : (Int64.ofInt n).toInt = n :=
  Int64.toInt_ofInt_of_le h.1 h.2

lemma bmod_of_range {n : ℤ} (h : IntegerRange n) : n.bmod (2 ^ 64) = n := by
  obtain ⟨hle, hlt⟩ := h
  exact Int.bmod_eq_of_le (by omega) (by omega)

lemma quantity_add {a b : Int64} (h : IntegerRange (a.toInt + b.toInt)) :
    ((integer a).add (integer b)).quantity = .finite (a.toInt + b.toInt) := by
  rw [add, quantity_integer, Int64.toInt_add, bmod_of_range h]
  push_cast
  rfl

lemma toInt_sub {a b : Int64} (h : IntegerRange (a.toInt - b.toInt)) :
    (a - b).toInt = a.toInt - b.toInt := by
  rw [Int64.toInt_sub, bmod_of_range h]

lemma toInt_mul {a b : Int64} (h : IntegerRange (a.toInt * b.toInt)) :
    (a * b).toInt = a.toInt * b.toInt := by
  rw [Int64.toInt_mul, bmod_of_range h]

/-! ### Whole numbers -/

/-- A number that is printed as an integer is that integer. -/
lemma quantity_of_toInteger {n : Int64} (h : a.toInteger = some n) :
    a.quantity = .finite n.toInt := by
  cases a with
  | integer value =>
    cases h
    rfl
  | float value =>
    rw [quantity]
    cases hvalue : floatQuantity value with
    | finite q =>
      simp only [toInteger, hvalue] at h
      by_cases hwhole : q.den = 1 ∧ IntegerRange q.num
      · rw [if_pos hwhole] at h
        cases h
        rw [toInt_ofInt hwhole.2, Rat.coe_int_num_of_den_eq_one hwhole.1]
      · rw [if_neg hwhole] at h
        cases h
    | infinite negative => simp [toInteger, hvalue] at h
    | undefined => simp [toInteger, hvalue] at h

/-- How many whole steps there are up to a number, as far as it is finite. -/
def steps (a : Number) : ℕ := ⌊a.amount⌋.toNat

lemma steps_of_finite (h : a.quantity = .finite x) : a.steps = ⌊x⌋.toNat := by
  rw [steps, amount_of_finite h]

lemma toInt_zero : (0 : Int64).toInt = 0 := rfl

/-- The greater one of zero and an integer. -/
lemma toNat_of_max_integer {v n : Int64}
    (h : ((integer 0).max (integer v)).toInteger = some n) : n.toInt.toNat = v.toInt.toNat := by
  have hzero : (integer 0).quantity = .finite ((0 : ℤ) : ℚ) := rfl
  have hlt := lt_iff hzero (quantity_integer v)
  rw [Int.cast_lt] at hlt
  unfold max at h
  by_cases hpositive : (integer 0).lt (integer v) = true
  · rw [if_pos hpositive] at h
    cases h
    rfl
  · rw [if_neg hpositive] at h
    cases h
    have hnot := mt hlt.mpr hpositive
    rw [toInt_zero]
    omega

/-- The greater one of zero and a double beyond the integers. -/
lemma toNat_of_max_beyond (hbeyond : ∀ q, a.quantity = .finite q → ¬ IntegerRange ⌊q⌋) {n : Int64}
    (h : ((integer 0).max a).toInteger = some n) : n.toInt.toNat = a.steps := by
  unfold max at h
  by_cases hpositive : (integer 0).lt a = true
  · rw [if_pos hpositive] at h
    have hfinite := quantity_of_toInteger h
    refine absurd ?_ (hbeyond _ hfinite)
    rw [Int.floor_intCast]
    exact integerRange_toInt n
  · rw [if_neg hpositive] at h
    cases h
    rw [toInt_zero, Int.toNat_zero, steps, amount]
    cases hquantity : a.quantity with
    | finite q =>
      have hnot := mt (lt_iff (a := integer 0) rfl hquantity).mpr hpositive
      rw [toInt_zero, Int.cast_zero, not_lt] at hnot
      exact (Int.toNat_of_nonpos (Int.floor_nonpos hnot)).symm
    | infinite negative => rfl
    | undefined => rfl

/-- `math.max(0, math.floor(a))` is the number of steps, where it is printed. -/
lemma toNat_of_max_floor {n : Int64} (h : ((integer 0).max a.floor).toInteger = some n) :
    n.toInt.toNat = a.steps := by
  cases a with
  | integer value =>
    rw [floor] at h
    rw [toNat_of_max_integer h, steps_of_finite (quantity_integer value), Int.floor_intCast]
  | float value =>
    cases hvalue : floatQuantity value with
    | finite q =>
      simp only [floor, hvalue] at h
      have hquantity : (float value).quantity = .finite q := hvalue
      by_cases hrange : IntegerRange ⌊q⌋
      · rw [if_pos hrange] at h
        rw [toNat_of_max_integer h, toInt_ofInt hrange, steps_of_finite hquantity]
      · rw [if_neg hrange] at h
        refine toNat_of_max_beyond (fun p hp => ?_) h
        cases hquantity.symm.trans hp
        exact hrange
    | infinite negative =>
      simp only [floor, hvalue] at h
      exact toNat_of_max_beyond (fun p hp => by cases hvalue.symm.trans hp) h
    | undefined =>
      simp only [floor, hvalue] at h
      exact toNat_of_max_beyond (fun p hp => by cases hvalue.symm.trans hp) h

end Number

end Lua
