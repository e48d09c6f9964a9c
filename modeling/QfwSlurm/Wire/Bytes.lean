import Mathlib.Data.List.Basic
import Mathlib.Tactic

/-!
# Byte strings of fixed layout

Unsigned integers in network order, and the slices of a byte string that a reader with fixed offsets
looks at.  A number written with `bigEndian` in enough bytes is read back by `ofBigEndian`, and a
slice of a concatenation is found by skipping the parts before it.
-/

namespace Wire

/-- Byte strings are compared byte by byte. -/
instance instLawfulBEqBytes : LawfulBEq (List UInt8) := inferInstance

/-! ### Integers in network order -/

/-- The `width` low bytes of a number, the most significant first. -/
def bigEndian : ℕ → ℕ → List UInt8
  | 0, _ => []
  | width + 1, value => bigEndian width (value / 256) ++ [UInt8.ofNat value]

/-- The number that a byte string stands for. -/
def ofBigEndian (bytes : List UInt8) : ℕ :=
  bytes.foldl (fun value byte => value * 256 + byte.toNat) 0

@[simp] lemma length_bigEndian (width value : ℕ) : (bigEndian width value).length = width := by
  induction width generalizing value with
  | zero => rfl
  | succ width ih => simp [bigEndian, ih]

/-- The last byte is the least significant one. -/
lemma ofBigEndian_append_singleton (bytes : List UInt8) (byte : UInt8) :
    ofBigEndian (bytes ++ [byte]) = ofBigEndian bytes * 256 + byte.toNat := by
  simp [ofBigEndian]

/-- Writing and reading a number keeps what fits the width. -/
lemma ofBigEndian_bigEndian_mod (width value : ℕ) :
    ofBigEndian (bigEndian width value) = value % 256 ^ width := by
  induction width generalizing value with
  | zero => simp [bigEndian, ofBigEndian, Nat.mod_one]
  | succ width ih =>
    have hbyte : (UInt8.ofNat value).toNat = value % 256 := by simp
    rw [bigEndian, ofBigEndian_append_singleton, ih, hbyte, Nat.pow_succ',
      Nat.mod_mul, add_comm, mul_comm]

/-- A number that fits its width is read back. -/
lemma ofBigEndian_bigEndian {width value : ℕ} (h : value < 256 ^ width) :
    ofBigEndian (bigEndian width value) = value := by
  rw [ofBigEndian_bigEndian_mod, Nat.mod_eq_of_lt h]

/-- What a byte string stands for fits its length. -/
lemma ofBigEndian_lt (bytes : List UInt8) : ofBigEndian bytes < 256 ^ bytes.length := by
  induction bytes using List.reverseRecOn with
  | nil => simp [ofBigEndian]
  | append_singleton bytes byte ih =>
    have hbyte : byte.toNat < 256 := byte.toNat_lt
    rw [ofBigEndian_append_singleton, List.length_append, List.length_singleton, pow_succ]
    omega

/-- Reading and writing a number keeps its bytes. -/
lemma bigEndian_ofBigEndian (bytes : List UInt8) :
    bigEndian bytes.length (ofBigEndian bytes) = bytes := by
  induction bytes using List.reverseRecOn with
  | nil => rfl
  | append_singleton bytes byte ih =>
    have hbyte : byte.toNat < 256 := byte.toNat_lt
    have hhigh : (ofBigEndian bytes * 256 + byte.toNat) / 256 = ofBigEndian bytes := by omega
    have hlow : UInt8.ofNat (ofBigEndian bytes * 256 + byte.toNat) = byte := by
      apply UInt8.toNat_inj.mp
      rw [UInt8.toNat_ofNat']
      omega
    rw [ofBigEndian_append_singleton, List.length_append, List.length_singleton, bigEndian, hhigh,
      hlow, ih]

/-! ### Slices -/

/-- The `width` bytes from `offset` on. -/
def slice (offset width : ℕ) (bytes : List UInt8) : List UInt8 :=
  (bytes.drop offset).take width

/-- A slice that starts after a known part is a slice of the rest. -/
lemma slice_append_right {offset width : ℕ} {first rest : List UInt8}
    (h : first.length ≤ offset) :
    slice offset width (first ++ rest) = slice (offset - first.length) width rest := by
  rw [slice, slice, List.drop_append, List.drop_eq_nil_of_le h, List.nil_append]

/-- A slice that lies within the string has its width. -/
lemma length_slice {offset width : ℕ} {bytes : List UInt8} (h : offset + width ≤ bytes.length) :
    (slice offset width bytes).length = width := by
  rw [slice, List.length_take, List.length_drop]
  omega

/-- A number that was read from a slice is written as that slice. -/
lemma bigEndian_slice {offset width : ℕ} {bytes : List UInt8} (h : offset + width ≤ bytes.length) :
    bigEndian width (ofBigEndian (slice offset width bytes)) = slice offset width bytes := by
  have hread := bigEndian_ofBigEndian (slice offset width bytes)
  rwa [length_slice h] at hread

/-- Adjacent slices make up a longer one. -/
lemma slice_append_slice (offset first second : ℕ) (bytes : List UInt8) :
    slice offset first bytes ++ slice (offset + first) second bytes =
      slice offset (first + second) bytes := by
  rw [slice, slice, slice, List.take_add, List.drop_drop]

/-- A slice that is exactly the first part. -/
lemma slice_append_left {width : ℕ} {first rest : List UInt8} (h : first.length = width) :
    slice 0 width (first ++ rest) = first := by
  rw [slice, List.drop_zero, List.take_left' h]

end Wire
