import Mathlib.Data.List.ReduceOption
import QfwSlurm.Python.CodePoints
import QfwSlurm.Sequence.Prefixes

/-!
# Strings as bytes

The codec `utf-8` of Python, with the error handlers `replace` and `ignore`.  A surrogate has no
bytes: encoding it is an error, for which `replace` writes a question mark.  Decoding takes the
longest part that can begin a character for one malformed sequence, as Unicode recommends, and
`ignore` leaves it out.

`ofUtf8Ignore_take` is about bytes that are cut off: what is read from them is the longest prefix
of the text whose bytes are there.
-/

namespace Python

open Sequence

/-! ### Encoding -/

/-- A code point that no character has. -/
def CodePoint.isSurrogate (p : CodePoint) : Bool := 0xD800 ≤ p.val && p.val < 0xE000

/-- The bytes of a character. -/
def CodePoint.utf8 (p : CodePoint) : List UInt8 :=
  if p.val < 0x80 then [UInt8.ofNat p.val]
  else if p.val < 0x800 then
    [UInt8.ofNat (0xC0 + p.val / 0x40), UInt8.ofNat (0x80 + p.val % 0x40)]
  else if p.val < 0x10000 then
    [UInt8.ofNat (0xE0 + p.val / 0x1000), UInt8.ofNat (0x80 + p.val / 0x40 % 0x40),
      UInt8.ofNat (0x80 + p.val % 0x40)]
  else
    [UInt8.ofNat (0xF0 + p.val / 0x40000), UInt8.ofNat (0x80 + p.val / 0x1000 % 0x40),
      UInt8.ofNat (0x80 + p.val / 0x40 % 0x40), UInt8.ofNat (0x80 + p.val % 0x40)]

/-- `text.encode("utf-8")`, `none` where Python raises `UnicodeEncodeError`. -/
def Str.utf8 (text : Str) : Option (List UInt8) :=
  if text.any CodePoint.isSurrogate then none else some (text.flatMap CodePoint.utf8)

/-- `text.encode("utf-8", "replace")` -/
def Str.utf8Replace (text : Str) : List UInt8 :=
  text.flatMap fun p => if p.isSurrogate then [0x3F] else p.utf8

/-- The text with a question mark for every surrogate. -/
def Str.replaced (text : Str) : Str := text.map fun p => if p.isSurrogate then 0x3F else p

/-- How many bytes `replace` writes for a code point. -/
def CodePoint.replacedSize (p : CodePoint) : ℕ :=
  if p.isSurrogate then 1
  else if p.val < 0x80 then 1
  else if p.val < 0x800 then 2
  else if p.val < 0x10000 then 3
  else 4

/-- A text that can be encoded. -/
def Str.Encodable (text : Str) : Prop := ∀ p ∈ text, CodePoint.isSurrogate p = false

lemma encodable_replaced (text : Str) : (Str.replaced text).Encodable := by
  intro p hp
  obtain ⟨q, -, rfl⟩ := List.mem_map.mp hp
  split_ifs with hq
  · rfl
  · exact Bool.eq_false_iff.mpr hq

lemma utf8_of_encodable {text : Str} (h : text.Encodable) :
    text.utf8 = some (text.flatMap CodePoint.utf8) := by
  have hnone : ¬ text.any CodePoint.isSurrogate = true := by
    rw [List.any_eq_true]
    rintro ⟨p, hp, hsurrogate⟩
    rw [h p hp] at hsurrogate
    cases hsurrogate
  rw [Str.utf8, if_neg hnone]

lemma utf8Replace_eq (text : Str) :
    text.utf8Replace = (Str.replaced text).flatMap CodePoint.utf8 := by
  rw [Str.utf8Replace, Str.replaced, List.flatMap_map]
  refine congrArg (List.flatMap · text) (funext fun p => ?_)
  split_ifs <;> rfl

lemma length_utf8_replaced (p : CodePoint) :
    (if p.isSurrogate then 0x3F else p : CodePoint).utf8.length = p.replacedSize := by
  unfold CodePoint.replacedSize
  by_cases hp : p.isSurrogate = true
  · rw [if_pos hp, if_pos hp]
    rfl
  · rw [if_neg hp, if_neg hp, CodePoint.utf8]
    split_ifs <;> rfl

/-- Only NUL is encoded with a zero byte. -/
lemma zero_mem_utf8 {p : CodePoint} : 0 ∈ p.utf8 ↔ p = 0 := by
  have hbyte (n : ℕ) : 0 = UInt8.ofNat n ↔ n % 256 = 0 := by
    rw [eq_comm, ← UInt8.toNat_inj, UInt8.toNat_ofNat']
    rfl
  constructor
  · intro h
    have hlt := p.isLt
    refine Fin.ext ?_
    unfold CodePoint.utf8 at h
    split_ifs at h <;>
      simp only [List.mem_cons, List.not_mem_nil, or_false, hbyte] at h <;>
      rw [Fin.val_zero] <;> omega
  · rintro rfl
    exact List.mem_singleton.mpr rfl

/-! ### Decoding -/

/-- The beginning of a character: how many bytes are missing, between which bounds the next one must
be, and the value so far. -/
structure Pending where
  missing : ℕ
  low : ℕ := 0x80
  high : ℕ := 0xBF
  value : ℕ

/-- What a first byte begins; `none` for a byte that begins no character of several bytes. -/
def Pending.ofByte (b : ℕ) : Option Pending :=
  if b < 0xC2 then none
  else if b < 0xE0 then some { missing := 1, value := b - 0xC0 }
  else if b < 0xF0 then
    some { missing := 2, low := if b = 0xE0 then 0xA0 else 0x80
           high := if b = 0xED then 0x9F else 0xBF, value := b - 0xE0 }
  else if b < 0xF5 then
    some { missing := 3, low := if b = 0xF0 then 0x90 else 0x80
           high := if b = 0xF4 then 0x8F else 0xBF, value := b - 0xF0 }
  else none

/-- The beginning with one more byte. -/
def Pending.push (pending : Pending) (b : ℕ) : Pending :=
  { missing := pending.missing - 1, value := pending.value * 0x40 + (b - 0x80) }

/-- The characters in the bytes, with `none` for each malformed sequence, where this beginning of a
character has been read already. -/
def scanUtf8 : Option Pending → List UInt8 → List (Option CodePoint)
  | none, [] => []
  | some _, [] => [none]
  | none, b :: rest =>
    if b.toNat < 0x80 then some (Fin.ofNat _ b.toNat) :: scanUtf8 none rest
    else
      match Pending.ofByte b.toNat with
      | none => none :: scanUtf8 none rest
      | some pending => scanUtf8 (some pending) rest
  | some pending, b :: rest =>
    if pending.low ≤ b.toNat ∧ b.toNat ≤ pending.high then
      if pending.missing = 1 then
        some (Fin.ofNat _ (pending.push b.toNat).value) :: scanUtf8 none rest
      else scanUtf8 (some (pending.push b.toNat)) rest
    else if b.toNat < 0x80 then none :: some (Fin.ofNat _ b.toNat) :: scanUtf8 none rest
    else
      -- the byte does not go on with the character, and may begin another one
      match Pending.ofByte b.toNat with
      | none => none :: none :: scanUtf8 none rest
      | some pending => none :: scanUtf8 (some pending) rest

/-- `bytes.decode("utf-8")`, `none` where Python raises `UnicodeDecodeError`. -/
def Str.ofUtf8 (bytes : List UInt8) : Option Str := (scanUtf8 none bytes).mapM id

/-- `bytes.decode("utf-8", "ignore")` -/
def Str.ofUtf8Ignore (bytes : List UInt8) : Str := (scanUtf8 none bytes).reduceOption

/-! ### Reading the bytes of a character -/

/-- These bytes complete the character. -/
inductive Completes : Pending → List UInt8 → CodePoint → Prop
  | last {pending : Pending} {b : UInt8} (hmissing : pending.missing = 1)
      (hb : pending.low ≤ b.toNat ∧ b.toNat ≤ pending.high) :
      Completes pending [b] (Fin.ofNat _ (pending.push b.toNat).value)
  | next {pending : Pending} {b : UInt8} {rest : List UInt8} {p : CodePoint}
      (hmissing : pending.missing ≠ 1) (hb : pending.low ≤ b.toNat ∧ b.toNat ≤ pending.high)
      (hrest : Completes (pending.push b.toNat) rest p) : Completes pending (b :: rest) p

section Completing

variable {pending : Pending} {bytes : List UInt8} {p : CodePoint}

lemma Completes.scan (h : Completes pending bytes p) (rest : List UInt8) :
    scanUtf8 (some pending) (bytes ++ rest) = some p :: scanUtf8 none rest := by
  induction h with
  | last hmissing hb =>
    rw [List.singleton_append, scanUtf8, if_pos hb, if_pos hmissing]
  | next hmissing hb hrest ih =>
    rw [List.cons_append, scanUtf8, if_pos hb, if_neg hmissing, ih]

/-- Without its end the character is malformed. -/
lemma Completes.scan_part (h : Completes pending bytes p) {part : List UInt8}
    (hpart : part <+: bytes) (hne : part ≠ bytes) : scanUtf8 (some pending) part = [none] := by
  induction h generalizing part with
  | @last pending b hmissing hb =>
    cases part with
    | nil => rfl
    | cons c part =>
      obtain ⟨rfl, hnil⟩ := List.cons_prefix_cons.mp hpart
      rw [List.prefix_nil.mp hnil] at hne
      exact absurd rfl hne
  | @next pending b rest p hmissing hb hrest ih =>
    cases part with
    | nil => rfl
    | cons c part =>
      obtain ⟨rfl, hlater⟩ := List.cons_prefix_cons.mp hpart
      rw [scanUtf8, if_pos hb, if_neg hmissing]
      exact ih hlater fun heq => hne (congrArg (c :: ·) heq)

/-- The bytes of a character: one of ASCII, or a first byte and those that complete it. -/
inductive Spells (p : CodePoint) : List UInt8 → Prop
  | ascii (hp : p.val < 0x80) : Spells p [UInt8.ofNat p.val]
  | several {b : UInt8} {rest : List UInt8} {pending : Pending} (hb : ¬ b.toNat < 0x80)
      (hfirst : Pending.ofByte b.toNat = some pending) (hrest : Completes pending rest p) :
      Spells p (b :: rest)

lemma toNat_byte {n : ℕ} (h : n < 256) : (UInt8.ofNat n).toNat = n := by
  rw [UInt8.toNat_ofNat']
  exact Nat.mod_eq_of_lt h

lemma CodePoint.spells_utf8 (hp : p.isSurrogate = false) : Spells p p.utf8 := by
  have hlt := p.isLt
  have hvalid : p.val < 0xD800 ∨ 0xE000 ≤ p.val := by
    rw [CodePoint.isSurrogate, Bool.and_eq_false_iff, decide_eq_false_iff_not,
      decide_eq_false_iff_not] at hp
    omega
  -- the last byte of a character, and one before it
  have hlast {pending : Pending} {n : ℕ} (hn : n < 256) (hmissing : pending.missing = 1)
      (hb : pending.low ≤ n ∧ n ≤ pending.high) (hvalue : (pending.push n).value = p.val) :
      Completes pending [UInt8.ofNat n] p := by
    have hcompletes := Completes.last (b := UInt8.ofNat n) hmissing (by rwa [toNat_byte hn])
    rwa [toNat_byte hn, hvalue, Fin.ofNat_val_eq_self] at hcompletes
  have hnext {pending : Pending} {n : ℕ} {rest : List UInt8} (hn : n < 256)
      (hmissing : pending.missing ≠ 1) (hb : pending.low ≤ n ∧ n ≤ pending.high)
      (hrest : Completes (pending.push n) rest p) : Completes pending (UInt8.ofNat n :: rest) p :=
    .next hmissing (by rwa [toNat_byte hn]) (by rwa [toNat_byte hn])
  have hseveral {pending : Pending} {n : ℕ} {rest : List UInt8} (hn : 0x80 ≤ n ∧ n < 256)
      (hfirst : Pending.ofByte n = some pending) (hrest : Completes pending rest p) :
      Spells p (UInt8.ofNat n :: rest) := by
    refine .several ?_ (by rwa [toNat_byte hn.2]) hrest
    rw [toNat_byte hn.2]
    exact not_lt.mpr hn.1
  unfold CodePoint.utf8
  split_ifs with hone htwo hthree
  · exact .ascii hone
  · refine hseveral (by omega) (by rw [Pending.ofByte, if_neg (by omega), if_pos (by omega)]) ?_
    refine hlast (by omega) rfl ⟨by dsimp only; omega, by dsimp only; omega⟩ ?_
    dsimp only [Pending.push]
    omega
  · refine hseveral (by omega)
      (by rw [Pending.ofByte, if_neg (by omega), if_neg (by omega), if_pos (by omega)]) ?_
    refine hnext (by omega) (show 2 ≠ 1 by decide) ⟨?_, ?_⟩ ?_
    · dsimp only
      split_ifs <;> omega
    · dsimp only
      split_ifs <;> omega
    refine hlast (by omega) rfl ⟨by dsimp only [Pending.push]; omega,
      by dsimp only [Pending.push]; omega⟩ ?_
    dsimp only [Pending.push]
    omega
  · refine hseveral (by omega)
      (by rw [Pending.ofByte, if_neg (by omega), if_neg (by omega), if_neg (by omega),
        if_pos (by omega)]) ?_
    refine hnext (by omega) (show 3 ≠ 1 by decide) ⟨?_, ?_⟩ ?_
    · dsimp only
      split_ifs <;> omega
    · dsimp only
      split_ifs <;> omega
    refine hnext (by omega) (show 2 ≠ 1 by decide) ⟨by dsimp only [Pending.push]; omega,
      by dsimp only [Pending.push]; omega⟩ ?_
    refine hlast (by omega) rfl ⟨by dsimp only [Pending.push]; omega,
      by dsimp only [Pending.push]; omega⟩ ?_
    dsimp only [Pending.push]
    omega

/-- A character is read from its bytes. -/
lemma scanUtf8_utf8 (hp : p.isSurrogate = false) (rest : List UInt8) :
    scanUtf8 none (p.utf8 ++ rest) = some p :: scanUtf8 none rest := by
  generalize p.utf8 = bytes, CodePoint.spells_utf8 hp = hspells
  cases hspells with
  | ascii hascii =>
    rw [List.singleton_append, scanUtf8, toNat_byte (by omega), if_pos hascii,
      Fin.ofNat_val_eq_self]
  | several hb hfirst hrest =>
    rw [List.cons_append, scanUtf8, if_neg hb, hfirst]
    exact hrest.scan rest

/-- Nothing is read from a part of the bytes of a character. -/
lemma ofUtf8Ignore_part (hp : p.isSurrogate = false) {part : List UInt8} (hpart : part <+: p.utf8)
    (hne : part ≠ p.utf8) : Str.ofUtf8Ignore part = [] := by
  generalize p.utf8 = bytes, CodePoint.spells_utf8 hp = hspells at hpart hne
  cases part with
  | nil => rfl
  | cons c part =>
    cases hspells with
    | ascii hascii =>
      obtain ⟨rfl, hnil⟩ := List.cons_prefix_cons.mp hpart
      rw [List.prefix_nil.mp hnil] at hne
      exact absurd rfl hne
    | several hb hfirst hrest =>
      obtain ⟨rfl, hlater⟩ := List.cons_prefix_cons.mp hpart
      rw [Str.ofUtf8Ignore, scanUtf8, if_neg hb, hfirst]
      dsimp only
      rw [hrest.scan_part hlater fun heq => hne (congrArg (c :: ·) heq)]
      rfl

end Completing

/-! ### Reading a text -/

variable {text : Str}

lemma scanUtf8_flatMap (h : text.Encodable) (rest : List UInt8) :
    scanUtf8 none (text.flatMap CodePoint.utf8 ++ rest) = text.map some ++ scanUtf8 none rest := by
  induction text with
  | nil => rfl
  | cons p text ih =>
    obtain ⟨hp, htext⟩ := List.forall_mem_cons.mp h
    rw [List.flatMap_cons, List.append_assoc, scanUtf8_utf8 hp, ih htext]
    rfl

/-- A text without surrogates is read from its bytes. -/
theorem ofUtf8_flatMap (h : text.Encodable) :
    Str.ofUtf8 (text.flatMap CodePoint.utf8) = some text := by
  have hscan := scanUtf8_flatMap h []
  rw [List.append_nil] at hscan
  rw [Str.ofUtf8, hscan, scanUtf8, List.append_nil, List.mapM_map]
  exact (List.mapM_pure (m := Option)).trans (congrArg some (List.map_id text))

/-- From bytes that are cut off the longest prefix is read whose bytes are there. -/
theorem ofUtf8Ignore_take (h : text.Encodable) (budget : ℕ) :
    Str.ofUtf8Ignore ((text.flatMap CodePoint.utf8).take budget) =
      fitting (fun p => (CodePoint.utf8 p).length) budget text := by
  obtain ⟨part, hpart, htake⟩ := take_flatMap CodePoint.utf8 budget text
  have hkept : Str.Encodable (fitting (fun p => (CodePoint.utf8 p).length) budget text) :=
    fun p hp => h p (fitting_isPrefix.subset hp)
  have hnothing : Str.ofUtf8Ignore part = [] := by
    rcases hpart with rfl | ⟨p, hp, hprefix, hne⟩
    · rfl
    · exact ofUtf8Ignore_part (h p hp) hprefix hne
  rw [htake, Str.ofUtf8Ignore, scanUtf8_flatMap hkept, List.reduceOption_append]
  rw [Str.ofUtf8Ignore] at hnothing
  rw [hnothing, List.append_nil, List.reduceOption, List.filterMap_map]
  exact List.filterMap_some

/-! ### Texts of characters -/

lemma encodable_ofString (chars : String) : (Str.ofString chars).Encodable := by
  intro p hp
  obtain ⟨c, -, rfl⟩ := List.mem_map.mp hp
  have hvalid : c.toNat < 0xD800 ∨ 0xDFFF < c.toNat ∧ c.toNat < 0x110000 := c.valid
  have hval : (Fin.ofNat 0x110000 c.toNat).val = c.toNat := Nat.mod_eq_of_lt (by omega)
  rw [CodePoint.isSurrogate, hval, Bool.and_eq_false_iff, decide_eq_false_iff_not,
    decide_eq_false_iff_not]
  omega

/-- The texts that can be encoded are those of characters. -/
lemma Str.Encodable.exists_ofString (h : text.Encodable) :
    ∃ chars : String, Str.ofString chars = text := by
  refine ⟨String.ofList (text.map fun p => Char.ofNat p.val), ?_⟩
  rw [Str.ofString, String.toList_ofList, List.map_map]
  refine (List.map_congr_left fun p hp => ?_).trans (List.map_id text)
  have hvalid : p.val.isValidChar := by
    have hp := h p hp
    have hlt := p.isLt
    rw [CodePoint.isSurrogate, Bool.and_eq_false_iff, decide_eq_false_iff_not,
      decide_eq_false_iff_not] at hp
    unfold Nat.isValidChar
    omega
  have hval : (Char.ofNat p.val).toNat = p.val := by
    rw [Char.ofNat, dif_pos hvalid]
    rfl
  rw [Function.comp_apply, hval, Fin.ofNat_val_eq_self, id]

/-- A character has the bytes of its code point. -/
lemma utf8_ofChar (c : Char) : CodePoint.utf8 (Fin.ofNat _ c.toNat) = String.utf8EncodeChar c := by
  have hvalid : c.toNat < 0xD800 ∨ 0xDFFF < c.toNat ∧ c.toNat < 0x110000 := c.valid
  have hval : (Fin.ofNat 0x110000 c.toNat).val = c.toNat := Nat.mod_eq_of_lt (by omega)
  have hchar : c.val.toNat = c.toNat := rfl
  rw [CodePoint.utf8, hval, String.utf8EncodeChar, hchar]
  -- both have one case for each number of bytes
  by_cases hone : c.toNat < 0x80
  · rw [if_pos hone, if_pos (by omega)]
  by_cases htwo : c.toNat < 0x800
  · have hfirst : c.toNat / 64 % 32 + 192 = 192 + c.toNat / 64 := by omega
    rw [if_neg hone, if_pos htwo, if_neg (by omega), if_pos (by omega), hfirst,
      Nat.add_comm (c.toNat % 64)]
  by_cases hthree : c.toNat < 0x10000
  · have hfirst : c.toNat / 4096 % 16 + 224 = 224 + c.toNat / 4096 := by omega
    rw [if_neg hone, if_neg htwo, if_pos hthree, if_neg (by omega), if_neg (by omega),
      if_pos (by omega), hfirst, Nat.add_comm (c.toNat / 64 % 64), Nat.add_comm (c.toNat % 64)]
  · have hfirst : c.toNat / 262144 % 8 + 240 = 240 + c.toNat / 262144 := by omega
    rw [if_neg hone, if_neg htwo, if_neg hthree, if_neg (by omega), if_neg (by omega),
      if_neg (by omega), hfirst, Nat.add_comm (c.toNat / 4096 % 64),
      Nat.add_comm (c.toNat / 64 % 64), Nat.add_comm (c.toNat % 64)]

end Python
