import Mathlib.Tactic
import Mathlib.Data.List.Lex

/-!
# Strings and bounded output in C

A string is the list of its bytes before the terminator.  `strcmp` compares strings bytewise.  A
routine that appends to a buffer of known size either stops with an error or returns the buffer; a
store beyond the buffer is an outcome of its own.  `Appends size f text` specifies such a routine:
it appends the text, or refuses because the text does not fit, and in both cases the buffer stays a
string.  `Appends.bind` composes two of them.
-/

namespace C

/-! ### Comparison -/

/-- `strcmp` -/
def strcmp : List UInt8 → List UInt8 → ℤ
  | [], [] => 0
  | [], b :: _ => -(b.toNat : ℤ)
  | a :: _, [] => a.toNat
  | a :: left, b :: right => if a = b then strcmp left right else (a.toNat : ℤ) - b.toNat

/-- A string as the numbers its order is the lexicographic one of. -/
def sortKey (text : List UInt8) : List ℕ := text.map UInt8.toNat

lemma sortKey_injective : Function.Injective sortKey :=
  List.map_injective_iff.mpr fun _ _ h => UInt8.toNat_inj.mp h

lemma toNat_pos_of_ne {a : UInt8} (h : a ≠ 0) : 0 < a.toNat :=
  Nat.pos_of_ne_zero fun hzero => h (UInt8.toNat_inj.mp hzero)

/-- A string is after another one in the order of its bytes. -/
lemma strcmp_pos_iff {left right : List UInt8} (hleft : 0 ∉ left) (hright : 0 ∉ right) :
    0 < strcmp left right ↔ sortKey right < sortKey left := by
  induction left generalizing right with
  | nil =>
    cases right with
    | nil => simp [strcmp, sortKey]
    | cons b right => simp [strcmp, sortKey]
  | cons a left ih =>
    rw [List.mem_cons, not_or] at hleft
    cases right with
    | nil =>
      have hpos := toNat_pos_of_ne (Ne.symm hleft.1)
      simp [strcmp, sortKey, hpos]
    | cons b right =>
      rw [List.mem_cons, not_or] at hright
      have hrest := ih hleft.2 hright.2
      have hcons : sortKey (b :: right) < sortKey (a :: left) ↔
          b.toNat < a.toNat ∨ b.toNat = a.toNat ∧ sortKey right < sortKey left :=
        List.cons_lt_cons_iff
      rw [hcons, strcmp]
      by_cases hab : a = b
      · subst hab
        rw [if_pos rfl, hrest]
        simp
      · have hne : b.toNat ≠ a.toNat := fun h => hab (UInt8.toNat_inj.mp h.symm)
        rw [if_neg hab]
        constructor
        · intro h
          exact .inl (by omega)
        · rintro (h | ⟨h, -⟩)
          · omega
          · exact absurd h hne

/-- Strings that compare equal are equal. -/
lemma strcmp_eq_zero_iff {left right : List UInt8} (hleft : 0 ∉ left) (hright : 0 ∉ right) :
    strcmp left right = 0 ↔ left = right := by
  induction left generalizing right with
  | nil =>
    cases right with
    | nil => simp [strcmp]
    | cons b right =>
      rw [List.mem_cons, not_or] at hright
      have hpos := toNat_pos_of_ne (Ne.symm hright.1)
      simp only [strcmp, reduceCtorEq, iff_false]
      omega
  | cons a left ih =>
    rw [List.mem_cons, not_or] at hleft
    cases right with
    | nil =>
      have hpos := toNat_pos_of_ne (Ne.symm hleft.1)
      simp only [strcmp, reduceCtorEq, iff_false]
      omega
    | cons b right =>
      rw [List.mem_cons, not_or] at hright
      rw [strcmp, List.cons.injEq]
      by_cases hab : a = b
      · rw [if_pos hab, ih hleft.2 hright.2]
        simp [hab]
      · have hne : a.toNat ≠ b.toNat := fun h => hab (UInt8.toNat_inj.mp h)
        rw [if_neg hab]
        simp only [hab, false_and, iff_false]
        omega

/-! ### Bounded output -/

/-- A buffer and the length of the string in it. -/
structure Output where
  buffer : List UInt8
  offset : ℕ
  deriving DecidableEq

/-- How a routine that fills a buffer stops early. -/
inductive Stop where
  /-- It returns an error and leaves this buffer. -/
  | refused (buffer : List UInt8)
  /-- It stores a byte outside of the buffer. -/
  | outside
  deriving DecidableEq

/-- Stores of adjacent bytes. -/
def store (buffer : List UInt8) (offset : ℕ) (bytes : List UInt8) : Except Stop (List UInt8) :=
  if offset + bytes.length ≤ buffer.length then
    .ok (buffer.take offset ++ (bytes ++ buffer.drop (offset + bytes.length)))
  else .error .outside

/-- The string in a buffer. -/
def stringOf (buffer : List UInt8) : List UInt8 := buffer.takeWhile (· ≠ 0)

/-- A buffer of this size that ends a string. -/
def Terminated (size : ℕ) (buffer : List UInt8) : Prop := buffer.length = size ∧ 0 ∈ buffer

/-- The buffer holds this text. -/
structure Holds (size : ℕ) (text : List UInt8) (output : Output) : Prop where
  length_eq : output.buffer.length = size
  offset_eq : output.offset = text.length
  text_eq : ∃ tail, output.buffer = text ++ 0 :: tail

variable {size : ℕ} {text more : List UInt8} {output : Output}

lemma Holds.terminated (h : Holds size text output) : Terminated size output.buffer := by
  obtain ⟨tail, htail⟩ := h.text_eq
  exact ⟨h.length_eq, by rw [htail]; simp⟩

lemma Holds.length_lt (h : Holds size text output) : text.length < size := by
  obtain ⟨tail, htail⟩ := h.text_eq
  have hlength := h.length_eq
  rw [htail, List.length_append, List.length_cons] at hlength
  omega

/-- The string in the buffer is the text. -/
lemma Holds.stringOf_eq (h : Holds size text output) (hnul : 0 ∉ text) :
    stringOf output.buffer = text := by
  obtain ⟨tail, htail⟩ := h.text_eq
  have hall : ∀ c ∈ text, decide (c ≠ 0) = true := fun c hc =>
    decide_eq_true fun hzero => hnul (hzero ▸ hc)
  rw [stringOf, htail, List.takeWhile_append_of_pos hall]
  simp

/-- The routine appends this text to what the buffer holds if there is room for it, and refuses
otherwise. -/
def Appends (size : ℕ) (routine : Output → Except Stop Output) (text : List UInt8) : Prop :=
  ∀ before output, Holds size before output →
    (before.length + text.length < size →
      ∃ output', routine output = .ok output' ∧ Holds size (before ++ text) output') ∧
    (size ≤ before.length + text.length →
      ∃ buffer, routine output = .error (.refused buffer) ∧ Terminated size buffer)

lemma Appends.pure : Appends size Except.ok [] := by
  intro before output h
  refine ⟨fun _ => ⟨output, rfl, by rwa [List.append_nil]⟩, fun hfull => ?_⟩
  have hroom := h.length_lt
  rw [List.length_nil] at hfull
  omega

/-- One routine after the other. -/
lemma Appends.bind {f g : Output → Except Stop Output} (hf : Appends size f text)
    (hg : Appends size g more) : Appends size (fun output => f output >>= g) (text ++ more) := by
  intro before output h
  obtain ⟨hfits, hfull⟩ := hf before output h
  by_cases hroom : before.length + text.length < size
  · obtain ⟨output', hok, hholds⟩ := hfits hroom
    obtain ⟨hfits', hfull'⟩ := hg _ output' hholds
    rw [List.length_append] at hfits' hfull'
    dsimp only
    rw [List.length_append, ← List.append_assoc, ← Nat.add_assoc, hok]
    exact ⟨hfits', hfull'⟩
  · obtain ⟨buffer, hrefused, hterminated⟩ := hfull (not_lt.mp hroom)
    dsimp only
    rw [List.length_append, hrefused]
    exact ⟨fun hfits => absurd hfits (by omega), fun _ => ⟨buffer, rfl, hterminated⟩⟩

/-- Stores after the text of a buffer replace what was there. -/
lemma store_append (text tail bytes : List UInt8) (h : bytes.length ≤ tail.length) :
    store (text ++ tail) text.length bytes = .ok (text ++ (bytes ++ tail.drop bytes.length)) := by
  have hroom : text.length + bytes.length ≤ (text ++ tail).length := by
    rw [List.length_append]
    omega
  rw [store, if_pos hroom, List.take_left, List.drop_append]
  simp

end C
