import QfwSlurm.Protocol.Encode

/-!
# Texts that fit a diagnostic

A text can be sent as a diagnostic when it is nonempty, has no NUL and at most 4096 bytes.
`bounded_diagnostic` sees to the last condition; `Plain` is what it leaves to its callers.  Texts
are plain when they are put together from constants, from plain texts and from what `repr` shows.
-/

namespace QfwSlurm

/-! ### Bytes of a text -/

/-- The bytes of a text are those of its characters. -/
lemma utf8_eq_flatMap (text : String) : utf8 text = text.toList.flatMap String.utf8EncodeChar := by
  have hbytes : text.toUTF8 = (text.toList.flatMap String.utf8EncodeChar).toByteArray := by
    conv_lhs => rw [← String.ofList_toList (s := text)]
    rfl
  rw [utf8, hbytes]
  simp

/-- The bytes of a text. -/
def bytesOf (text : List Char) : List UInt8 := text.flatMap String.utf8EncodeChar

lemma bytesOf_append (text more : List Char) :
    bytesOf (text ++ more) = bytesOf text ++ bytesOf more :=
  List.flatMap_append

lemma bytesOf_toList (text : String) : bytesOf text.toList = utf8 text :=
  (utf8_eq_flatMap text).symm

lemma utf8_append (text more : String) : utf8 (text ++ more) = utf8 text ++ utf8 more := by
  rw [← bytesOf_toList, String.toList_append, bytesOf_append, bytesOf_toList, bytesOf_toList]

/-- The bytes of a character beyond ASCII. -/
lemma high_of_mem_utf8EncodeChar {c : Char} (h : 128 ≤ c.toNat) :
    ∀ b ∈ String.utf8EncodeChar c, 128 ≤ b.toNat := by
  have hval : 128 ≤ c.val.toNat := h
  intro b hb
  unfold String.utf8EncodeChar at hb
  dsimp only at hb
  split_ifs at hb with hone htwo hthree
  · omega
  all_goals
    simp only [List.mem_cons, List.not_mem_nil, or_false] at hb
    rcases hb with rfl | rfl | rfl | rfl <;> rw [UInt8.toNat_ofNat'] <;> omega

/-- An ASCII character is encoded as itself. -/
lemma utf8EncodeChar_ascii {c : Char} (h : c.toNat < 128) :
    String.utf8EncodeChar c = [UInt8.ofNat c.toNat] := by
  have hval : c.val.toNat ≤ 0x7f := by
    have hlt : c.val.toNat < 128 := h
    omega
  unfold String.utf8EncodeChar
  dsimp only
  rw [if_pos hval]
  rfl

/-- An ASCII byte in the bytes of a text is a character of the text. -/
lemma ascii_mem_bytesOf {b : UInt8} (hb : b.toNat < 128) {text : List Char}
    (h : b ∈ bytesOf text) : Char.ofNat b.toNat ∈ text := by
  obtain ⟨c, hc, hbyte⟩ := List.mem_flatMap.mp h
  have hascii : c.toNat < 128 := by
    by_contra hhigh
    have hle := high_of_mem_utf8EncodeChar (not_lt.mp hhigh) b hbyte
    omega
  rw [utf8EncodeChar_ascii hascii, List.mem_singleton] at hbyte
  have hvalue : b.toNat = c.toNat := by
    rw [hbyte, UInt8.toNat_ofNat']
    omega
  rw [hvalue, Char.ofNat_toNat]
  exact hc

/-- An ASCII text at the beginning of the bytes is at the beginning of the text. -/
lemma prefix_of_bytesOf {first text : List Char} (hascii : ∀ c ∈ first, c.toNat < 128)
    (h : bytesOf first <+: bytesOf text) : first <+: text := by
  induction first generalizing text with
  | nil => exact List.nil_prefix
  | cons c first ih =>
    obtain ⟨hc, hfirst⟩ := List.forall_mem_cons.mp hascii
    have hbytes : bytesOf (c :: first) = UInt8.ofNat c.toNat :: bytesOf first := by
      rw [bytesOf, List.flatMap_cons, utf8EncodeChar_ascii hc]
      rfl
    rw [hbytes] at h
    cases text with
    | nil => exact absurd (List.prefix_nil.mp h) (List.cons_ne_nil _ _)
    | cons d text =>
      have hvalue : (UInt8.ofNat c.toNat).toNat = c.toNat := by
        rw [UInt8.toNat_ofNat']
        omega
      have hd : d.toNat < 128 := by
        by_contra hhigh
        obtain ⟨e, rest, hencoded⟩ := List.exists_cons_of_ne_nil (String.utf8EncodeChar_ne_nil (c := d))
        have hle := high_of_mem_utf8EncodeChar (not_lt.mp hhigh) e
          (hencoded ▸ List.mem_cons_self)
        have hcons : bytesOf (d :: text) = e :: (rest ++ bytesOf text) := by
          rw [bytesOf, List.flatMap_cons, hencoded]
          rfl
        rw [hcons] at h
        have hsame := (List.cons_prefix_cons.mp h).1
        rw [← hsame, hvalue] at hle
        omega
      have hcons : bytesOf (d :: text) = UInt8.ofNat d.toNat :: bytesOf text := by
        rw [bytesOf, List.flatMap_cons, utf8EncodeChar_ascii hd]
        rfl
      rw [hcons] at h
      obtain ⟨hsame, hrest⟩ := List.cons_prefix_cons.mp h
      have hchar : c = d := by
        have hnumber := congrArg UInt8.toNat hsame
        rw [hvalue, UInt8.toNat_ofNat'] at hnumber
        have heq : c.toNat = d.toNat := by omega
        rw [← Char.ofNat_toNat c, heq, Char.ofNat_toNat]
      rw [hchar]
      exact List.cons_prefix_cons.mpr ⟨rfl, ih hfirst hrest⟩

/-- Every character takes at least one byte. -/
lemma length_le_bytesOf (text : List Char) : text.length ≤ (bytesOf text).length := by
  induction text with
  | nil => exact le_rfl
  | cons c text ih =>
    have hpos := List.length_pos_of_ne_nil (String.utf8EncodeChar_ne_nil (c := c))
    rw [bytesOf, List.flatMap_cons, List.length_append, List.length_cons]
    unfold bytesOf at ih
    omega

/-- Only NUL is encoded with a zero byte. -/
lemma zero_mem_utf8EncodeChar {c : Char} : 0 ∈ String.utf8EncodeChar c ↔ c = '\x00' := by
  have hbyte (n : ℕ) : 0 = UInt8.ofNat n ↔ n % 256 = 0 := by
    rw [eq_comm, ← UInt8.toNat_inj, UInt8.toNat_ofNat']
    rfl
  constructor
  · intro h
    have hzero : c.val.toNat = 0 := by
      unfold String.utf8EncodeChar at h
      dsimp only at h
      split_ifs at h with hone htwo hthree <;>
        simp only [List.mem_cons, List.not_mem_nil, or_false, hbyte] at h <;> omega
    exact Char.toNat_inj.mp hzero
  · rintro rfl
    decide

/-- The encoding of a text has a zero byte exactly when the text has a NUL. -/
lemma zero_mem_utf8 {text : String} : 0 ∈ utf8 text ↔ '\x00' ∈ text.toList := by
  simp [utf8_eq_flatMap, zero_mem_utf8EncodeChar]

lemma length_utf8 (text : String) : (utf8 text).length = text.utf8ByteSize := rfl

/-- The bytes of a list of characters. -/
lemma length_utf8_ofList (chars : List Char) :
    (utf8 (String.ofList chars)).length = (chars.map Char.utf8Size).sum := by
  simp [utf8_eq_flatMap, List.length_flatMap]

/-! ### Plain texts -/

/-- A nonempty text without NUL. -/
structure Plain (text : String) : Prop where
  nonempty : text ≠ ""
  noNul : '\x00' ∉ text.toList

lemma plain_iff {text : String} : Plain text ↔ text.toList ≠ [] ∧ '\x00' ∉ text.toList := by
  rw [Ne, String.toList_eq_nil_iff]
  exact ⟨fun h => ⟨h.nonempty, h.noNul⟩, fun h => ⟨h.1, h.2⟩⟩

lemma plain_iff_utf8 {text : String} : Plain text ↔ utf8 text ≠ [] ∧ 0 ∉ utf8 text := by
  rw [Ne, utf8_eq_nil_iff, zero_mem_utf8]
  exact ⟨fun h => ⟨h.nonempty, h.noNul⟩, fun h => ⟨h.1, h.2⟩⟩

instance (text : String) : Decidable (Plain text) := decidable_of_iff _ plain_iff_utf8.symm

lemma Plain.append {text more : String} (h : Plain text) (hmore : '\x00' ∉ more.toList) :
    Plain (text ++ more) := by
  obtain ⟨hne, hnul⟩ := plain_iff.mp h
  refine plain_iff.mpr ⟨?_, ?_⟩
  · simp [hne]
  · simp [hnul, hmore]

/-- A plain text within the bound fits. -/
lemma Plain.fits {text : String} {maximum : ℕ} (h : Plain text)
    (hbound : (utf8 text).length ≤ maximum) : TextFits text maximum :=
  ⟨h.nonempty, hbound, fun hzero => h.noNul (zero_mem_utf8.mp hzero)⟩

/-- What `repr` shows of a text is plain: it is quoted, and a NUL is escaped. -/
lemma plain_reprText (text : String) : Plain (reprText text) := by
  refine plain_iff.mpr ⟨?_, ?_⟩
  · rw [reprText, String.toList_ofList]
    exact List.cons_ne_nil _ _
  · rw [reprText, String.toList_ofList]
    exact Python.nul_notMem_repr text.toList

/-! ### Bounded diagnostics -/

lemma takeBytes_sublist (n : ℕ) (chars : List Char) : (takeBytes n chars).Sublist chars := by
  induction chars generalizing n with
  | nil => exact List.Sublist.refl _
  | cons c chars ih =>
    unfold takeBytes
    split_ifs
    · exact (ih _).cons_cons c
    · exact List.nil_sublist _

lemma sum_takeBytes_le (n : ℕ) (chars : List Char) :
    ((takeBytes n chars).map Char.utf8Size).sum ≤ n := by
  induction chars generalizing n with
  | nil => exact Nat.zero_le n
  | cons c chars ih =>
    unfold takeBytes
    split_ifs with hfits
    · have hrest := ih (n - c.utf8Size)
      simp only [List.map_cons, List.sum_cons]
      omega
    · exact Nat.zero_le n

/-- A plain text fits a diagnostic once it is bounded. -/
theorem Plain.boundedDiagnostic {text : String} (h : Plain text) :
    TextFits (boundedDiagnostic text) maxDiagnostic := by
  unfold QfwSlurm.boundedDiagnostic
  split_ifs with hbound
  · exact h.fits hbound
  · obtain ⟨hne, hnul⟩ := plain_iff.mp h
    obtain ⟨c, chars, hchars⟩ := List.exists_cons_of_ne_nil hne
    have hfirst : c.utf8Size ≤ maxDiagnostic := c.utf8Size_le_four.trans (by decide)
    have hplain : Plain (String.ofList (takeBytes maxDiagnostic text.toList)) := by
      refine plain_iff.mpr ⟨?_, ?_⟩
      · simp [hchars, takeBytes, hfirst]
      · rw [String.toList_ofList]
        exact fun hmem => hnul ((takeBytes_sublist _ _).subset hmem)
    refine hplain.fits ?_
    rw [length_utf8_ofList]
    exact sum_takeBytes_le _ _

end QfwSlurm
