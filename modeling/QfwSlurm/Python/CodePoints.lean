import QfwSlurm.Python.Json

/-!
# Strings as code points

A `str` of Python is any sequence of code points: surrogates may stand in it, alone or next to each
other.  `json.dumps` writes them as escapes, like the code points beyond the basic plane, for which
it writes a pair of surrogates; `json.loads` takes two escapes for one code point wherever they are
such a pair.  A string therefore comes back `merged`, and it comes back as it was exactly when no
high surrogate stands directly before a low one (`merged_eq_iff`).
-/

namespace Python

/-! ### Code points -/

abbrev CodePoint := Fin 0x110000

instance instNeZeroCodePoints : NeZero 0x110000 := ⟨by decide⟩

/-- The strings of Python. -/
abbrev Str := List CodePoint

/-- The string of a text without surrogates. -/
def Str.ofString (text : String) : Str := text.toList.map fun c => Fin.ofNat _ c.toNat

/-- The first half of a surrogate pair. -/
def CodePoint.isHigh (p : CodePoint) : Bool := 0xD800 ≤ p.val && p.val < 0xDC00

/-- The second half of a surrogate pair. -/
def CodePoint.isLow (p : CodePoint) : Bool := 0xDC00 ≤ p.val && p.val < 0xE000

/-- The code point for which a surrogate pair stands. -/
def CodePoint.joined (high low : CodePoint) : CodePoint :=
  Fin.ofNat _ (0x10000 + (high.val - 0xD800) * 0x400 + (low.val - 0xDC00))

/-- The string with every surrogate pair replaced by its code point. -/
def merged : Str → Str
  | high :: low :: rest =>
    if high.isHigh ∧ low.isLow then CodePoint.joined high low :: merged rest
    else high :: merged (low :: rest)
  | text => text

/-- No high surrogate stands directly before a low one. -/
def Unpaired (text : Str) : Prop :=
  text.IsChain fun p q => ¬ (CodePoint.isHigh p = true ∧ CodePoint.isLow q = true)

instance (text : Str) : Decidable (Unpaired text) :=
  inferInstanceAs (Decidable (List.IsChain _ text))

lemma length_merged_le (text : Str) : (merged text).length ≤ text.length := by
  fun_induction merged text with
  | case1 high low rest hpair ih =>
    rw [List.length_cons, List.length_cons, List.length_cons]
    omega
  | case2 high low rest hpair ih =>
    rw [List.length_cons, List.length_cons]
    exact Nat.succ_le_succ ih
  | case3 text => exact le_rfl

/-- A string without a surrogate pair is left as it is, and no other one. -/
theorem merged_eq_iff (text : Str) : merged text = text ↔ Unpaired text := by
  fun_induction merged text with
  | case1 high low rest hpair ih =>
    refine iff_of_false (fun heq => ?_) (fun hchain => ?_)
    · have hlength := congrArg List.length heq
      have hle := length_merged_le rest
      rw [List.length_cons, List.length_cons, List.length_cons] at hlength
      omega
    · exact (List.isChain_cons_cons.mp hchain).1 hpair
  | case2 high low rest hpair ih =>
    rw [Unpaired, List.isChain_cons_cons, List.cons_inj_right, ih]
    exact (and_iff_right hpair).symm
  | case3 text hshort =>
    refine iff_of_true rfl ?_
    rcases text with _ | ⟨p, _ | ⟨q, rest⟩⟩
    · exact List.IsChain.nil
    · exact List.IsChain.singleton p
    · exact absurd rfl (hshort p q rest)

/-- Texts of characters contain no surrogates. -/
lemma unpaired_ofString (text : String) : Unpaired (Str.ofString text) := by
  have hlow (c : Char) : CodePoint.isHigh (Fin.ofNat _ c.toNat) = false := by
    have hvalid : c.toNat < 0xD800 ∨ 0xDFFF < c.toNat ∧ c.toNat < 0x110000 := c.valid
    have hval : (Fin.ofNat 0x110000 c.toNat).val = c.toNat := Nat.mod_eq_of_lt (by omega)
    rw [CodePoint.isHigh, hval, Bool.and_eq_false_iff, decide_eq_false_iff_not,
      decide_eq_false_iff_not]
    omega
  rw [Unpaired, Str.ofString]
  induction text.toList with
  | nil => exact List.IsChain.nil
  | cons c chars ih =>
    rcases chars with _ | ⟨d, chars⟩
    · exact List.IsChain.singleton _
    · exact List.isChain_cons_cons.mpr ⟨fun hpair => Bool.false_ne_true ((hlow c).symm.trans hpair.1), ih⟩

/-! ### Escapes -/

/-- The four digits of a code unit. -/
def unitDigits (n : ℕ) : List Char :=
  [hexDigit (n / 0x1000 % 16), hexDigit (n / 0x100 % 16), hexDigit (n / 0x10 % 16),
    hexDigit (n % 16)]

/-- `\uXXXX` -/
def unitEscape (n : ℕ) : List Char := '\\' :: 'u' :: unitDigits n

/-- How `py_encode_basestring_ascii` writes a code point. -/
def escapePoint (p : CodePoint) : List Char :=
  if p.val = 0x22 then ['\\', '"']
  else if p.val = 0x5C then ['\\', '\\']
  else if p.val = 0x0A then ['\\', 'n']
  else if p.val = 0x0D then ['\\', 'r']
  else if p.val = 0x09 then ['\\', 't']
  else if p.val = 0x0C then ['\\', 'f']
  else if p.val = 0x08 then ['\\', 'b']
  else if 0x20 ≤ p.val ∧ p.val ≤ 0x7E then [Char.ofNat p.val]
  else if p.val < 0x10000 then unitEscape p.val
  else unitEscape (0xD800 + (p.val - 0x10000) / 0x400) ++
    unitEscape (0xDC00 + (p.val - 0x10000) % 0x400)

/-- A string with its quotes. -/
def quotedStr (text : Str) : List Char := '"' :: (text.flatMap escapePoint ++ ['"'])

/-- What a string of a document consists of. -/
inductive StrToken where
  /-- A character, or the escape of one. -/
  | plain (p : CodePoint)
  /-- A code unit in hexadecimal digits. -/
  | unit (p : CodePoint)

def StrToken.point : StrToken → CodePoint
  | plain p => p
  | unit p => p

/-- The tokens of a string, after the opening quote. -/
def scanTokens : List Char → Option (List StrToken × List Char)
  | [] => none
  | c :: rest =>
    if c = '"' then some ([], rest)
    else if c = '\\' then
      match rest with
      | [] => none
      | e :: rest =>
        if e = 'u' then
          match rest with
          | a :: b :: c :: d :: rest => do
            let unit ← codeUnit a b c d
            let (tokens, rest) ← scanTokens rest
            return (.unit (Fin.ofNat _ unit) :: tokens, rest)
          | _ => none
        else do
          let escape ← simpleEscape e
          let (tokens, rest) ← scanTokens rest
          return (.plain (Fin.ofNat _ escape.toNat) :: tokens, rest)
    else if c.toNat < 32 then none
    else do
      let (tokens, rest) ← scanTokens rest
      return (.plain (Fin.ofNat _ c.toNat) :: tokens, rest)

/-- Two escapes that are a surrogate pair stand for one code point. -/
def joinTokens : List StrToken → Str
  | .unit high :: .unit low :: rest =>
    if high.isHigh ∧ low.isLow then CodePoint.joined high low :: joinTokens rest
    else high :: joinTokens (.unit low :: rest)
  | token :: rest => token.point :: joinTokens rest
  | [] => []

/-- `py_scanstring`, after the opening quote. -/
def scanStr (text : List Char) : Option (Str × List Char) :=
  (scanTokens text).map fun scanned => (joinTokens scanned.1, scanned.2)

/-! ### Reading back -/

/-- The tokens that are written for a code point. -/
def tokensOf (p : CodePoint) : List StrToken :=
  if p.val < 0x20 ∨ 0x7E < p.val then
    if p.val = 0x0A ∨ p.val = 0x0D ∨ p.val = 0x09 ∨ p.val = 0x0C ∨ p.val = 0x08 then [.plain p]
    else if p.val < 0x10000 then [.unit p]
    else [.unit (Fin.ofNat _ (0xD800 + (p.val - 0x10000) / 0x400)),
      .unit (Fin.ofNat _ (0xDC00 + (p.val - 0x10000) % 0x400))]
  else [.plain p]

lemma hexValue_hexDigit : ∀ n < 16, hexValue (hexDigit n) = some n := by decide

/-- The digits of a code unit are read back. -/
lemma codeUnit_unitDigits {n : ℕ} (hn : n < 0x10000) :
    codeUnit (hexDigit (n / 0x1000 % 16)) (hexDigit (n / 0x100 % 16)) (hexDigit (n / 0x10 % 16))
      (hexDigit (n % 16)) = some n := by
  have hdigit (m : ℕ) : hexValue (hexDigit (m % 16)) = some (m % 16) :=
    hexValue_hexDigit (m % 16) (Nat.mod_lt m (by decide))
  rw [codeUnit, hdigit, hdigit, hdigit, hdigit]
  refine congrArg some ?_
  omega

lemma scanTokens_unit {n : ℕ} (hn : n < 0x10000) (rest : List Char) :
    scanTokens (unitEscape n ++ rest) = (scanTokens rest).map fun scanned =>
      (.unit (Fin.ofNat _ n) :: scanned.1, scanned.2) := by
  change scanTokens ('\\' :: 'u' :: _ :: _ :: _ :: _ :: rest) = _
  rw [scanTokens.eq_def]
  cases hrest : scanTokens rest <;> simp [codeUnit_unitDigits hn, hrest]

lemma scanTokens_escape {e c : Char} (he : e ≠ 'u') (hescape : simpleEscape e = some c)
    (rest : List Char) : scanTokens ('\\' :: e :: rest) = (scanTokens rest).map fun scanned =>
      (.plain (Fin.ofNat _ c.toNat) :: scanned.1, scanned.2) := by
  rw [scanTokens.eq_def]
  cases hrest : scanTokens rest <;> simp [he, hescape, hrest]

lemma scanTokens_plain {c : Char} (hquote : c ≠ '"') (hslash : c ≠ '\\') (hcontrol : 32 ≤ c.toNat)
    (rest : List Char) : scanTokens (c :: rest) = (scanTokens rest).map fun scanned =>
      (.plain (Fin.ofNat _ c.toNat) :: scanned.1, scanned.2) := by
  rw [scanTokens.eq_def]
  have hprinted : ¬ c.toNat < 32 := by omega
  cases hrest : scanTokens rest <;> simp [hquote, hslash, hprinted, hrest]

/-- An escaped code point is read back. -/
lemma scanTokens_escapePoint (p : CodePoint) (rest : List Char) :
    scanTokens (escapePoint p ++ rest) = (scanTokens rest).map fun scanned =>
      (tokensOf p ++ scanned.1, scanned.2) := by
  have hescape {e c : Char} (he : e ≠ 'u') (hc : simpleEscape e = some c)
      (hpoint : Fin.ofNat 0x110000 c.toNat = p) (htokens : tokensOf p = [.plain p]) :
      scanTokens ('\\' :: e :: rest) = (scanTokens rest).map fun scanned =>
        (tokensOf p ++ scanned.1, scanned.2) := by
    rw [scanTokens_escape he hc, hpoint, htokens]
    rfl
  have hself : Fin.ofNat 0x110000 p.val = p := Fin.ext (Nat.mod_eq_of_lt p.isLt)
  unfold escapePoint
  split_ifs with hquote hslash hline hreturn htab hform hback hplain hbasic
  · obtain rfl : p = 0x22 := Fin.ext hquote
    exact hescape (by decide) rfl rfl rfl
  · obtain rfl : p = 0x5C := Fin.ext hslash
    exact hescape (by decide) rfl rfl rfl
  · obtain rfl : p = 0x0A := Fin.ext hline
    exact hescape (by decide) rfl rfl rfl
  · obtain rfl : p = 0x0D := Fin.ext hreturn
    exact hescape (by decide) rfl rfl rfl
  · obtain rfl : p = 0x09 := Fin.ext htab
    exact hescape (by decide) rfl rfl rfl
  · obtain rfl : p = 0x0C := Fin.ext hform
    exact hescape (by decide) rfl rfl rfl
  · obtain rfl : p = 0x08 := Fin.ext hback
    exact hescape (by decide) rfl rfl rfl
  · have hval : (Char.ofNat p.val).toNat = p.val := by
      have hvalid : p.val.isValidChar := .inl (by omega)
      rw [Char.ofNat, dif_pos hvalid]
      rfl
    have hne {c : Char} (hc : c.toNat ≠ p.val) : Char.ofNat p.val ≠ c := by
      rintro rfl
      exact hc hval
    rw [List.singleton_append, scanTokens_plain (hne (Ne.symm hquote)) (hne (Ne.symm hslash))
      (hplain.1.trans_eq hval.symm), hval, hself, tokensOf, if_neg (by omega)]
    rfl
  · rw [scanTokens_unit hbasic, hself, tokensOf, if_pos (by omega), if_neg (by omega),
      if_pos hbasic]
    rfl
  · have hp := p.isLt
    have hhigh : (p.val - 0x10000) / 0x400 < 0x400 := by omega
    have hlow : (p.val - 0x10000) % 0x400 < 0x400 := Nat.mod_lt _ (by decide)
    rw [List.append_assoc, scanTokens_unit (by omega), scanTokens_unit (by omega), Option.map_map,
      tokensOf, if_pos (by omega), if_neg (by omega), if_neg hbasic]
    rfl

/-- The tokens of a string are read back. -/
lemma scanTokens_flatMap (text : Str) (rest : List Char) :
    scanTokens (text.flatMap escapePoint ++ '"' :: rest) = some (text.flatMap tokensOf, rest) := by
  induction text with
  | nil =>
    rw [List.flatMap_nil, List.nil_append, scanTokens.eq_def]
    rfl
  | cons p text ih =>
    rw [List.flatMap_cons, List.append_assoc, scanTokens_escapePoint, ih]
    rfl

section Joining

variable {p q : CodePoint}

lemma isHigh_iff : p.isHigh = true ↔ 0xD800 ≤ p.val ∧ p.val < 0xDC00 := by
  rw [CodePoint.isHigh, Bool.and_eq_true, decide_eq_true_eq, decide_eq_true_eq]

lemma isLow_iff : p.isLow = true ↔ 0xDC00 ≤ p.val ∧ p.val < 0xE000 := by
  rw [CodePoint.isLow, Bool.and_eq_true, decide_eq_true_eq, decide_eq_true_eq]

/-- A code point beyond the basic plane is what its surrogate pair stands for. -/
lemma joined_halves (hp : ¬ p.val < 0x10000) {high low : CodePoint}
    (hhigh : high = Fin.ofNat _ (0xD800 + (p.val - 0x10000) / 0x400))
    (hlow : low = Fin.ofNat _ (0xDC00 + (p.val - 0x10000) % 0x400)) :
    high.isHigh = true ∧ low.isLow = true ∧ CodePoint.joined high low = p := by
  have hlt := p.isLt
  have hhighval : high.val = 0xD800 + (p.val - 0x10000) / 0x400 := by
    rw [hhigh]
    exact Nat.mod_eq_of_lt (by omega)
  have hlowval : low.val = 0xDC00 + (p.val - 0x10000) % 0x400 := by
    rw [hlow]
    exact Nat.mod_eq_of_lt (by omega)
  refine ⟨isHigh_iff.mpr (by omega), isLow_iff.mpr (by omega), Fin.ext ?_⟩
  rw [CodePoint.joined, hhighval, hlowval]
  refine (Nat.mod_eq_of_lt ?_).trans ?_ <;> omega

/-- A code point comes back unless the next token makes a surrogate pair with it. -/
lemma joinTokens_append {tokens : List StrToken}
    (h : ∀ q rest, tokens = .unit q :: rest → ¬ (p.isHigh = true ∧ q.isLow = true)) :
    joinTokens (tokensOf p ++ tokens) = p :: joinTokens tokens := by
  unfold tokensOf
  split_ifs with hescaped hshort hbasic
  · rfl
  · rcases tokens with _ | ⟨_ | q, rest⟩
    · rfl
    · rfl
    · rw [List.singleton_append, joinTokens, if_neg (h q rest rfl)]
  · obtain ⟨hhigh, hlow, hjoined⟩ := joined_halves hbasic rfl rfl
    rw [List.cons_append, List.singleton_append, joinTokens, if_pos ⟨hhigh, hlow⟩, hjoined]
  · rfl

/-- Of the tokens of a code point only a low surrogate's begin with one. -/
lemma eq_of_tokensOf {tokens rest : List StrToken} (h : tokensOf p ++ tokens = .unit q :: rest)
    (hlow : q.isLow = true) : tokensOf p = [.unit p] ∧ q = p := by
  unfold tokensOf at h ⊢
  split_ifs at h ⊢ with hescaped hshort hbasic
  · cases h
  · exact ⟨rfl, (StrToken.unit.inj (List.cons.inj h).1).symm⟩
  · obtain ⟨hhigh, -⟩ := joined_halves hbasic rfl rfl
    rw [← StrToken.unit.inj (List.cons.inj h).1, isLow_iff] at hlow
    rw [isHigh_iff] at hhigh
    omega
  · cases h

end Joining

/-- The string that the tokens of a string stand for. -/
lemma joinTokens_flatMap (text : Str) : joinTokens (text.flatMap tokensOf) = merged text := by
  have hunit {p : CodePoint} (hp : 0xD800 ≤ p.val ∧ p.val < 0xE000) : tokensOf p = [.unit p] := by
    rw [tokensOf, if_pos (by omega), if_neg (by omega), if_pos (by omega)]
  fun_induction merged text with
  | case1 high low rest hpair ih =>
    have hhigh := isHigh_iff.mp hpair.1
    have hlow := isLow_iff.mp hpair.2
    rw [List.flatMap_cons, List.flatMap_cons, hunit (by omega), hunit (by omega),
      List.singleton_append, List.singleton_append, joinTokens, if_pos hpair, ih]
  | case2 high low rest hpair ih =>
    rw [List.flatMap_cons, joinTokens_append, ih]
    intro q tokens htokens hboth
    rw [List.flatMap_cons] at htokens
    obtain ⟨-, rfl⟩ := eq_of_tokensOf htokens hboth.2
    exact hpair hboth
  | case3 text hshort =>
    rcases text with _ | ⟨p, _ | ⟨q, rest⟩⟩
    · rfl
    · rw [List.flatMap_cons, List.flatMap_nil, joinTokens_append (by simp)]
      rfl
    · exact absurd rfl (hshort p q rest)

/-- A quoted string is read back with its surrogate pairs merged. -/
theorem scanStr_quotedStr (text : Str) (rest : List Char) :
    scanStr (text.flatMap escapePoint ++ '"' :: rest) = some (merged text, rest) := by
  rw [scanStr, scanTokens_flatMap, Option.map_some, joinTokens_flatMap]

end Python
