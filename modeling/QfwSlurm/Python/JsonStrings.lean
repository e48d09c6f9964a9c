import QfwSlurm.Python.Json

/-!
# The strings of a document are closed

The scanner leaves no string open: `inString` follows the quotes of a text, and `loads_closed` says
that they are balanced in every document.  A text in which they are not is therefore refused,
whatever else it contains.
-/

namespace Python

/-! ### Quotes -/

/-- Whether the end of the text lies within a string, when its beginning does or does not; `none`
where a backslash stands outside of a string. -/
def inString : Bool → List Char → Option Bool
  | inside, [] => some inside
  | false, c :: rest => if c = '\\' then none else inString (c = '"') rest
  | true, c :: rest =>
    if c = '"' then inString false rest
    else if c = '\\' then
      match rest with
      | [] => none
      | _ :: rest => inString true rest
    else inString true rest

/-- A character that neither opens nor closes a string and is no backslash. -/
def Ordinary (c : Char) : Prop := c ≠ '"' ∧ c ≠ '\\'

instance (c : Char) : Decidable (Ordinary c) := inferInstanceAs (Decidable (_ ∧ _))

lemma inString_cons {c : Char} (h : Ordinary c) (inside : Bool) (rest : List Char) :
    inString inside (c :: rest) = inString inside rest := by
  cases inside
  · rw [inString, if_neg h.2, decide_eq_false h.1]
  · rw [inString.eq_def]
    simp [h.1, h.2]

lemma inString_append {text : List Char} (h : ∀ c ∈ text, Ordinary c) (inside : Bool)
    (rest : List Char) : inString inside (text ++ rest) = inString inside rest := by
  induction text with
  | nil => rfl
  | cons c text ih =>
    rw [List.cons_append, inString_cons (h c List.mem_cons_self)]
    exact ih fun d hd => h d (List.mem_cons_of_mem c hd)

lemma inString_open (rest : List Char) : inString false ('"' :: rest) = inString true rest := rfl

lemma inString_close (rest : List Char) : inString true ('"' :: rest) = inString false rest := by
  rw [inString.eq_def]
  rfl

lemma inString_escape (c : Char) (rest : List Char) :
    inString true ('\\' :: c :: rest) = inString true rest := by
  rw [inString.eq_def]
  rfl

/-- Hexadecimal digits are ordinary. -/
lemma ordinary_of_hexValue {c : Char} {n : ℕ} (h : hexValue c = some n) : Ordinary c := by
  constructor <;> rintro rfl <;> exact absurd h.symm (by simp [hexValue])

lemma ordinary_of_codeUnit {a b c d : Char} {n : ℕ} (h : codeUnit a b c d = some n) :
    ∀ e ∈ [a, b, c, d], Ordinary e := by
  simp only [codeUnit, Option.bind_eq_bind, Option.bind_eq_some_iff] at h
  obtain ⟨_, ha, _, hb, _, hc, _, hd, -⟩ := h
  intro e he
  simp only [List.mem_cons, List.not_mem_nil, or_false] at he
  rcases he with rfl | rfl | rfl | rfl
  · exact ordinary_of_hexValue ha
  · exact ordinary_of_hexValue hb
  · exact ordinary_of_hexValue hc
  · exact ordinary_of_hexValue hd

/-- A string is closed where the scanner leaves it. -/
lemma inString_scanString {text value rest : List Char} (h : scanString text = some (value, rest)) :
    inString true text = inString false rest := by
  fun_induction scanString text generalizing value rest with
  | case1 => cases h
  | case2 tail =>
    cases h
    exact inString_close tail
  | case3 => cases h
  | case4 a b c d tail hne ihpair ih =>
    simp only [Option.bind_eq_bind, Option.bind_eq_some_iff] at h
    obtain ⟨unit, hunit, h⟩ := h
    have hdigits := ordinary_of_codeUnit hunit
    rw [inString_escape]
    refine (inString_append hdigits true tail).trans ?_
    split at h
    · split at h
      next e f g i rest =>
        simp only [Option.bind_eq_some_iff] at h
        obtain ⟨low, hlow, h⟩ := h
        split at h
        · simp only [Option.bind_eq_some_iff] at h
          obtain ⟨⟨_, _⟩, hscan, hvalue⟩ := h
          cases hvalue
          rw [inString_escape]
          refine (inString_append (ordinary_of_codeUnit hlow) true rest).trans ?_
          exact ihpair hscan
        · cases h
      · cases h
    · simp only [Option.bind_eq_some_iff] at h
      obtain ⟨⟨_, _⟩, hscan, hvalue⟩ := h
      cases hvalue
      exact ih hscan
  | case5 => cases h
  | case6 e tail he hne ih =>
    simp only [Option.bind_eq_bind, Option.bind_eq_some_iff] at h
    obtain ⟨_, -, ⟨_, _⟩, hscan, hvalue⟩ := h
    cases hvalue
    rw [inString_escape]
    exact ih hscan
  | case7 => cases h
  | case8 c tail hquote hslash hcontrol ih =>
    simp only [Option.bind_eq_bind, Option.bind_eq_some_iff] at h
    obtain ⟨⟨_, _⟩, hscan, hvalue⟩ := h
    cases hvalue
    rw [inString_cons ⟨hquote, hslash⟩]
    exact ih hscan

/-! ### The rest of a document -/

lemma ordinary_of_isJsonDigit {c : Char} (h : isJsonDigit c = true) : Ordinary c := by
  constructor <;> rintro rfl <;> exact absurd h (by decide)

lemma ordinary_of_isJsonSpace {c : Char} (h : isJsonSpace c = true) : Ordinary c := by
  constructor <;> rintro rfl <;> exact absurd h (by decide)

/-- White space contains no quotes. -/
lemma inString_skipSpace (inside : Bool) (text : List Char) :
    inString inside (skipSpace text) = inString inside text := by
  have hspace : ∀ c ∈ text.takeWhile isJsonSpace, Ordinary c := fun c hc =>
    ordinary_of_isJsonSpace (List.mem_takeWhile_imp hc)
  have hskip := inString_append hspace inside (skipSpace text)
  rwa [skipSpace, List.takeWhile_append_dropWhile, eq_comm] at hskip

/-- A scanner that takes ordinary characters from the beginning of a text. -/
def TakesOrdinary (taken text : List Char) : Prop := taken <+: text ∧ ∀ c ∈ taken, Ordinary c

lemma TakesOrdinary.append {taken more text : List Char} (h : TakesOrdinary taken text)
    (hmore : TakesOrdinary more (text.drop taken.length)) : TakesOrdinary (taken ++ more) text := by
  obtain ⟨⟨rest, rfl⟩, hordinary⟩ := h
  rw [List.drop_left] at hmore
  obtain ⟨⟨tail, rfl⟩, hmore⟩ := hmore
  refine ⟨⟨tail, List.append_assoc ..⟩, fun c hc => ?_⟩
  rcases List.mem_append.mp hc with hc | hc
  · exact hordinary c hc
  · exact hmore c hc

lemma TakesOrdinary.inString {taken text : List Char} (h : TakesOrdinary taken text)
    (inside : Bool) : inString inside text = inString inside (text.drop taken.length) := by
  obtain ⟨⟨rest, rfl⟩, hordinary⟩ := h
  rw [List.drop_left]
  exact inString_append hordinary inside rest

lemma takesOrdinary_nil (text : List Char) : TakesOrdinary [] text :=
  ⟨List.nil_prefix, by simp⟩

lemma takesOrdinary_cons {c : Char} {taken text : List Char} (hc : Ordinary c)
    (h : TakesOrdinary taken text) : TakesOrdinary (c :: taken) (c :: text) := by
  refine ⟨List.cons_prefix_cons.mpr ⟨rfl, h.1⟩, fun d hd => ?_⟩
  rcases List.mem_cons.mp hd with rfl | hd
  · exact hc
  · exact h.2 d hd

lemma takesOrdinary_digits (text : List Char) :
    TakesOrdinary (text.takeWhile isJsonDigit) text :=
  ⟨List.takeWhile_prefix _, fun _ hc => ordinary_of_isJsonDigit (List.mem_takeWhile_imp hc)⟩

lemma takesOrdinary_integerDigits (text : List Char) :
    TakesOrdinary (integerDigits text) text := by
  cases text with
  | nil => exact takesOrdinary_nil []
  | cons c rest =>
    rw [integerDigits]
    split
    next hzero =>
      subst hzero
      exact takesOrdinary_cons (by decide) (takesOrdinary_nil rest)
    next => exact takesOrdinary_digits (c :: rest)

lemma takesOrdinary_fractionText (text : List Char) :
    TakesOrdinary (fractionText text) text := by
  cases text with
  | nil => exact takesOrdinary_nil []
  | cons c rest =>
    rw [fractionText]
    split
    next hpoint =>
      rw [hpoint.1]
      exact takesOrdinary_cons (by decide) (takesOrdinary_digits rest)
    next => exact takesOrdinary_nil _

lemma takesOrdinary_exponentText (text : List Char) :
    TakesOrdinary (exponentText text) text := by
  cases text with
  | nil => exact takesOrdinary_nil []
  | cons c rest =>
    have hsign : TakesOrdinary (exponentSign rest) rest := by
      cases rest with
      | nil => exact takesOrdinary_nil []
      | cons d rest =>
        rw [exponentSign]
        split
        next hd =>
          refine takesOrdinary_cons ?_ (takesOrdinary_nil rest)
          rcases hd with rfl | rfl <;> decide
        next => exact takesOrdinary_nil _
    rw [exponentText]
    split
    next he =>
      refine takesOrdinary_cons ?_ (hsign.append (takesOrdinary_digits _))
      rcases he.1 with rfl | rfl <;> decide
    next => exact takesOrdinary_nil _

/-- A number contains no quotes. -/
lemma inString_scanNumber {text rest : List Char} {value : Json}
    (h : scanNumber text = some (value, rest)) : inString false text = inString false rest := by
  have hsign : TakesOrdinary (if text.head? = some '-' then ['-'] else []) text := by
    split
    next hminus =>
      cases text with
      | nil => cases hminus
      | cons c text =>
        cases hminus
        exact takesOrdinary_cons (by decide) (takesOrdinary_nil text)
    next => exact takesOrdinary_nil text
  have hdigits := hsign.append (takesOrdinary_integerDigits _)
  have hnumber := (hdigits.append (takesOrdinary_fractionText _)).append
    (takesOrdinary_exponentText _)
  have hrest := hnumber.inString false
  unfold scanNumber at h
  generalize (if text.head? = some '-' then ['-'] else []) = sign at h hrest
  dsimp only at h
  split at h
  · cases h
  · split at h
    · split at h
      · cases h
      · cases h
        exact hrest
    · cases h
      exact hrest

lemma constants_ordinary :
    ∀ constant ∈ (constants : List (List Char × Json)), ∀ c ∈ constant.1, Ordinary c := by
  intro constant hconstant
  simp only [constants, List.mem_cons, List.not_mem_nil, or_false] at hconstant
  rcases hconstant with rfl | rfl | rfl | rfl | rfl | rfl <;>
    exact List.forall_iff_forall_mem.mp (by decide)

lemma inString_scanScalar {text rest : List Char} {value : Json}
    (h : scanScalar text = some (value, rest)) : inString false text = inString false rest := by
  unfold scanScalar at h
  split at h
  next constant hfind =>
    cases h
    have hmem : constant ∈ constants := List.mem_of_find?_eq_some hfind
    have hprefix := List.find?_some hfind
    exact TakesOrdinary.inString
      ⟨List.isPrefixOf_iff_prefix.mp hprefix, constants_ordinary constant hmem⟩ false
  next => exact inString_scanNumber h

section Scanner

/-- What a scanner takes leaves no string open. -/
def TakesClosed {β : Type} (item : List Char → Option (β × List Char)) : Prop :=
  ∀ ⦃text x rest⦄, item text = some (x, rest) → inString false text = inString false rest

variable {β : Type} {item : List Char → Option (β × List Char)} {close : Char}

/-- A token of one character, with the white space before it. -/
lemma inString_token {c : Char} {text rest : List Char} (hc : Ordinary c)
    (h : skipSpace text = c :: rest) : inString false text = inString false rest := by
  rw [← inString_skipSpace, h, inString_cons hc]

lemma TakesClosed.scanSeparated (h : TakesClosed item) (hclose : Ordinary close) (fuel : ℕ) :
    TakesClosed (scanSeparated item close fuel) := by
  induction fuel with
  | zero =>
    intro text xs rest hscan
    cases hscan
  | succ fuel ih =>
    intro text xs rest hscan
    rw [Python.scanSeparated, Option.bind_eq_bind, Option.bind_eq_some_iff] at hscan
    obtain ⟨⟨x, tail⟩, hitem, hscan⟩ := hscan
    rw [h hitem]
    dsimp only at hscan
    split at hscan
    next => cases hscan
    next c after hskip =>
      split at hscan
      next hend =>
        cases hscan
        exact inString_token (hend ▸ hclose) hskip
      next =>
        split at hscan
        next hcomma =>
          obtain ⟨⟨more, _⟩, hmore, hvalue⟩ := Option.bind_eq_some_iff.mp hscan
          cases hvalue
          rw [inString_token (hcomma ▸ by decide) hskip, ← inString_skipSpace]
          exact ih hmore
        next => cases hscan

lemma TakesClosed.scanBracketed (h : TakesClosed item) (hclose : Ordinary close) :
    TakesClosed (scanBracketed item close) := by
  intro text xs rest hscan
  rw [Python.scanBracketed] at hscan
  split at hscan
  next hempty =>
    cases hscan
    exact inString_token hclose (List.eq_cons_of_mem_head? hempty)
  next =>
    rw [← inString_skipSpace]
    exact h.scanSeparated hclose _ hscan

lemma TakesClosed.scanMember {value : List Char → Option (Json × List Char)}
    (h : TakesClosed value) : TakesClosed (scanMember scanString value) := by
  intro text member rest hscan
  cases text with
  | nil => cases hscan
  | cons c text =>
    rw [Python.scanMember] at hscan
    split at hscan
    next => cases hscan
    next hquote =>
      rw [not_not] at hquote
      subst hquote
      obtain ⟨⟨key, tail⟩, hkey, hscan⟩ := Option.bind_eq_some_iff.mp hscan
      rw [inString_open, inString_scanString hkey]
      dsimp only at hscan
      split at hscan
      next => cases hscan
      next colon after hskip =>
        split at hscan
        next => cases hscan
        next hcolon =>
          rw [not_not] at hcolon
          obtain ⟨⟨found, _⟩, hfound, hvalue⟩ := Option.bind_eq_some_iff.mp hscan
          cases hvalue
          rw [inString_token (hcolon ▸ by decide) hskip, ← inString_skipSpace]
          exact h hfound

/-- The scanner leaves no string open. -/
lemma takesClosed_scan (fuel : ℕ) : TakesClosed (scan scanString fuel) := by
  induction fuel with
  | zero =>
    intro text value rest hscan
    cases hscan
  | succ fuel ih =>
    intro text value rest hscan
    cases text with
    | nil => cases hscan
    | cons c text =>
      rw [scan] at hscan
      split at hscan
      next hquote =>
        obtain ⟨⟨string, _⟩, hstring, hvalue⟩ := Option.map_eq_some_iff.mp hscan
        cases hvalue
        rw [hquote, inString_open]
        exact inString_scanString hstring
      next =>
        split at hscan
        next hbracket =>
          obtain ⟨⟨items, _⟩, hitems, hvalue⟩ := Option.map_eq_some_iff.mp hscan
          cases hvalue
          rw [inString_cons (hbracket ▸ by decide)]
          exact ih.scanBracketed (by decide) hitems
        next =>
          split at hscan
          next hbrace =>
            obtain ⟨⟨members, _⟩, hmembers, hvalue⟩ := Option.map_eq_some_iff.mp hscan
            cases hvalue
            rw [inString_cons (hbrace ▸ by decide)]
            exact ih.scanMember.scanBracketed (by decide) hmembers
          next => exact inString_scanScalar hscan

end Scanner

/-- The strings of a document are closed. -/
theorem loads_closed {text : List Char} {value : Json} (h : loads text = some value) :
    inString false text = some false := by
  obtain ⟨⟨value, rest⟩, hscan, hend⟩ := Option.bind_eq_some_iff.mp h
  dsimp only at hend
  split at hend
  next hempty =>
    rw [← inString_skipSpace, takesClosed_scan _ hscan, ← inString_skipSpace, hempty]
    rfl
  next => cases hend

/-! ### Characters within strings -/

/-- A text that does not end within an escape can be followed by another one. -/
lemma inString_of_eq_some {text : List Char} {inside inside' : Bool}
    (h : inString inside text = some inside') (more : List Char) :
    inString inside (text ++ more) = inString inside' more := by
  fun_induction inString inside text with
  | case1 =>
    cases h
    rfl
  | case2 => cases h
  | case3 c rest hslash ih =>
    rw [List.cons_append, inString, if_neg hslash]
    exact ih h
  | case4 rest ih =>
    rw [List.cons_append, inString_close]
    exact ih h
  | case5 => cases h
  | case6 d rest _ ih =>
    rw [List.cons_append, List.cons_append, inString_escape]
    exact ih h
  | case7 c rest hquote hslash ih =>
    rw [List.cons_append, inString_cons ⟨hquote, hslash⟩]
    exact ih h

/-- What is inside of a string when a text begins inside is outside when it begins outside. -/
lemma inString_opposite {text : List Char} {a b : Bool} (ha : inString true text = some a)
    (hb : inString false text = some b) : a ≠ b := by
  induction text generalizing a b with
  | nil =>
    cases ha
    cases hb
    exact Bool.noConfusion
  | cons c text ih =>
    by_cases hquote : c = '"'
    · subst hquote
      rw [inString_close] at ha
      rw [inString_open] at hb
      exact (ih hb ha).symm
    · by_cases hslash : c = '\\'
      · subst hslash
        cases hb
      · rw [inString_cons ⟨hquote, hslash⟩] at ha hb
        exact ih ha hb

/-- The strings of the text are closed, and the characters of a kind stand within them. -/
structure Encloses (p : Char → Prop) (text : List Char) : Prop where
  closed : inString false text = some false
  inside : ∀ before c after, text = before ++ c :: after → p c → inString false before = some true

section Enclosed

variable {p : Char → Prop} {text more : List Char}

lemma Encloses.append (h : Encloses p text) (hmore : Encloses p more) :
    Encloses p (text ++ more) where
  closed := (inString_of_eq_some h.closed more).trans hmore.closed
  inside before c after hsplit hc := by
    rcases List.append_eq_append_iff.mp hsplit with ⟨rest, rfl, hrest⟩ | ⟨rest, rfl, hrest⟩
    · rw [inString_of_eq_some h.closed]
      exact hmore.inside rest c after hrest hc
    · cases rest with
      | nil =>
        have hnil := hmore.inside [] c after hrest.symm hc
        cases hnil
      | cons d rest =>
        obtain ⟨rfl, -⟩ := List.cons_eq_cons.mp hrest
        exact h.inside before c rest rfl hc

/-- A text outside of strings. -/
lemma Encloses.of_forall (h : ∀ c ∈ text, Ordinary c ∧ ¬ p c) : Encloses p text where
  closed := by
    have happend := inString_append (fun c hc => (h c hc).1) false []
    rwa [List.append_nil] at happend
  inside before c after hsplit hc := absurd hc (h c (by rw [hsplit]; simp)).2

/-- Escapes stay within a string. -/
lemma inString_escapeChar (c : Char) (rest : List Char) :
    inString true (escapeChar c ++ rest) = inString true rest := by
  unfold escapeChar
  split
  · exact inString_escape c rest
  next hplain =>
    split
    next hcontrol =>
      have hdigits : ∀ n < 32, Ordinary (hexDigit (n / 16)) ∧ Ordinary (hexDigit (n % 16)) := by
        decide
      have hdigit := hdigits c.toNat hcontrol
      have hfour : ∀ d ∈ ['0', '0', hexDigit (c.toNat / 16), hexDigit (c.toNat % 16)],
          Ordinary d := by
        intro d hd
        simp only [List.mem_cons, List.not_mem_nil, or_false] at hd
        rcases hd with rfl | rfl | rfl | rfl
        · decide
        · decide
        · exact hdigit.1
        · exact hdigit.2
      exact (inString_escape 'u' _).trans (inString_append hfour true rest)
    next => exact inString_cons (not_or.mp hplain) true rest

lemma inString_flatMap_escapeChar (text rest : List Char) :
    inString true (text.flatMap escapeChar ++ rest) = inString true rest := by
  induction text with
  | nil => rfl
  | cons c text ih => rw [List.flatMap_cons, List.append_assoc, inString_escapeChar, ih]

/-- A character beyond ASCII in an escaped text stands for itself. -/
lemma split_flatMap_escapeChar {text before after : List Char} {c : Char} (hc : 128 ≤ c.toNat)
    (h : text.flatMap escapeChar = before ++ c :: after) :
    ∃ first : List Char, before = first.flatMap escapeChar ∧ c ∈ text := by
  induction text generalizing before with
  | nil => cases before <;> cases h
  | cons d text ih =>
    have hdigits : ∀ n < 32, (hexDigit (n / 16)).toNat < 128 ∧ (hexDigit (n % 16)).toNat < 128 := by
      decide
    rw [List.flatMap_cons] at h
    rcases List.append_eq_append_iff.mp h with ⟨rest, rfl, hrest⟩ | ⟨rest, hescape, hrest⟩
    · obtain ⟨first, rfl, hmem⟩ := ih hrest
      exact ⟨d :: first, rfl, List.mem_cons_of_mem d hmem⟩
    · cases rest with
      | nil =>
        have hnil : text.flatMap escapeChar = [] ++ c :: after := hrest.symm
        obtain ⟨-, -, hmem⟩ := ih hnil
        rw [List.append_nil] at hescape
        exact ⟨[d], by simp [hescape], List.mem_cons_of_mem d hmem⟩
      | cons e rest =>
        -- of the characters of an escape, only the escaped one itself can be beyond ASCII
        obtain ⟨rfl, -⟩ := List.cons_eq_cons.mp hrest
        have hself : escapeChar d = [c] ∧ d = c := by
          have hmem : c ∈ escapeChar d := by rw [hescape]; simp
          unfold escapeChar at hmem ⊢
          split at hmem
          next hquote =>
            rcases List.mem_pair.mp hmem with rfl | rfl
            · exact absurd hc (by decide)
            · rcases hquote with rfl | rfl <;> exact absurd hc (by decide)
          next hquote =>
            split at hmem
            next hcontrol =>
              have hdigit := hdigits d.toNat hcontrol
              simp only [List.mem_cons, List.not_mem_nil, or_false] at hmem
              rcases hmem with rfl | rfl | rfl | rfl | rfl | rfl
              · exact absurd hc (by decide)
              · exact absurd hc (by decide)
              · exact absurd hc (by decide)
              · exact absurd hc (by decide)
              · omega
              · omega
            next hcontrol =>
              rw [if_neg hquote, if_neg hcontrol, List.mem_singleton.mp hmem]
              exact ⟨rfl, rfl⟩
        rw [hself.1] at hescape
        cases before with
        | nil => exact ⟨[], rfl, by rw [hself.2]; exact List.mem_cons_self⟩
        | cons f before =>
          have hlength := congrArg List.length hescape
          simp at hlength

/-- A character beyond ASCII in a quoted text is one of the text. -/
lemma mem_of_mem_quoted {text : List Char} {c : Char} (hc : 128 ≤ c.toNat) (h : c ∈ quoted text) :
    c ∈ text := by
  simp only [Python.quoted, List.mem_cons, List.mem_append, List.not_mem_nil, or_false] at h
  rcases h with rfl | hmem | rfl
  · exact absurd hc (by decide)
  · obtain ⟨before, after, hsplit⟩ := List.append_of_mem hmem
    obtain ⟨-, -, hin⟩ := split_flatMap_escapeChar hc hsplit
    exact hin
  · exact absurd hc (by decide)

/-- It is not escaped. -/
lemma mem_quoted_of_mem {text : List Char} {c : Char} (hc : 128 ≤ c.toNat) (h : c ∈ text) :
    c ∈ quoted text := by
  have hself : c ∈ escapeChar c := by
    have hquote : ¬ (c = '"' ∨ c = '\\') := by
      rintro (rfl | rfl) <;> exact absurd hc (by decide)
    rw [escapeChar, if_neg hquote, if_neg (by omega)]
    exact List.mem_singleton_self c
  exact List.mem_cons_of_mem _ (List.mem_append_left _ (List.mem_flatMap.mpr ⟨c, h, hself⟩))

/-- Control characters are escaped. -/
lemma printable_quoted {text : List Char} {c : Char} (h : c ∈ quoted text) : 32 ≤ c.toNat := by
  simp only [Python.quoted, List.mem_cons, List.mem_append, List.mem_flatMap, List.not_mem_nil,
    or_false] at h
  rcases h with rfl | ⟨d, -, hd⟩ | rfl
  · decide
  · unfold escapeChar at hd
    split at hd
    next hquote =>
      rcases List.mem_pair.mp hd with rfl | rfl
      · decide
      · rcases hquote with rfl | rfl <;> decide
    next =>
      split at hd
      next hcontrol =>
        have hdigits : ∀ n < 32, 32 ≤ (hexDigit (n / 16)).toNat ∧ 32 ≤ (hexDigit (n % 16)).toNat := by
          decide
        have hdigit := hdigits d.toNat hcontrol
        simp only [List.mem_cons, List.not_mem_nil, or_false] at hd
        rcases hd with rfl | rfl | rfl | rfl | rfl | rfl
        · decide
        · decide
        · decide
        · decide
        · exact hdigit.1
        · exact hdigit.2
      next hcontrol =>
        rw [List.mem_singleton.mp hd]
        exact not_lt.mp hcontrol
  · decide

lemma Encloses.quoted (hp : ∀ c, p c → 128 ≤ c.toNat) (text : List Char) :
    Encloses p (quoted text) where
  closed := by
    rw [Python.quoted, inString_open, inString_flatMap_escapeChar, inString_close]
    rfl
  inside before c after hsplit hc := by
    have hhigh := hp c hc
    cases before with
    | nil =>
      obtain ⟨rfl, -⟩ := List.cons_eq_cons.mp hsplit
      exact absurd hhigh (by decide)
    | cons d before =>
      obtain ⟨rfl, hrest⟩ := List.cons_eq_cons.mp hsplit
      rw [inString_open]
      rcases List.append_eq_append_iff.mp hrest with ⟨rest, rfl, hquote⟩ | ⟨rest, hescaped, hquote⟩
      · have hmem : c ∈ ['"'] := by rw [hquote]; simp
        rw [List.mem_singleton.mp hmem] at hhigh
        exact absurd hhigh (by decide)
      · cases rest with
        | nil =>
          obtain ⟨rfl, -⟩ := List.cons_eq_cons.mp hquote
          exact absurd hhigh (by decide)
        | cons e rest =>
          obtain ⟨rfl, -⟩ := List.cons_eq_cons.mp hquote
          obtain ⟨first, rfl, -⟩ := split_flatMap_escapeChar hhigh hescaped
          have hinside := inString_flatMap_escapeChar first []
          rwa [List.append_nil] at hinside

lemma Encloses.commaSeparated (hp : ∀ c, p c → 128 ≤ c.toNat) {texts : List (List Char)}
    (h : ∀ text ∈ texts, Encloses p text) : Encloses p (commaSeparated texts) := by
  have hcomma : Encloses p [','] := Encloses.of_forall fun c hc => by
    rw [List.mem_singleton.mp hc]
    exact ⟨by decide, fun hbad => absurd (hp _ hbad) (by decide)⟩
  induction texts with
  | nil => exact Encloses.of_forall (by simp [Python.commaSeparated])
  | cons text texts ih =>
    have hrest := ih fun more hmore => h more (List.mem_cons_of_mem _ hmore)
    cases texts with
    | nil => exact h text List.mem_cons_self
    | cons next texts =>
      exact (h text List.mem_cons_self).append (hcomma.append hrest)

/-- What stands after such a character is no document. -/
theorem Encloses.loads_eq_none (hp : ∀ c, p c → 128 ≤ c.toNat) {before after : List Char} {c : Char}
    (h : Encloses p (before ++ c :: after)) (hc : p c) : loads after = none := by
  have hordinary : Ordinary c := by
    constructor <;> rintro rfl <;> exact absurd (hp _ hc) (by decide)
  have hclosed := h.closed
  rw [inString_of_eq_some (h.inside before c after rfl hc), inString_cons hordinary] at hclosed
  cases hload : loads after with
  | none => rfl
  | some value => exact absurd rfl (inString_opposite hclosed (loads_closed hload))

end Enclosed

end Python
