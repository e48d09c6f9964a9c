import QfwSlurm.Python.Text
import QfwSlurm.Sequence.Lines

/-!
# Lines of a text in Python

`str.splitlines` and `str.strip`, and the translation of newlines in text mode.  Unicode has more
line boundaries than the line feed, and `splitlines` breaks a text at all of them;
`splitlines_concat` says what that means for the last line.
-/

namespace Python

/-- A line boundary of `str.splitlines`. -/
def isLineBreak (c : Char) : Bool :=
  c.toNat ∈ [0x0A, 0x0B, 0x0C, 0x0D, 0x1C, 0x1D, 0x1E, 0x85, 0x2028, 0x2029]

/-- The lines of a text; after a carriage return, a line feed belongs to the same boundary. -/
def linesFrom : Bool → List Char → List (List Char)
  | _, [] => []
  | afterReturn, c :: rest =>
    if afterReturn && c = '\n' then linesFrom false rest
    else if isLineBreak c then [] :: linesFrom (c = '\r') rest
    else
      match linesFrom false rest with
      | [] => [[c]]
      | line :: lines => (c :: line) :: lines

/-- `str.splitlines` -/
def splitlines (text : List Char) : List (List Char) := linesFrom false text

/-- `str.strip` -/
def strip (text : List Char) : List Char := (text.dropWhile isSpace).rdropWhile isSpace

/-- The newlines of a text as a stream in text mode reads them. -/
def universalNewlines : List Char → List Char
  | [] => []
  | c :: rest =>
    if c = '\r' then
      if rest.head? = some '\n' then universalNewlines rest else '\n' :: universalNewlines rest
    else c :: universalNewlines rest

/-- A text without carriage returns is read as it is. -/
lemma universalNewlines_eq {text : List Char} (h : '\r' ∉ text) :
    universalNewlines text = text := by
  induction text with
  | nil => rfl
  | cons c text ih =>
    rw [List.mem_cons, not_or] at h
    rw [universalNewlines, if_neg (Ne.symm h.1), ih h.2]

/-- A text within one line. -/
lemma linesFrom_line {line : List Char} (h : ∀ c ∈ line, isLineBreak c = false)
    (afterReturn : Bool) (hne : line ≠ []) :
    linesFrom afterReturn (line ++ ['\n']) = [line] := by
  have hbreak : isLineBreak '\n' = true := by decide
  induction line generalizing afterReturn with
  | nil => exact absurd rfl hne
  | cons c line ih =>
    have hc := h c List.mem_cons_self
    have hnewline : ¬ (afterReturn && c = '\n') = true := by
      intro hboth
      have hc' : c = '\n' := of_decide_eq_true (Bool.and_eq_true_iff.mp hboth).2
      rw [hc', hbreak] at hc
      cases hc
    rw [List.cons_append, linesFrom, if_neg hnewline, hc, if_neg Bool.false_ne_true]
    cases line with
    | nil => simp [linesFrom, hbreak]
    | cons d line =>
      rw [ih (fun e he => h e (List.mem_cons_of_mem _ he)) false (List.cons_ne_nil _ _)]

/-- A text without boundaries that is followed by a line feed is one line. -/
theorem splitlines_line {line : List Char} (h : ∀ c ∈ line, isLineBreak c = false)
    (hne : line ≠ []) : splitlines (line ++ ['\n']) = [line] :=
  linesFrom_line h false hne

/-- The last line begins after the last boundary. -/
theorem splitlines_concat (before : List Char) {after : List Char} {boundary : Char}
    (hboundary : isLineBreak boundary = true) (hfeed : boundary ≠ '\n')
    (hafter : ∀ c ∈ after, isLineBreak c = false) (hne : after ≠ []) :
    ∃ lines, splitlines (before ++ boundary :: (after ++ ['\n'])) = lines ++ [after] := by
  have hgeneral (afterReturn : Bool) : ∃ lines,
      linesFrom afterReturn (before ++ boundary :: (after ++ ['\n'])) = lines ++ [after] ∧
        lines ≠ [] := by
    induction before generalizing afterReturn with
    | nil =>
      have hnewline : ¬ (afterReturn && boundary = '\n') = true := fun hboth =>
        hfeed (of_decide_eq_true (Bool.and_eq_true_iff.mp hboth).2)
      refine ⟨[[]], ?_, List.cons_ne_nil _ _⟩
      rw [List.nil_append, linesFrom, if_neg hnewline, if_pos hboundary,
        linesFrom_line hafter _ hne]
      rfl
    | cons c before ih =>
      rw [List.cons_append, linesFrom]
      split
      · exact ih false
      · split
        · obtain ⟨lines, hlines, -⟩ := ih (c = '\r')
          exact ⟨[] :: lines, by rw [hlines]; rfl, List.cons_ne_nil _ _⟩
        · obtain ⟨lines, hlines, hlinesNe⟩ := ih false
          obtain ⟨line, lines, rfl⟩ := List.exists_cons_of_ne_nil hlinesNe
          exact ⟨(c :: line) :: lines, by rw [hlines]; rfl, List.cons_ne_nil _ _⟩
  obtain ⟨lines, hlines, -⟩ := hgeneral false
  exact ⟨lines, hlines⟩

/-- The last one of the elements that are not blank. -/
lemma getLast_filter_concat {lines : List (List Char)} {last : List Char}
    {p : List Char → Bool} (h : p last = true) :
    ((lines ++ [last]).filter p).getLast? = some last := by
  rw [List.filter_append, List.filter_cons_of_pos h, List.filter_nil, List.getLast?_concat]

/-- A text with another character than white space is not stripped to nothing. -/
lemma strip_ne_nil {text : List Char} {c : Char} (h : c ∈ text) (hc : isSpace c = false) :
    strip text ≠ [] := by
  intro hnil
  rw [strip, List.rdropWhile_eq_nil_iff] at hnil
  rw [← List.takeWhile_append_dropWhile (p := isSpace) (l := text), List.mem_append] at h
  have hspace : isSpace c = true := by
    rcases h with h | h
    · exact List.mem_takeWhile_imp h
    · exact hnil c h
  rw [hc] at hspace
  cases hspace

/-- The last one of the characters of a kind. -/
lemma exists_last {p : Char → Prop} {text : List Char} {c : Char} (h : c ∈ text) (hc : p c) :
    ∃ before last after, text = before ++ last :: after ∧ p last ∧ ∀ d ∈ after, ¬ p d := by
  induction text generalizing c with
  | nil => cases h
  | cons d text ih =>
    by_cases hmore : ∃ e ∈ text, p e
    · obtain ⟨e, he, hpe⟩ := hmore
      obtain ⟨before, last, after, rfl, hlast⟩ := ih he hpe
      exact ⟨d :: before, last, after, rfl, hlast⟩
    · have hd : p d := by
        rcases List.mem_cons.mp h with rfl | h
        · exact hc
        · exact absurd ⟨c, h, hc⟩ hmore
      exact ⟨[], d, text, rfl, hd, fun e he hpe => hmore ⟨e, he, hpe⟩⟩

/-! ### What is stripped -/

/-- White space at the end does not matter. -/
lemma strip_append_spaces (text : List Char) {spaces : List Char}
    (h : ∀ c ∈ spaces, isSpace c = true) : strip (text ++ spaces) = strip text := by
  unfold strip
  have hspaces : spaces.dropWhile isSpace = [] := List.dropWhile_eq_nil_iff.mpr h
  have hreverse : spaces.reverse.dropWhile isSpace = [] :=
    List.dropWhile_eq_nil_iff.mpr fun c hc => h c (List.mem_reverse.mp hc)
  rw [List.dropWhile_append, hspaces]
  split
  · rename_i hempty
    rw [List.isEmpty_iff.mp hempty]
  · rw [List.rdropWhile, List.rdropWhile, List.reverse_append, List.dropWhile_append, hreverse]
    rfl

lemma strip_spaces {spaces : List Char} (h : ∀ c ∈ spaces, isSpace c = true) :
    strip spaces = [] := by
  have hspaces := strip_append_spaces [] h
  exact hspaces

/-- What is followed by more than white space is not stripped at the end. -/
lemma rdropWhile_append {before after : List Char} (h : ∃ c ∈ after, isSpace c = false) :
    (before ++ after).rdropWhile isSpace = before ++ after.rdropWhile isSpace := by
  obtain ⟨c, hc, hspace⟩ := h
  have hne : ¬ (after.reverse.dropWhile isSpace).isEmpty = true := by
    intro hempty
    have hall := List.dropWhile_eq_nil_iff.mp (List.isEmpty_iff.mp hempty) c
      (List.mem_reverse.mpr hc)
    rw [hspace] at hall
    cases hall
  rw [List.rdropWhile, List.rdropWhile, List.reverse_append, List.dropWhile_append, if_neg hne,
    List.reverse_append, List.reverse_reverse]

/-- A text that begins with no white space keeps its beginning, if more than white space follows. -/
lemma strip_append {c : Char} (hc : isSpace c = false) (before : List Char) {after : List Char}
    (h : ∃ c ∈ after, isSpace c = false) :
    strip (c :: before ++ after) = c :: before ++ after.rdropWhile isSpace := by
  have hfirst : ¬ isSpace c = true := Bool.eq_false_iff.mp hc
  rw [strip, List.cons_append, List.dropWhile_cons_of_neg hfirst, ← List.cons_append]
  exact rdropWhile_append h

/-! ### The lines that are not blank -/

/-- In a text without carriage returns the lines end at the boundaries. -/
lemma linesFrom_eq_linesOf {text : List Char} (h : '\r' ∉ text) :
    linesFrom false text = Sequence.linesOf isLineBreak text := by
  induction text with
  | nil => rfl
  | cons c text ih =>
    rw [List.mem_cons, not_or] at h
    have hreturn : decide (c = '\r') = false := decide_eq_false (Ne.symm h.1)
    rw [linesFrom, Sequence.linesOf, hreturn, ih h.2, Bool.false_and]
    rw [if_neg Bool.false_ne_true]
    rcases Sequence.linesOf isLineBreak text with - | ⟨line, lines⟩
    · rfl
    · rfl

lemma not_mem_universalNewlines (text : List Char) : '\r' ∉ universalNewlines text := by
  induction text with
  | nil => exact List.not_mem_nil
  | cons c text ih =>
    rw [universalNewlines]
    by_cases hc : c = '\r'
    · rw [if_pos hc]
      split
      · exact ih
      · exact List.not_mem_cons_of_ne_of_not_mem (by decide) ih
    · rw [if_neg hc]
      exact List.not_mem_cons_of_ne_of_not_mem (Ne.symm hc) ih

/-- The pieces of a text that are not blank, without the white space around them. -/
def strippedPieces (keep : List Char → Bool) (text : List Char) : List (List Char) :=
  ((text.splitOnP isLineBreak).map strip).filter keep

variable {keep : List Char → Bool}

lemma strippedPieces_nil (h : keep [] = false) : strippedPieces keep [] = [] := by
  unfold strippedPieces
  rw [List.splitOnP_nil, List.map_singleton]
  exact List.filter_cons_of_neg (Bool.eq_false_iff.mp h)

/-- A text is cut at any of its boundaries. -/
lemma strippedPieces_append_cons {c : Char} (hc : isLineBreak c = true) (before after : List Char) :
    strippedPieces keep (before ++ c :: after) =
      strippedPieces keep before ++ strippedPieces keep after := by
  unfold strippedPieces
  rw [List.splitOnP_append_cons before after hc, List.map_append, List.filter_append]

lemma strippedPieces_cons (h : keep [] = false) {c : Char} (hc : isLineBreak c = true)
    (text : List Char) : strippedPieces keep (c :: text) = strippedPieces keep text := by
  have happend : strippedPieces keep ([] ++ c :: text) = _ := strippedPieces_append_cons hc [] text
  rw [strippedPieces_nil h, List.nil_append, List.nil_append] at happend
  exact happend

/-- The translation of the newlines does not change the pieces that are not blank. -/
lemma strippedPieces_universalNewlines (h : keep [] = false) (text : List Char) :
    strippedPieces keep (universalNewlines text) = strippedPieces keep text := by
  -- The text is cut at its carriage returns; `before` is what has been read since the last one.
  have hgeneral (before : List Char) :
      strippedPieces keep (before ++ universalNewlines text) =
        strippedPieces keep (before ++ text) := by
    induction text generalizing before with
    | nil => rfl
    | cons c text ih =>
      rw [universalNewlines]
      by_cases hc : c = '\r'
      · subst hc
        rw [if_pos rfl, strippedPieces_append_cons (by decide)]
        have hrest := ih []
        rw [List.nil_append, List.nil_append] at hrest
        by_cases hfeed : text.head? = some '\n'
        · obtain ⟨rest, rfl⟩ := List.head?_eq_some_iff.mp hfeed
          rw [if_pos hfeed]
          have hfirst : universalNewlines ('\n' :: rest) = '\n' :: universalNewlines rest :=
            if_neg (by decide)
          rw [hfirst] at hrest ⊢
          rw [strippedPieces_append_cons (by decide), ← hrest, strippedPieces_cons h (by decide)]
        · rw [if_neg hfeed, strippedPieces_append_cons (by decide), hrest]
      · rw [if_neg hc]
        have hmore := ih (before ++ [c])
        rw [List.append_assoc, List.append_assoc] at hmore
        exact hmore
  exact hgeneral []

/-- The lines of a text that are not blank, as a program that strips them sees them. -/
theorem filter_splitlines (h : keep [] = false) (text : List Char) :
    ((splitlines (universalNewlines text)).map strip).filter keep = strippedPieces keep text := by
  have hkeep : (keep ∘ strip) [] = false := h
  rw [← strippedPieces_universalNewlines h, splitlines,
    linesFrom_eq_linesOf (not_mem_universalNewlines text), strippedPieces, List.filter_map,
    List.filter_map, Sequence.filter_linesOf hkeep]

/-! ### Words -/

/-- `text.split()` -/
def split (text : List Char) : List (List Char) := (text.splitOnP isSpace).filter (· ≠ [])

/-- Words that stand next to each other are split. -/
lemma split_intercalate {words : List (List Char)} (hne : words ≠ [])
    (h : ∀ word ∈ words, word ≠ [] ∧ ∀ c ∈ word, isSpace c = false) :
    split ([' '].intercalate words) = words := by
  have hpieces := Sequence.splitOnP_intercalate (rfl : isSpace ' ' = true) hne
    fun word hword => (h word hword).2
  rw [split, hpieces, List.filter_eq_self]
  exact fun word hword => decide_eq_true (h word hword).1

/-- Words that stand next to each other are not stripped. -/
lemma strip_intercalate {words : List (List Char)} (hne : words ≠ [])
    (h : ∀ word ∈ words, word ≠ [] ∧ ∀ c ∈ word, isSpace c = false) :
    strip ([' '].intercalate words) = [' '].intercalate words := by
  have hends : (∃ first after, [' '].intercalate words = first :: after ∧ isSpace first = false) ∧
      ∃ before last, [' '].intercalate words = before ++ [last] ∧ isSpace last = false := by
    induction words with
    | nil => exact absurd rfl hne
    | cons word words ih =>
      obtain ⟨⟨hword, hletters⟩, hrest⟩ := List.forall_mem_cons.mp h
      obtain ⟨first, after, hfirst⟩ := List.exists_cons_of_ne_nil hword
      have hletter : isSpace first = false := hletters first (hfirst ▸ List.mem_cons_self)
      by_cases hnil : words = []
      · rw [hnil, List.intercalate_singleton]
        exact ⟨⟨first, after, hfirst, hletter⟩, word.dropLast, word.getLast hword,
          (List.dropLast_append_getLast hword).symm, hletters _ (List.getLast_mem hword)⟩
      · obtain ⟨-, before, last, hlast, hspace⟩ := ih hnil hrest
        rw [List.intercalate_cons_of_ne_nil hnil]
        refine ⟨⟨first, after ++ [' '] ++ [' '].intercalate words, ?_, hletter⟩,
          word ++ [' '] ++ before, last, ?_, hspace⟩
        · rw [hfirst, List.cons_append, List.cons_append]
        · rw [hlast, List.append_assoc (word ++ [' '])]
  obtain ⟨⟨first, after, hfirst, hletter⟩, before, last, hlast, hspace⟩ := hends
  have hdrop : ([' '].intercalate words).dropWhile isSpace = [' '].intercalate words := by
    rw [hfirst, List.dropWhile_cons_of_neg (Bool.eq_false_iff.mp hletter)]
  rw [strip, hdrop, hlast, List.rdropWhile_concat_neg _ _ _ (Bool.eq_false_iff.mp hspace)]

end Python
