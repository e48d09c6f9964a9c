import Mathlib.Tactic

/-!
# Lines of a sequence

The lines of a sequence in which every line has an end mark: what stands after the last mark is a
line only if it is not empty.  `List.splitOnP` has one more empty piece where the sequence ends with
a mark, so what is said about the pieces that are not empty can be said with `splitOnP`, whose
equation for a separator in the middle is `List.splitOnP_append_cons`.
-/

namespace Sequence

variable {α β : Type*}

/-- The lines of a sequence. -/
def linesOf (isEnd : α → Bool) : List α → List (List α)
  | [] => []
  | a :: rest =>
    if isEnd a then [] :: linesOf isEnd rest
    else
      match linesOf isEnd rest with
      | [] => [[a]]
      | line :: lines => (a :: line) :: lines

/-- The pieces between the end marks are the lines, and an empty piece after the last mark. -/
theorem splitOnP_eq_linesOf (isEnd : α → Bool) (text : List α) :
    text.splitOnP isEnd = linesOf isEnd text ∨
      text.splitOnP isEnd = linesOf isEnd text ++ [[]] := by
  induction text with
  | nil => exact .inr List.splitOnP_nil
  | cons a rest ih =>
    rw [List.splitOnP_cons_eq_if_modifyHead, linesOf]
    by_cases ha : isEnd a
    · rw [if_pos ha, if_pos ha]
      exact ih.imp (congrArg _) (congrArg _)
    · rw [if_neg ha, if_neg ha]
      rcases hlines : linesOf isEnd rest with - | ⟨line, lines⟩
      · rw [hlines] at ih
        rcases ih with hnone | hempty
        · exact absurd hnone (List.splitOnP_ne_nil isEnd rest)
        · exact .inl (by rw [hempty]; rfl)
      · rw [hlines] at ih
        rcases ih with hsame | hempty
        · exact .inl (by rw [hsame]; rfl)
        · exact .inr (by rw [hempty]; rfl)

variable {isEnd : α → Bool}

/-- The lines that are not empty are the pieces that are not empty. -/
theorem filter_linesOf {keep : List α → Bool} (h : keep [] = false) (text : List α) :
    (linesOf isEnd text).filter keep = (text.splitOnP isEnd).filter keep := by
  rcases splitOnP_eq_linesOf isEnd text with hsame | hempty
  · rw [hsame]
  · rw [hempty, List.filter_append, List.filter_cons_of_neg (by simp [h]), List.filter_nil,
      List.append_nil]

/-- What has no end mark belongs to the first line. -/
lemma linesOf_append {first : List α} (hne : first ≠ []) (h : ∀ a ∈ first, isEnd a = false)
    (rest : List α) : linesOf isEnd (first ++ rest) =
      match linesOf isEnd rest with
      | [] => [first]
      | line :: lines => (first ++ line) :: lines := by
  induction first with
  | nil => exact absurd rfl hne
  | cons a first ih =>
    have ha : ¬ isEnd a = true := by rw [h a List.mem_cons_self]; exact Bool.false_ne_true
    rw [List.cons_append, linesOf, if_neg ha]
    by_cases hfirst : first = []
    · subst hfirst
      rfl
    · rw [ih hfirst fun b hb => h b (List.mem_cons_of_mem a hb)]
      rcases linesOf isEnd rest with - | ⟨line, lines⟩
      · rfl
      · rfl

/-- Where one symbol is coded by several, the lines of the code are the codes of the lines. -/
theorem linesOf_flatMap {isMark : β → Bool} (mark : β) {code : α → List β}
    (hcode : ∀ a, isEnd a = true → code a = [mark]) (hmark : isMark mark = true)
    (hother : ∀ a, isEnd a = false → code a ≠ [] ∧ ∀ b ∈ code a, isMark b = false)
    (text : List α) :
    linesOf isMark (text.flatMap code) = (linesOf isEnd text).map (·.flatMap code) := by
  induction text with
  | nil => rfl
  | cons a rest ih =>
    rw [List.flatMap_cons, linesOf]
    by_cases ha : isEnd a = true
    · rw [if_pos ha, hcode a ha, List.singleton_append, linesOf, if_pos hmark, ih]
      rfl
    · rw [if_neg ha]
      obtain ⟨hne, hnone⟩ := hother a (Bool.eq_false_iff.mpr ha)
      rw [linesOf_append hne hnone, ih]
      rcases linesOf isEnd rest with - | ⟨line, lines⟩
      · simp
      · simp

/-- Pieces without marks are found again when they are joined with a mark. -/
theorem splitOnP_intercalate {mark : α} (hmark : isEnd mark = true) {pieces : List (List α)}
    (hne : pieces ≠ []) (h : ∀ piece ∈ pieces, ∀ a ∈ piece, isEnd a = false) :
    ([mark].intercalate pieces).splitOnP isEnd = pieces := by
  induction pieces with
  | nil => exact absurd rfl hne
  | cons piece pieces ih =>
    obtain ⟨hpiece, hrest⟩ := List.forall_mem_cons.mp h
    cases pieces with
    | nil => rw [List.intercalate_singleton, List.splitOnP_eq_singleton hpiece]
    | cons next pieces =>
      rw [List.intercalate_cons_cons, List.append_assoc, List.singleton_append,
        List.splitOnP_append_cons _ _ hmark, List.splitOnP_eq_singleton hpiece,
        ih (List.cons_ne_nil _ _) hrest, List.singleton_append]

/-- The lines of a text are the joined pieces, unless the last one is empty. -/
theorem linesOf_intercalate {mark : α} (hmark : isEnd mark = true) {pieces : List (List α)}
    (hne : pieces ≠ []) (h : ∀ piece ∈ pieces, piece ≠ [] ∧ ∀ a ∈ piece, isEnd a = false) :
    linesOf isEnd ([mark].intercalate pieces) = pieces := by
  have hsplit := splitOnP_intercalate hmark hne fun piece hpiece => (h piece hpiece).2
  rcases splitOnP_eq_linesOf isEnd ([mark].intercalate pieces) with hsame | hempty
  · rw [← hsame, hsplit]
  · rw [hsplit] at hempty
    have hmem : [] ∈ pieces := by
      rw [hempty]
      exact List.mem_append_right _ (List.mem_singleton_self [])
    exact absurd rfl (h [] hmem).1

/-- Joined pieces hold the mark, and what is in the pieces. -/
lemma mem_intercalate {mark : α} {pieces : List (List α)} {a : α}
    (h : a ∈ [mark].intercalate pieces) : a = mark ∨ ∃ piece ∈ pieces, a ∈ piece := by
  induction pieces with
  | nil => exact absurd h List.not_mem_nil
  | cons piece pieces ih =>
    by_cases hne : pieces = []
    · rw [hne, List.intercalate_singleton] at h
      exact .inr ⟨piece, List.mem_cons_self, h⟩
    · rw [List.intercalate_cons_of_ne_nil hne, List.mem_append, List.mem_append,
        List.mem_singleton] at h
      rcases h with (h | h) | h
      · exact .inr ⟨piece, List.mem_cons_self, h⟩
      · exact .inl h
      · obtain hmark | ⟨later, hlater, ha⟩ := ih h
        · exact .inl hmark
        · exact .inr ⟨later, List.mem_cons_of_mem piece hlater, ha⟩

/-- What every symbol is replaced by in joined pieces. -/
lemma flatMap_intercalate (f : α → List β) (separator : List α) (pieces : List (List α)) :
    (separator.intercalate pieces).flatMap f =
      (separator.flatMap f).intercalate (pieces.map (·.flatMap f)) := by
  induction pieces with
  | nil => rfl
  | cons piece pieces ih =>
    by_cases hne : pieces = []
    · rw [hne, List.map_singleton, List.intercalate_singleton, List.intercalate_singleton]
    · have hmap : pieces.map (·.flatMap f) ≠ [] := by simpa using hne
      rw [List.map_cons, List.intercalate_cons_of_ne_nil hne, List.intercalate_cons_of_ne_nil hmap,
        List.flatMap_append, List.flatMap_append, ih]

/-- What is in a piece is in the text, and is no mark. -/
lemma mem_of_mem_splitOnP {text piece : List α} (h : piece ∈ text.splitOnP isEnd) :
    ∀ a ∈ piece, a ∈ text ∧ isEnd a = false := by
  induction text generalizing piece with
  | nil =>
    rw [List.splitOnP_nil, List.mem_singleton] at h
    rw [h]
    exact fun a ha => absurd ha List.not_mem_nil
  | cons b rest ih =>
    rw [List.splitOnP_cons_eq_if_modifyHead] at h
    have hlater {piece : List α} (h : piece ∈ rest.splitOnP isEnd) (a : α) (ha : a ∈ piece) :
        a ∈ b :: rest ∧ isEnd a = false :=
      ⟨List.mem_cons_of_mem b (ih h a ha).1, (ih h a ha).2⟩
    by_cases hb : isEnd b
    · rw [if_pos hb] at h
      rcases List.mem_cons.mp h with rfl | h
      · exact fun a ha => absurd ha List.not_mem_nil
      · exact hlater h
    · rw [if_neg hb] at h
      obtain ⟨first, pieces, hpieces⟩ :=
        List.exists_cons_of_ne_nil (List.splitOnP_ne_nil isEnd rest)
      rw [hpieces] at h hlater
      rcases List.mem_cons.mp h with rfl | h
      · intro a ha
        rcases List.mem_cons.mp ha with rfl | ha
        · exact ⟨List.mem_cons_self, Bool.eq_false_iff.mpr hb⟩
        · exact hlater List.mem_cons_self a ha
      · exact hlater (List.mem_cons_of_mem first h)

/-- A text without marks is one line. -/
lemma linesOf_line {line : List α} (hne : line ≠ []) (h : ∀ a ∈ line, isEnd a = false) :
    linesOf isEnd line = [line] := by
  have hlines := linesOf_append hne h []
  rw [List.append_nil] at hlines
  exact hlines

/-- The first line ends with the first mark. -/
lemma linesOf_append_cons {line : List α} {mark : α} (h : ∀ a ∈ line, isEnd a = false)
    (hmark : isEnd mark = true) (rest : List α) :
    linesOf isEnd (line ++ mark :: rest) = line :: linesOf isEnd rest := by
  have hrest : linesOf isEnd (mark :: rest) = [] :: linesOf isEnd rest := if_pos hmark
  by_cases hne : line = []
  · rw [hne]
    exact hrest
  · rw [linesOf_append hne h, hrest]
    exact congrArg (· :: linesOf isEnd rest) (List.append_nil line)

/-- A text is empty, one line without a mark, or a line with a mark and a shorter text. -/
lemma lines_cases (isEnd : α → Bool) (text : List α) :
    (∀ a ∈ text, isEnd a = false) ∨ ∃ line mark rest, text = line ++ mark :: rest ∧
      (∀ a ∈ line, isEnd a = false) ∧ isEnd mark = true ∧ rest.length < text.length := by
  induction text with
  | nil => exact .inl fun a ha => absurd ha List.not_mem_nil
  | cons b text ih =>
    by_cases hb : isEnd b = true
    · exact .inr ⟨[], b, text, rfl, fun a ha => absurd ha List.not_mem_nil, hb, by simp⟩
    have hb := Bool.eq_false_iff.mpr hb
    rcases ih with hnone | ⟨line, mark, rest, rfl, hline, hmark, hlength⟩
    · exact .inl (List.forall_mem_cons.mpr ⟨hb, hnone⟩)
    · exact .inr ⟨b :: line, mark, rest, rfl, List.forall_mem_cons.mpr ⟨hb, hline⟩, hmark,
        lt_of_lt_of_le hlength (Nat.le_succ _)⟩

/-- What is computed from a text and falls apart at every mark is computed line by line. -/
theorem flatMap_linesOf {f : List α → List β} (hnil : f [] = [])
    (happend : ∀ before mark after, isEnd mark = true →
      f (before ++ mark :: after) = f before ++ f after) (text : List α) :
    (linesOf isEnd text).flatMap f = f text := by
  induction hlength : text.length using Nat.strong_induction_on generalizing text with
  | _ length ih =>
    rcases lines_cases isEnd text with hnone | ⟨line, mark, rest, rfl, hline, hmark, hshorter⟩
    · by_cases hne : text = []
      · subst hne
        exact hnil.symm
      · rw [linesOf_line hne hnone, List.flatMap_singleton]
    · rw [linesOf_append_cons hline hmark, List.flatMap_cons, happend line mark rest hmark,
        ih rest.length (hlength ▸ hshorter) rest rfl]

/-! ### Lines and joined pieces -/

/-- One more empty piece is one more mark. -/
lemma intercalate_concat_nil (mark : α) {pieces : List (List α)} (hne : pieces ≠ []) :
    [mark].intercalate (pieces ++ [[]]) = [mark].intercalate pieces ++ [mark] := by
  induction pieces with
  | nil => exact absurd rfl hne
  | cons piece pieces ih =>
    by_cases hnil : pieces = []
    · rw [hnil, List.singleton_append, List.intercalate_cons_cons, List.intercalate_singleton,
        List.intercalate_singleton, List.append_nil]
    · rw [List.cons_append, List.intercalate_cons_of_ne_nil (by simp), ih hnil,
        List.intercalate_cons_of_ne_nil hnil, List.append_assoc, List.append_assoc,
        List.append_assoc]

/-- A text is its lines joined with marks, with one more mark where the last line has its end. -/
theorem eq_intercalate_linesOf [DecidableEq α] (mark : α) {text : List α} (hne : text ≠ []) :
    text = [mark].intercalate (linesOf (· = mark) text) ∨
      text = [mark].intercalate (linesOf (· = mark) text) ++ [mark] := by
  have hjoin : [mark].intercalate (text.splitOnP (· = mark)) = text := List.intercalate_splitOn mark
  rcases splitOnP_eq_linesOf (· = mark) text with hsame | hempty
  · rw [hsame] at hjoin
    exact .inl hjoin.symm
  · rw [hempty] at hjoin
    have hlines : linesOf (· = mark) text ≠ [] := by
      intro hnil
      rw [hnil, List.nil_append, List.intercalate_singleton] at hjoin
      exact hne hjoin.symm
    rw [intercalate_concat_nil mark hlines] at hjoin
    exact .inr hjoin.symm

/-- The lines of joined pieces with one more mark. -/
theorem linesOf_intercalate_concat {mark : α} (hmark : isEnd mark = true)
    {pieces : List (List α)} (hne : pieces ≠ [])
    (h : ∀ piece ∈ pieces, ∀ a ∈ piece, isEnd a = false) :
    linesOf isEnd ([mark].intercalate pieces ++ [mark]) = pieces := by
  induction pieces with
  | nil => exact absurd rfl hne
  | cons piece pieces ih =>
    obtain ⟨hpiece, hrest⟩ := List.forall_mem_cons.mp h
    by_cases hnil : pieces = []
    · rw [hnil, List.intercalate_singleton, linesOf_append_cons hpiece hmark]
      rfl
    · rw [List.intercalate_cons_of_ne_nil hnil, List.append_assoc, List.append_assoc,
        List.singleton_append, linesOf_append_cons hpiece hmark, ih hnil hrest]

end Sequence
