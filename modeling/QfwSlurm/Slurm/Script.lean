import QfwSlurm.Lua.Strings
import QfwSlurm.Protocol.Texts
import QfwSlurm.Slurm.Helper

/-!
# The directive in the job script

Two programs read the directive of a job script: `slurm_bb_job_process` at submission, a line that
begins with `#QFW ` and contains `#QFW v=1 `, and the helper at stage-in, which strips the lines of
`str.splitlines`.  They read the same line when white space alone follows another boundary within
this line, and when no other line hides a directive: behind white space at its beginning, or behind
a boundary that is none for Lua.
-/

namespace QfwSlurm

/-- The loop of `slurm_bb_job_process` over the lines. -/
def scanDirective : Option (List UInt8) → List (List UInt8) → Except String (Option (List UInt8))
  | directive, [] => .ok directive
  | directive, line :: lines =>
    if utf8 "#QFW " <+: line then
      if directive.isSome then .error "multiple QFW allocation directives"
      else scanDirective (some line) lines
    else scanDirective directive lines

/-- `slurm_bb_job_process` on the content of the job script, which is `none` where the script cannot
be opened. -/
def slurmBbJobProcess (script : Option (List UInt8)) : Except String (List UInt8) :=
  match script with
  | none => .error "cannot read QFW allocation directive"
  | some content => do
    match ← scanDirective none (Lua.lines content) with
    | none => .error "invalid QFW allocation directive"
    | some directive =>
      if 2048 < directive.length ∨ ¬ utf8 "#QFW v=1 " <:+: directive then
        .error "invalid QFW allocation directive"
      else .ok (directive ++ utf8 "\n")

namespace Helper

/-- `MAX_DIRECTIVE` -/
def maxDirective : ℕ := 2048

/-- The lines of the script that begin with `#QFW ` once they are stripped. -/
def qfwLines (data : List Char) : List (List Char) :=
  let lines := ((Python.splitlines (Python.universalNewlines data)).map Python.strip).filter
    fun line => line ≠ []
  lines.filter fun line => "#QFW ".toList.isPrefixOf line

/-- The first part of `parse_directive`: the line that it goes on with. -/
def selectDirective (data : List Char) : Except Failure (List Char) :=
  match qfwLines data with
  | [directive] =>
    if maxDirective < directive.length then .error (.helper "QFW directive exceeds 2048 bytes")
    else .ok directive
  | _ => .error (.helper "exactly one QFW directive is required")

end Helper

/-! ### The submission -/

/-- The scan finds the only line with the directive's beginning. -/
lemma scanDirective_eq_ok {lines : List (List UInt8)} {directive : List UInt8}
    (h : scanDirective none lines = .ok (some directive)) :
    ∃ before after, lines = before ++ directive :: after ∧ utf8 "#QFW " <+: directive ∧
      ∀ line ∈ before ++ after, ¬ utf8 "#QFW " <+: line := by
  have hsome {found : List UInt8} {lines : List (List UInt8)}
      (h : scanDirective (some found) lines = .ok (some directive)) :
      found = directive ∧ ∀ line ∈ lines, ¬ utf8 "#QFW " <+: line := by
    induction lines with
    | nil =>
      exact ⟨Option.some.inj (Except.ok.inj h), fun line hline => absurd hline List.not_mem_nil⟩
    | cons line lines ih =>
      rw [scanDirective] at h
      by_cases hline : utf8 "#QFW " <+: line
      · rw [if_pos hline] at h
        cases h
      · rw [if_neg hline] at h
        obtain ⟨hfound, hrest⟩ := ih h
        exact ⟨hfound, List.forall_mem_cons.mpr ⟨hline, hrest⟩⟩
  induction lines with
  | nil => cases h
  | cons line lines ih =>
    rw [scanDirective] at h
    by_cases hline : utf8 "#QFW " <+: line
    · rw [if_pos hline] at h
      obtain ⟨rfl, hrest⟩ := hsome h
      exact ⟨[], lines, rfl, hline, hrest⟩
    · rw [if_neg hline] at h
      obtain ⟨before, after, rfl, hdirective, hothers⟩ := ih h
      exact ⟨line :: before, after, rfl, hdirective, List.forall_mem_cons.mpr ⟨hline, hothers⟩⟩

/-- The lines that Lua reads from a text. -/
lemma lines_utf8 (text : String) : Lua.lines (utf8 text) =
    (Sequence.linesOf (· = '\n') text.toList).map bytesOf := by
  rw [utf8_eq_flatMap, Lua.lines]
  refine Sequence.linesOf_flatMap 10 (fun c hc => ?_) rfl (fun c hc => ⟨?_, ?_⟩) _
  · rw [of_decide_eq_true hc]
    decide
  · exact String.utf8EncodeChar_ne_nil
  · intro b hb
    refine decide_eq_false ?_
    rintro rfl
    have hmem : Char.ofNat (10 : UInt8).toNat ∈ [c] :=
      ascii_mem_bytesOf (by decide) (by simpa [bytesOf] using hb)
    have hchar : c = '\n' := (List.mem_singleton.mp hmem).symm
    exact of_decide_eq_false hc hchar

/-- What the submission has found in a script. -/
structure Submitted (text directive : List Char) : Prop where
  found : ∃ before after,
    Sequence.linesOf (· = '\n') text = before ++ directive :: after ∧ directive ∉ before ++ after
  begins : ∃ rest, directive = "#QFW ".toList ++ rest ∧ 'v' ∈ rest
  length_le : directive.length ≤ 2048

lemma submitted_of_eq_ok {text : String} {answer : List UInt8}
    (h : slurmBbJobProcess (some (utf8 text)) = .ok answer) :
    ∃ directive : String, answer = utf8 directive ++ utf8 "\n" ∧
      Submitted text.toList directive.toList := by
  obtain ⟨scanned, hscanned, h⟩ := bind_eq_ok_iff.mp h
  cases scanned with
  | none => cases h
  | some bytes =>
    dsimp only at h
    split at h
    · cases h
    rename_i hvalid
    rw [not_or, not_lt, not_not] at hvalid
    obtain ⟨hlength, hversion⟩ := hvalid
    obtain ⟨before, after, hlines, hbegins, hothers⟩ := scanDirective_eq_ok hscanned
    rw [lines_utf8] at hlines
    obtain ⟨before, rest, hsplit, rfl, hrest⟩ := List.map_eq_append_iff.mp hlines
    obtain ⟨directive, after, rfl, rfl, rfl⟩ := List.map_eq_cons_iff.mp hrest
    have hprefix : "#QFW ".toList <+: directive := by
      refine prefix_of_bytesOf (List.forall_iff_forall_mem.mp (by decide)) ?_
      rw [bytesOf_toList]
      exact hbegins
    obtain ⟨rest, rfl⟩ := hprefix
    refine ⟨String.ofList ("#QFW ".toList ++ rest), ?_, ?_, ⟨rest, ?_, ?_⟩, ?_⟩
    · rw [← bytesOf_toList, String.toList_ofList]
      exact (Except.ok.inj h).symm
    · rw [String.toList_ofList]
      refine ⟨before, after, hsplit, fun hmem => ?_⟩
      refine hothers (bytesOf ("#QFW ".toList ++ rest)) ?_ hbegins
      rw [← List.map_append]
      exact List.mem_map_of_mem hmem
    · rw [String.toList_ofList]
    · -- The version stands behind the beginning of the line.
      obtain ⟨first, last, hinfix⟩ := hversion
      have hbytes : bytesOf ("#QFW ".toList ++ rest) = utf8 "#QFW " ++ bytesOf rest := by
        rw [bytesOf_append, bytesOf_toList]
      have hlong : 5 ≤ (first ++ utf8 "#QFW ").length := by
        rw [List.length_append]
        exact le_trans (by decide) (Nat.le_add_left _ _)
      have hdrop : bytesOf rest = (first ++ utf8 "#QFW ").drop 5 ++ (utf8 "v=1 " ++ last) := by
        have hwhole : utf8 "#QFW " ++ bytesOf rest =
            (first ++ utf8 "#QFW ") ++ (utf8 "v=1 " ++ last) := by
          rw [← hbytes, ← hinfix]
          have hversion : utf8 "#QFW v=1 " = utf8 "#QFW " ++ utf8 "v=1 " := by decide
          rw [hversion, List.append_assoc, List.append_assoc, List.append_assoc]
        rw [← List.drop_append_of_le_length hlong, ← hwhole]
        exact (List.drop_left' (by decide : (utf8 "#QFW ").length = 5)).symm
      have hmem : (118 : UInt8) ∈ bytesOf rest := by
        rw [hdrop]
        exact List.mem_append_right _ (List.mem_append_left _ (by decide))
      exact ascii_mem_bytesOf (by decide) hmem
    · rw [String.toList_ofList]
      exact (length_le_bytesOf _).trans hlength

/-! ### Both readings -/

/-- `line.startswith("#QFW ")` -/
def isQfwLine (line : List Char) : Bool := "#QFW ".toList.isPrefixOf line

lemma qfwLines_eq (data : List Char) :
    Helper.qfwLines data = Python.strippedPieces isQfwLine data := by
  rw [← Python.filter_splitlines (rfl : isQfwLine [] = false), Helper.qfwLines, List.filter_filter]
  refine List.filter_congr fun line _ => ?_
  by_cases hline : line = []
  · subst hline
    rfl
  · rw [decide_eq_true hline, Bool.and_true]
    rfl

/-- The helper looks for directives line by line. -/
lemma qfwLines_eq_flatMap (data : List Char) : Helper.qfwLines data =
    (Sequence.linesOf (· = '\n') data).flatMap (Python.strippedPieces isQfwLine) := by
  rw [qfwLines_eq, Sequence.flatMap_linesOf (Python.strippedPieces_nil rfl)]
  intro before mark after hmark
  rw [of_decide_eq_true hmark]
  exact Python.strippedPieces_append_cons (by decide) before after

/-- A boundary is white space. -/
lemma isSpace_of_isLineBreak {c : Char} (h : Python.isLineBreak c = true) :
    Python.isSpace c = true := by
  have hmem : c.toNat ∈ [0x0A, 0x0B, 0x0C, 0x0D, 0x1C, 0x1D, 0x1E, 0x85, 0x2028, 0x2029] :=
    of_decide_eq_true h
  simp only [List.mem_cons, List.not_mem_nil, or_false] at hmem
  simp only [Python.isSpace, List.mem_cons, List.not_mem_nil, or_false, decide_eq_true_eq]
  omega

/-- The line of the directive, as far as the helper reads it: behind a boundary within it stands
nothing but white space. -/
def OwnLine (directive : List Char) : Prop :=
  ∀ before c after, directive = before ++ c :: after → Python.isLineBreak c = true →
    ∀ d ∈ after, Python.isSpace d = true

/-- A line in which the helper finds a directive: at its beginning or behind a boundary, and behind
white space. -/
def HidesDirective (line : List Char) : Prop :=
  ∃ piece ∈ line.splitOnP Python.isLineBreak, "#QFW ".toList <+: Python.strip piece

lemma strippedPieces_eq_nil_iff {line : List Char} :
    Python.strippedPieces isQfwLine line = [] ↔ ¬ HidesDirective line := by
  unfold Python.strippedPieces HidesDirective
  rw [List.filter_eq_nil_iff, List.forall_mem_map]
  constructor
  · rintro h ⟨piece, hpiece, hprefix⟩
    exact h piece hpiece (List.isPrefixOf_iff_prefix.mpr hprefix)
  · intro h piece hpiece hprefix
    exact h ⟨piece, hpiece, List.isPrefixOf_iff_prefix.mp hprefix⟩

/-- A stripped piece has no boundary. -/
lemma not_isLineBreak_of_mem {line stripped : List Char}
    (h : stripped ∈ Python.strippedPieces isQfwLine line) :
    ∀ c ∈ stripped, Python.isLineBreak c = false := by
  obtain ⟨piece, hpiece, rfl⟩ := List.mem_map.mp (List.mem_of_mem_filter h)
  intro c hc
  have hdropped := (List.rdropWhile_prefix Python.isSpace _).subset hc
  have hmem := (List.dropWhile_suffix Python.isSpace).subset hdropped
  exact (Sequence.mem_of_mem_splitOnP hpiece c hmem).2

section Directive

variable {directive rest : List Char}

/-- The directive keeps its beginning when it is stripped. -/
lemma strip_directive (hdirective : directive = "#QFW ".toList ++ rest) (hrest : 'v' ∈ rest) :
    Python.strip directive = "#QFW ".toList ++ rest.rdropWhile Python.isSpace := by
  rw [hdirective]
  exact Python.strip_append (by decide : Python.isSpace '#' = false) "QFW ".toList
    ⟨'v', hrest, by decide⟩

/-- A boundary before other text than white space is not stripped. -/
lemma ownLine_of_strip (hdirective : directive = "#QFW ".toList ++ rest)
    (h : ∀ c ∈ Python.strip directive, Python.isLineBreak c = false) : OwnLine directive := by
  intro before c after hsplit hc d hd
  by_contra hspace
  have hspace : Python.isSpace d = false := Bool.eq_false_iff.mpr hspace
  cases before with
  | nil =>
    have hfirst : c = '#' := by
      rw [hdirective] at hsplit
      exact (List.cons.inj hsplit).1.symm
    rw [hfirst] at hc
    exact absurd hc (by decide)
  | cons first before =>
    have hfirst : first = '#' := by
      rw [hdirective] at hsplit
      exact (List.cons.inj hsplit).1.symm
    have hsharp : Python.isSpace first = false := by rw [hfirst]; decide
    have hkept : ([c] ++ after).rdropWhile Python.isSpace =
        [c] ++ after.rdropWhile Python.isSpace := Python.rdropWhile_append ⟨d, hd, hspace⟩
    have hstrip : Python.strip directive =
        first :: before ++ (c :: after.rdropWhile Python.isSpace) := by
      rw [hsplit, Python.strip_append hsharp before ⟨d, List.mem_cons_of_mem c hd, hspace⟩]
      exact congrArg _ hkept
    have hmem : c ∈ Python.strip directive := by
      rw [hstrip]
      exact List.mem_append_right _ List.mem_cons_self
    rw [h c hmem] at hc
    cases hc

/-- In its own line the helper finds the directive and nothing else. -/
lemma strippedPieces_directive (hdirective : directive = "#QFW ".toList ++ rest)
    (hrest : 'v' ∈ rest) (hown : OwnLine directive) :
    Python.strippedPieces isQfwLine directive = [Python.strip directive] := by
  have hqfw : isQfwLine (Python.strip directive) = true := by
    rw [strip_directive hdirective hrest]
    exact List.isPrefixOf_iff_prefix.mpr (List.prefix_append _ _)
  have hwhole {line : List Char} (hline : ∀ c ∈ line, Python.isLineBreak c = false)
      (hstrip : Python.strip line = Python.strip directive) :
      Python.strippedPieces isQfwLine line = [Python.strip directive] := by
    rw [Python.strippedPieces, List.splitOnP_eq_singleton hline, List.map_singleton, hstrip]
    exact List.filter_cons_of_pos hqfw
  rcases Sequence.lines_cases Python.isLineBreak directive with
    hnone | ⟨before, c, after, hsplit, hbefore, hc, -⟩
  · exact hwhole hnone rfl
  · have hspaces := hown before c after hsplit hc
    have hblank : Python.strippedPieces isQfwLine after = [] := by
      rw [strippedPieces_eq_nil_iff]
      rintro ⟨piece, hpiece, hprefix⟩
      rw [Python.strip_spaces fun d hd =>
        hspaces d (Sequence.mem_of_mem_splitOnP hpiece d hd).1] at hprefix
      exact absurd (List.prefix_nil.mp hprefix) (by decide)
    have hstrip : Python.strip before = Python.strip directive := by
      rw [hsplit, Python.strip_append_spaces before
        (List.forall_mem_cons.mpr ⟨isSpace_of_isLineBreak hc, hspaces⟩)]
    rw [hsplit, Python.strippedPieces_append_cons hc, hblank, List.append_nil, ← hsplit]
    exact hwhole hbefore hstrip

end Directive

/-- The helper selects the directive of a submission exactly when white space alone follows another
boundary in its line and no other line hides a directive. -/
lemma selectDirective_iff {text directive : List Char} (hsubmitted : Submitted text directive) :
    Helper.selectDirective text = .ok (Python.strip directive) ↔
      OwnLine directive ∧ ∀ line ∈ Sequence.linesOf (· = '\n') text,
        line ≠ directive → ¬ HidesDirective line := by
  obtain ⟨before, after, hlines, hothers⟩ := hsubmitted.found
  obtain ⟨rest, hdirective, hrest⟩ := hsubmitted.begins
  have hlength : ¬ Helper.maxDirective < (Python.strip directive).length := by
    have hle := (List.rdropWhile_prefix Python.isSpace
      (directive.dropWhile Python.isSpace)).length_le
    have hle' := (List.dropWhile_suffix (l := directive) Python.isSpace).length_le
    have hbound := hsubmitted.length_le
    unfold Helper.maxDirective Python.strip
    omega
  have hselect : Helper.selectDirective text = .ok (Python.strip directive) ↔
      Helper.qfwLines text = [Python.strip directive] := by
    unfold Helper.selectDirective
    constructor
    · intro hselected
      split at hselected
      · rename_i found hfound
        split at hselected
        · cases hselected
        · rw [hfound, Except.ok.inj hselected]
      · cases hselected
    · intro hqfw
      rw [hqfw]
      exact if_neg hlength
  have hqfw : Helper.qfwLines text =
      before.flatMap (Python.strippedPieces isQfwLine) ++
        (Python.strippedPieces isQfwLine directive ++
          after.flatMap (Python.strippedPieces isQfwLine)) := by
    rw [qfwLines_eq_flatMap, hlines, List.flatMap_append, List.flatMap_cons]
  have hnone (lines : List (List Char)) : lines.flatMap (Python.strippedPieces isQfwLine) = [] ↔
      ∀ line ∈ lines, ¬ HidesDirective line := by
    rw [List.flatMap_eq_nil_iff]
    exact forall_congr' fun line => imp_congr_right fun _ => strippedPieces_eq_nil_iff
  rw [hselect]
  constructor
  · intro honly
    have hown : OwnLine directive := by
      refine ownLine_of_strip hdirective fun c hc => ?_
      have hmem : Python.strip directive ∈ Helper.qfwLines text := by
        rw [honly]
        exact List.mem_singleton_self _
      rw [qfwLines_eq] at hmem
      exact not_isLineBreak_of_mem hmem c hc
    rw [hqfw, strippedPieces_directive hdirective hrest hown] at honly
    have hlengths := congrArg List.length honly
    rw [List.length_append, List.length_append, List.length_singleton] at hlengths
    have hbefore := (hnone before).mp (List.eq_nil_of_length_eq_zero (by omega))
    have hafter := (hnone after).mp (List.eq_nil_of_length_eq_zero (by omega))
    refine ⟨hown, fun line hline hne => ?_⟩
    rw [hlines, List.mem_append, List.mem_cons] at hline
    rcases hline with hline | rfl | hline
    · exact hbefore line hline
    · exact absurd rfl hne
    · exact hafter line hline
  · rintro ⟨hown, hhidden⟩
    have hne {line : List Char} (hline : line ∈ before ++ after) : line ≠ directive :=
      fun heq => hothers (heq ▸ hline)
    have hbefore : ∀ line ∈ before, ¬ HidesDirective line := fun line hline =>
      hhidden line (hlines ▸ List.mem_append_left _ hline)
        (hne (List.mem_append_left _ hline))
    have hafter : ∀ line ∈ after, ¬ HidesDirective line := fun line hline =>
      hhidden line (hlines ▸ List.mem_append_right _ (List.mem_cons_of_mem _ hline))
        (hne (List.mem_append_right _ hline))
    rw [hqfw, strippedPieces_directive hdirective hrest hown, (hnone before).mpr hbefore,
      (hnone after).mpr hafter]
    rfl

/-- When the submission accepts a script, the helper selects the line of the returned directive if
and only if white space alone follows another boundary in this line and no other line hides a
directive. -/
theorem directive_selected_iff (text : String) (answer : List UInt8)
    (h : slurmBbJobProcess (some (utf8 text)) = .ok answer) :
    ∃ directive : String, answer = utf8 directive ++ utf8 "\n" ∧
      (Helper.selectDirective text.toList = .ok (Python.strip directive.toList) ↔
        OwnLine directive.toList ∧ ∀ line ∈ Sequence.linesOf (· = '\n') text.toList,
          line ≠ directive.toList → ¬ HidesDirective line) := by
  obtain ⟨directive, hanswer, hsubmitted⟩ := submitted_of_eq_ok h
  exact ⟨directive, hanswer, selectDirective_iff hsubmitted⟩

/-- A script with a directive among other lines. -/
def sampleScript : String := "#!/bin/sh\n# QFW below\n#QFW v=1 qpu=a\n  srun hostname\n"

theorem directive_selected_iff_plain :
    ∃ directive : String, utf8 "#QFW v=1 qpu=a\n" = utf8 directive ++ utf8 "\n" ∧
      (Helper.selectDirective sampleScript.toList = .ok (Python.strip directive.toList) ↔
        OwnLine directive.toList ∧ ∀ line ∈ Sequence.linesOf (· = '\n') sampleScript.toList,
          line ≠ directive.toList → ¬ HidesDirective line) :=
  directive_selected_iff sampleScript (utf8 "#QFW v=1 qpu=a\n") (by decide +kernel)

/-- Behind white space a second directive is one for the helper only. -/
theorem indented_directive_differs :
    ¬ ∀ (text : String) (answer : List UInt8), slurmBbJobProcess (some (utf8 text)) = .ok answer →
      ∃ directive : String, answer = utf8 directive ++ utf8 "\n" ∧
        Helper.selectDirective text.toList = .ok (Python.strip directive.toList) := by
  intro hclaim
  obtain ⟨directive, -, hselected⟩ := hclaim "#QFW v=1 qpu=a\n  #QFW v=1 qpu=b\n"
    (utf8 "#QFW v=1 qpu=a\n") (by decide +kernel)
  have hfails : (Helper.selectDirective "#QFW v=1 qpu=a\n  #QFW v=1 qpu=b\n".toList).isOk = false := by
    decide +kernel
  rw [hselected] at hfails
  cases hfails

end QfwSlurm
