import Mathlib.Tactic

/-!
# Words of the POSIX shell

Token recognition with its quoting rules: a text becomes words and operators, and a word keeps
which of its characters are quoted.  Command substitutions, and parameter expansions with an
operator, are outside of what is recognized.  A word stands for one argument when nothing in it is
expanded.  `run_quote` says that a text in single quotes is read back whatever it contains.
-/

namespace Shell

/-- A part of a word. -/
inductive Piece where
  | plain (b : UInt8)
  | quoted (b : UInt8)
  /-- The beginning of a quotation, which quote removal takes away. -/
  | quotation
  | parameter (name : List UInt8) (inQuotes : Bool)
  deriving DecidableEq

inductive Token where
  | word (pieces : List Piece)
  | operator (text : List UInt8)
  deriving DecidableEq

/-- Where in a word the reader is. -/
inductive Mode where
  | plain
  | escaped
  | single
  | double
  | doubleEscaped
  | comment
  | dollar (inQuotes : Bool)
  | name (name : List UInt8) (inQuotes : Bool)
  | braced (name : List UInt8) (inQuotes : Bool)
  deriving DecidableEq

/-- The tokens that are complete, and the word or the operator that has begun. -/
structure State where
  tokens : List Token := []
  word : Option (List Piece) := none
  operator : List UInt8 := []
  mode : Mode := .plain
  deriving DecidableEq

/-- The operators, and the newline. -/
def isOperator (text : List UInt8) : Bool :=
  text ∈ [[38], [124], [59], [60], [62], [40], [41], [10], [38, 38], [124, 124], [59, 59], [60, 60],
    [62, 62], [60, 38], [62, 38], [60, 62], [60, 60, 45], [62, 124]]

def isNameStart (b : UInt8) : Bool :=
  (65 ≤ b.toNat && b.toNat ≤ 90) || (97 ≤ b.toNat && b.toNat ≤ 122) || b = 95

def isNameByte (b : UInt8) : Bool := isNameStart b || (48 ≤ b.toNat && b.toNat ≤ 57)

/-- A special or positional parameter of one character. -/
def isSpecialParameter (b : UInt8) : Bool :=
  b ∈ [63, 35, 64, 42, 45, 36, 33] || (48 ≤ b.toNat && b.toNat ≤ 57)

/-- What has begun is complete. -/
def State.flush (s : State) : State :=
  { s with
    tokens := s.tokens ++ (match s.word with
        | some pieces => [.word pieces]
        | none => []) ++
      if s.operator = [] then [] else [.operator s.operator]
    word := none
    operator := [] }

/-- One more part of the word. -/
def State.add (s : State) (pieces : List Piece) : State :=
  { s with word := some (s.word.getD [] ++ pieces) }

/-- A character outside quotations and operators. -/
def wordStep (s : State) (b : UInt8) : Option State :=
  if b = 92 then some { s with mode := .escaped }
  else if b = 39 then some { s.add [.quotation] with mode := .single }
  else if b = 34 then some { s.add [.quotation] with mode := .double }
  else if b = 36 then some { s with mode := .dollar false }
  else if b = 96 then none
  else if isOperator [b] then some { s.flush with operator := [b] }
  else if b = 32 ∨ b = 9 then some s.flush
  else if b = 35 ∧ s.word = none then some { s with mode := .comment }
  else some (s.add [.plain b])

/-- A character outside quotations. -/
def plainStep (s : State) (b : UInt8) : Option State :=
  if s.operator ≠ [] ∧ isOperator (s.operator ++ [b]) then
    some { s with operator := s.operator ++ [b] }
  else wordStep (if s.operator = [] then s else s.flush) b

/-- A character in double quotes. -/
def doubleStep (s : State) (b : UInt8) : Option State :=
  if b = 34 then some { s with mode := .plain }
  else if b = 92 then some { s with mode := .doubleEscaped }
  else if b = 36 then some { s with mode := .dollar true }
  else if b = 96 then none
  else some (s.add [.quoted b])

/-- The mode around an expansion. -/
def outside (inQuotes : Bool) : Mode := if inQuotes then .double else .plain

/-- One character. -/
def step (s : State) (b : UInt8) : Option State :=
  match s.mode with
  | .plain => plainStep s b
  | .escaped =>
    if b = 10 then some { s with mode := .plain }
    else some { s.add [.quotation, .quoted b] with mode := .plain }
  | .single => some (if b = 39 then { s with mode := .plain } else s.add [.quoted b])
  | .double => doubleStep s b
  | .doubleEscaped =>
    if b = 10 then some { s with mode := .double }
    else if b ∈ [36, 96, 34, 92] then some { s.add [.quoted b] with mode := .double }
    else some { s.add [.quoted 92, .quoted b] with mode := .double }
  | .comment => if b = 10 then plainStep { s with mode := .plain } b else some s
  | .dollar inQuotes =>
    if b = 123 then some { s with mode := .braced [] inQuotes }
    else if isNameStart b then some { s with mode := .name [b] inQuotes }
    else if isSpecialParameter b then
      some { s.add [.parameter [b] inQuotes] with mode := outside inQuotes }
    else none
  | .name name inQuotes =>
    if isNameByte b then some { s with mode := .name (name ++ [b]) inQuotes }
    else
      let s := { s.add [.parameter name inQuotes] with mode := outside inQuotes }
      if inQuotes then doubleStep s b else plainStep s b
  | .braced name inQuotes =>
    if b = 125 ∧ name ≠ [] then
      some { s.add [.parameter name inQuotes] with mode := outside inQuotes }
    else if isNameByte b ∨ isSpecialParameter b then
      some { s with mode := .braced (name ++ [b]) inQuotes }
    else none

/-- The characters one after the other. -/
def run (s : State) (text : List UInt8) : Option State := text.foldlM step s

/-- The end of the text, which must not stand within a quotation. -/
def State.finish (s : State) : Option (List Token) :=
  match s.mode with
  | .plain | .comment => some s.flush.tokens
  | .name name false => some (s.add [.parameter name false]).flush.tokens
  | _ => none

/-- The tokens of a text. -/
def tokenize (text : List UInt8) : Option (List Token) := run {} text >>= State.finish

/-- What a part of a word stands for, when it is not expanded: patterns and tildes are, unless they
are quoted. -/
def Piece.text : Piece → Option (List UInt8)
  | .plain b => if b ∈ [42, 63, 91, 126] then none else some [b]
  | .quoted b => some [b]
  | .quotation => some []
  | .parameter _ _ => none

/-- The argument that a token stands for. -/
def Token.text : Token → Option (List UInt8)
  | .word pieces => (pieces.mapM Piece.text).map List.flatten
  | .operator _ => none

/-- The argument vector of words that are one simple command.  Its name begins with a quotation, so
it is neither an assignment nor a reserved word nor an alias. -/
def argumentVector : List Token → Option (List (List UInt8))
  | .word (.quotation :: pieces) :: tokens =>
    (.word (.quotation :: pieces) :: tokens).mapM Token.text
  | _ => none

/-- The argument vector of a text that is one simple command. -/
def simpleCommand (text : List UInt8) : Option (List (List UInt8)) :=
  tokenize text >>= argumentVector

/-- A text in single quotes; a single quote within it is escaped between two quotations. -/
def quote (text : List UInt8) : List UInt8 :=
  [39] ++ text.flatMap (fun b => if b = 39 then [39, 92, 39, 39] else [b]) ++ [39]

/-! ### Reading -/

lemma run_append (s : State) (text more : List UInt8) :
    run s (text ++ more) = run s text >>= fun s => run s more := List.foldlM_append

lemma run_cons (s : State) (b : UInt8) (text : List UInt8) :
    run s (b :: text) = step s b >>= fun s => run s text := rfl

/-- The same state behind further tokens. -/
def State.after (tokens : List Token) (s : State) : State :=
  { s with tokens := tokens ++ s.tokens }

lemma State.flush_after (tokens : List Token) (s : State) :
    (s.after tokens).flush = s.flush.after tokens := by
  rw [State.flush, State.flush, State.after, State.after, ← List.append_assoc, ← List.append_assoc]

lemma State.add_after (tokens : List Token) (s : State) (pieces : List Piece) :
    (s.after tokens).add pieces = (s.add pieces).after tokens := rfl

lemma wordStep_after (tokens : List Token) (s : State) (b : UInt8) :
    wordStep (s.after tokens) b = (wordStep s b).map (State.after tokens) := by
  have hword : (s.after tokens).word = s.word := rfl
  unfold wordStep
  rw [State.flush_after, hword]
  simp only [apply_ite (Option.map (State.after tokens)), Option.map_some, Option.map_none]
  rfl

lemma plainStep_after (tokens : List Token) (s : State) (b : UInt8) :
    plainStep (s.after tokens) b = (plainStep s b).map (State.after tokens) := by
  have hoperator : (s.after tokens).operator = s.operator := rfl
  unfold plainStep
  rw [State.flush_after, hoperator, ← apply_ite (State.after tokens), wordStep_after]
  split_ifs <;> rfl

lemma doubleStep_after (tokens : List Token) (s : State) (b : UInt8) :
    doubleStep (s.after tokens) b = (doubleStep s b).map (State.after tokens) := by
  unfold doubleStep
  split_ifs <;> rfl

/-- The tokens that are complete do not matter for the rest. -/
lemma step_after (tokens : List Token) (s : State) (b : UInt8) :
    step (s.after tokens) b = (step s b).map (State.after tokens) := by
  have hmode : (s.after tokens).mode = s.mode := rfl
  unfold step
  rw [hmode]
  rcases s.mode with _ | _ | _ | _ | _ | _ | inQuotes | ⟨name, inQuotes⟩ | ⟨name, inQuotes⟩
  case plain => exact plainStep_after tokens s b
  case double => exact doubleStep_after tokens s b
  case comment =>
    dsimp only
    split_ifs
    · exact plainStep_after tokens { s with mode := .plain } b
    · rfl
  case name =>
    dsimp only
    split_ifs
    · rfl
    · exact doubleStep_after tokens
        { s.add [.parameter name inQuotes] with mode := outside inQuotes } b
    · exact plainStep_after tokens
        { s.add [.parameter name inQuotes] with mode := outside inQuotes } b
  all_goals
    dsimp only
    split_ifs <;> rfl

lemma run_after (tokens : List Token) (s : State) (text : List UInt8) :
    run (s.after tokens) text = (run s text).map (State.after tokens) := by
  induction text generalizing s with
  | nil => rfl
  | cons b text ih =>
    rw [run_cons, run_cons, step_after]
    cases step s b with
    | none => rfl
    | some s => exact ih s

/-- The parts of a quoted text. -/
def quotedPieces (text : List UInt8) : List Piece :=
  .quotation :: text.flatMap fun b =>
    if b = 39 then [.quotation, .quoted b, .quotation] else [.quoted b]

/-- A quoted text belongs to one word. -/
theorem run_quote {s : State} (hmode : s.mode = .plain) (hoperator : s.operator = [])
    (text : List UInt8) : run s (quote text) = some (s.add (quotedPieces text)) := by
  have hbody (text : List UInt8) {s : State} (hmode : s.mode = .single)
      (hoperator : s.operator = []) (pieces : List Piece) (hword : s.word = some pieces) :
      run s (text.flatMap (fun b => if b = 39 then [39, 92, 39, 39] else [b]) ++ [39]) =
        some { s with
          word := some (pieces ++ text.flatMap fun b =>
            if b = 39 then [.quotation, .quoted b, .quotation] else [.quoted b])
          mode := .plain } := by
    obtain ⟨tokens, word, operator, mode⟩ := s
    dsimp only at hmode hoperator hword
    subst hmode hoperator hword
    induction text generalizing pieces with
    | nil =>
      rw [List.flatMap_nil, List.flatMap_nil, List.append_nil]
      rfl
    | cons b text ih =>
      rw [List.flatMap_cons, List.flatMap_cons, List.append_assoc]
      by_cases hb : b = 39
      · have hstep (rest : List UInt8) :
            run ⟨tokens, some pieces, [], .single⟩ ([39, 92, 39, 39] ++ rest) =
              run ⟨tokens, some (((pieces ++ [.quotation, .quoted 39]) ++ [.quotation])), [],
                .single⟩ rest := rfl
        rw [if_pos hb, if_pos hb, hb, hstep, ih, List.append_assoc pieces, List.append_assoc pieces]
        rfl
      · have hstep (rest : List UInt8) : run ⟨tokens, some pieces, [], .single⟩ ([b] ++ rest) =
            run ⟨tokens, some (pieces ++ [.quoted b]), [], .single⟩ rest := by
          rw [List.singleton_append, run_cons, step]
          dsimp only
          rw [if_neg hb]
          rfl
        rw [if_neg hb, if_neg hb, hstep, ih, List.append_assoc]
  obtain ⟨tokens, word, operator, mode⟩ := s
  dsimp only at hmode hoperator
  subst hmode hoperator
  rw [quote, List.append_assoc, List.singleton_append, run_cons]
  have hopen : step ⟨tokens, word, [], .plain⟩ 39 =
      some ⟨tokens, some (word.getD [] ++ [.quotation]), [], .single⟩ := rfl
  rw [hopen]
  refine (hbody text rfl rfl _ rfl).trans ?_
  rw [List.append_assoc]
  rfl

/-- What is quoted is read back. -/
theorem text_quotedPieces (text : List UInt8) :
    (Token.word (quotedPieces text)).text = some text := by
  have hpieces (text : List UInt8) : (text.flatMap fun b =>
      if b = 39 then [Piece.quotation, .quoted b, .quotation] else [.quoted b]).mapM Piece.text =
      some (text.flatMap fun b => if b = 39 then [[], [b], []] else [[b]]) := by
    induction text with
    | nil => rfl
    | cons b text ih =>
      rw [List.flatMap_cons, List.flatMap_cons, List.mapM_append, ih]
      split_ifs <;> rfl
  have hflatten (text : List UInt8) :
      (text.flatMap fun b => if b = 39 then [[], [b], []] else [[b]]).flatten = text := by
    induction text with
    | nil => rfl
    | cons b text ih =>
      rw [List.flatMap_cons, List.flatten_append, ih]
      split_ifs <;> rfl
  rw [Token.text, quotedPieces, List.mapM_cons, hpieces]
  exact congrArg some (hflatten text)

/-- A character that means nothing special outside quotations. -/
def isOrdinary (b : UInt8) : Bool := isNameByte b || b = 45 || b = 61

lemma step_ordinary {b : UInt8} (hb : isOrdinary b = true) (tokens : List Token)
    (word : Option (List Piece)) :
    step ⟨tokens, word, [], .plain⟩ b =
      some ⟨tokens, some (word.getD [] ++ [Piece.plain b]), [], .plain⟩ := by
  have hnone : ∀ c ∈ ([92, 39, 34, 36, 96, 38, 124, 59, 60, 62, 40, 41, 10, 32, 9, 35] : List UInt8),
      b ≠ c := by
    have hspecial : ∀ c ∈ ([92, 39, 34, 36, 96, 38, 124, 59, 60, 62, 40, 41, 10, 32, 9, 35] :
        List UInt8), isOrdinary c = false := by decide +kernel
    rintro c hc rfl
    rw [hspecial b hc] at hb
    cases hb
  simp only [List.forall_mem_cons, List.not_mem_nil, false_implies, implies_true, and_true] at hnone
  have hoperator : isOperator [b] = false := by
    simp [isOperator, hnone]
  simp [step, plainStep, wordStep, hnone, hoperator, State.add]

/-- A word of ordinary characters. -/
lemma run_ordinary {text : List UInt8} (h : ∀ b ∈ text, isOrdinary b = true) (tokens : List Token)
    (pieces : List Piece) :
    run ⟨tokens, some pieces, [], .plain⟩ text =
      some ⟨tokens, some (pieces ++ text.map .plain), [], .plain⟩ := by
  induction text generalizing pieces with
  | nil =>
    rw [List.map_nil, List.append_nil]
    rfl
  | cons b text ih =>
    obtain ⟨hb, hrest⟩ := List.forall_mem_cons.mp h
    rw [run_cons, step_ordinary hb, List.map_cons]
    refine (ih hrest _).trans ?_
    rw [Option.getD_some, List.append_assoc, List.singleton_append]

lemma text_ordinary {text : List UInt8} (h : ∀ b ∈ text, isOrdinary b = true) :
    (Token.word (text.map .plain)).text = some text := by
  have hpieces : (text.map Piece.plain).mapM Piece.text = some (text.map fun b => [b]) := by
    induction text with
    | nil => rfl
    | cons b text ih =>
      obtain ⟨hb, hrest⟩ := List.forall_mem_cons.mp h
      have hplain : Piece.text (.plain b) = some [b] := by
        refine if_neg fun hmem => ?_
        have hspecial : ∀ c ∈ ([42, 63, 91, 126] : List UInt8), isOrdinary c = false := by
          decide +kernel
        rw [hspecial b hmem] at hb
        cases hb
      rw [List.map_cons, List.mapM_cons, hplain, ih hrest]
      rfl
  have hflatten : (text.map fun b => [b]).flatten = text := by
    rw [← List.flatMap_def]
    exact List.flatMap_singleton' text
  rw [Token.text, hpieces]
  exact congrArg some hflatten

/-! ### A line of arguments -/

/-- An argument on a command line: as it is, or quoted. -/
inductive Argument where
  | bare (text : List UInt8)
  | quoted (text : List UInt8)
  deriving DecidableEq

def Argument.text : Argument → List UInt8
  | bare text => text
  | quoted text => text

/-- How the argument is written. -/
def Argument.written : Argument → List UInt8
  | bare text => text
  | quoted text => quote text

def Argument.pieces : Argument → List Piece
  | bare text => text.map .plain
  | quoted text => quotedPieces text

/-- What is written as it is needs no quotation. -/
def Argument.Safe : Argument → Prop
  | bare text => text ≠ [] ∧ ∀ b ∈ text, isOrdinary b = true
  | quoted _ => True

lemma Argument.Safe.text_word {argument : Argument} (h : argument.Safe) :
    (Token.word argument.pieces).text = some argument.text := by
  cases argument with
  | bare text => exact text_ordinary h.2
  | quoted text => exact text_quotedPieces text

/-- An argument becomes a word. -/
lemma Argument.Safe.run_written {argument : Argument} (h : argument.Safe) (tokens : List Token) :
    run ⟨tokens, none, [], .plain⟩ argument.written =
      some ⟨tokens, some argument.pieces, [], .plain⟩ := by
  cases argument with
  | quoted text => exact run_quote rfl rfl text
  | bare text =>
    obtain ⟨hne, hordinary⟩ := h
    obtain ⟨b, rest, rfl⟩ := List.exists_cons_of_ne_nil hne
    obtain ⟨hb, hrest⟩ := List.forall_mem_cons.mp hordinary
    rw [Argument.written, run_cons, step_ordinary hb]
    exact run_ordinary hrest tokens [.plain b]

/-- Arguments that are joined by spaces become one word each; the last one is still open. -/
theorem run_arguments {arguments : List Argument} (h : ∀ argument ∈ arguments, argument.Safe)
    {last : Argument} (hlast : last.Safe) (tokens : List Token) :
    run ⟨tokens, none, [], .plain⟩
        ([32].intercalate ((arguments ++ [last]).map Argument.written)) =
      some ⟨tokens ++ arguments.map fun argument => .word argument.pieces, some last.pieces, [],
        .plain⟩ := by
  induction arguments generalizing tokens with
  | nil =>
    rw [List.nil_append, List.map_singleton, List.intercalate_singleton, List.map_nil,
      List.append_nil]
    exact hlast.run_written tokens
  | cons argument arguments ih =>
    obtain ⟨hargument, hrest⟩ := List.forall_mem_cons.mp h
    have hcons : [32].intercalate ((argument :: arguments ++ [last]).map Argument.written) =
        argument.written ++ (32 :: [32].intercalate ((arguments ++ [last]).map Argument.written)) := by
      obtain ⟨next, others, hnext⟩ : ∃ next others, (arguments ++ [last]).map Argument.written =
          next :: others := List.exists_cons_of_ne_nil (by simp)
      rw [List.cons_append, List.map_cons, hnext, List.intercalate_cons_cons, List.append_assoc]
      rfl
    have hspace : step ⟨tokens, some argument.pieces, [], .plain⟩ 32 =
        some ⟨tokens ++ [.word argument.pieces], none, [], .plain⟩ := by
      simp [step, plainStep, wordStep, State.flush, isOperator]
    rw [hcons, run_append, hargument.run_written, Option.bind_eq_bind, Option.bind_some, run_cons,
      hspace]
    refine (ih hrest (tokens ++ [.word argument.pieces])).trans ?_
    rw [List.append_assoc, List.map_cons, List.singleton_append]

/-- The words of arguments. -/
def argumentTokens (arguments : List Argument) : List Token :=
  arguments.map fun argument => .word argument.pieces

/-- The words of arguments, of which the first is quoted, are a simple command. -/
theorem argumentVector_arguments {name : List UInt8} {arguments : List Argument}
    (h : ∀ argument ∈ arguments, argument.Safe) :
    argumentVector (argumentTokens (.quoted name :: arguments)) =
      some (name :: arguments.map Argument.text) := by
  have htexts (arguments : List Argument) (h : ∀ argument ∈ arguments, argument.Safe) :
      (argumentTokens arguments).mapM Token.text = some (arguments.map Argument.text) := by
    induction arguments with
    | nil => rfl
    | cons argument arguments ih =>
      obtain ⟨hargument, hrest⟩ := List.forall_mem_cons.mp h
      rw [argumentTokens, List.map_cons, List.mapM_cons, hargument.text_word]
      dsimp only [Option.bind_eq_bind, Option.bind_some]
      rw [← argumentTokens, ih hrest]
      rfl
  exact htexts (.quoted name :: arguments) (List.forall_mem_cons.mpr ⟨trivial, h⟩)

/-- The line of arguments is read up to the end of its last word. -/
lemma run_line {arguments : List Argument} (hne : arguments ≠ [])
    (h : ∀ argument ∈ arguments, argument.Safe) :
    ∃ before last, argumentTokens arguments = before ++ [Token.word last] ∧
      run {} ([32].intercalate (arguments.map Argument.written)) =
        some { tokens := before, word := some last } := by
  obtain ⟨before, last, rfl⟩ : ∃ before last, arguments = before ++ [last] :=
    ⟨_, _, (List.dropLast_append_getLast hne).symm⟩
  refine ⟨argumentTokens before, last.pieces, List.map_append, ?_⟩
  exact run_arguments (fun argument hmem => h argument (List.mem_append_left _ hmem))
    (h last (by simp)) []

/-- A line of arguments consists of their words. -/
theorem tokenize_line {arguments : List Argument} (hne : arguments ≠ [])
    (h : ∀ argument ∈ arguments, argument.Safe) :
    tokenize ([32].intercalate (arguments.map Argument.written)) =
      some (argumentTokens arguments) := by
  obtain ⟨before, last, htokens, hrun⟩ := run_line hne h
  rw [tokenize, hrun, htokens]
  exact congrArg some (List.append_nil _)

/-- What a semicolon separates from a line of arguments is read on its own. -/
theorem tokenize_line_append {arguments : List Argument} (hne : arguments ≠ [])
    (h : ∀ argument ∈ arguments, argument.Safe) (rest : List UInt8) :
    tokenize ([32].intercalate (arguments.map Argument.written) ++ 59 :: rest) =
      (run { operator := [59] } rest >>= State.finish).map (argumentTokens arguments ++ ·) := by
  obtain ⟨before, last, htokens, hrun⟩ := run_line hne h
  have hsemicolon : step { tokens := before, word := some last } 59 =
      some (State.after (argumentTokens arguments) { operator := [59] }) := by
    rw [htokens]
    simp [step, plainStep, wordStep, State.flush, State.after, isOperator]
  have hfinish (s : State) : (s.after (argumentTokens arguments)).finish =
      s.finish.map (argumentTokens arguments ++ ·) := by
    have hmode : (s.after (argumentTokens arguments)).mode = s.mode := rfl
    unfold State.finish
    rw [hmode, State.flush_after]
    split
    · rfl
    · rfl
    · rw [State.add_after, State.flush_after]
      rfl
    · rfl
  have hrun : run {} ([32].intercalate (arguments.map Argument.written) ++ 59 :: rest) =
      (run { operator := [59] } rest).map (State.after (argumentTokens arguments)) := by
    rw [run_append, hrun, Option.bind_eq_bind, Option.bind_some, run_cons, hsemicolon,
      Option.bind_eq_bind, Option.bind_some, run_after]
  rw [tokenize, hrun]
  cases run { operator := [59] } rest with
  | none => rfl
  | some s => exact hfinish s

/-- A line of arguments that begins with a quoted one is a simple command with these arguments. -/
theorem simpleCommand_arguments {name : List UInt8} {arguments : List Argument}
    (h : ∀ argument ∈ arguments, argument.Safe) :
    simpleCommand ([32].intercalate ((.quoted name :: arguments).map Argument.written)) =
      some (name :: arguments.map Argument.text) := by
  have hall : ∀ argument ∈ Argument.quoted name :: arguments, argument.Safe :=
    List.forall_mem_cons.mpr ⟨trivial, h⟩
  rw [simpleCommand, tokenize_line (List.cons_ne_nil _ _) hall]
  exact argumentVector_arguments h

end Shell
