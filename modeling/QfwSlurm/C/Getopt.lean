import Mathlib.Tactic

/-!
# Command-line options in C

`getopt_long`, called until it returns -1, where it may permute the words of the command line.  The
operands go to the end, so the caller finds them behind all the options; `scan` leaves them where
they stand.  `scan_long` is the rule for an option that is written as two words.
-/

namespace C

variable {α : Type}

/-- An option with a long name, `has_arg` and `val`. -/
structure LongOption (α : Type) where
  name : List UInt8
  takesArgument : Bool
  value : α

/-- An option of one character. -/
structure ShortOption (α : Type) where
  character : UInt8
  takesArgument : Bool
  value : α

/-- The two tables of options. -/
structure Getopt (α : Type) where
  long : List (LongOption α)
  short : List (ShortOption α)

/-- What is found on the command line. -/
inductive Found (α : Type) where
  /-- An option with `optarg`, which is empty for an option without an argument. -/
  | option (value : α) (optarg : List UInt8)
  | operand (word : List UInt8)
  /-- `?`: an unknown or ambiguous option, or one whose argument is missing or not allowed. -/
  | unknown
  deriving DecidableEq

def Found.isOperand : Found α → Bool
  | operand _ => true
  | option _ _ | unknown => false

namespace Getopt

/-- The option of a long name, which may be abbreviated to what no other name begins with. -/
def findLong (options : Getopt α) (name : List UInt8) : Option (LongOption α) :=
  match options.long.find? (·.name = name) with
  | some option => some option
  | none =>
    match options.long.filter (name <+: ·.name) with
    | [option] => some option
    | _ => none

/-- The options of one word, of which the last may take the rest of the word, or wait for the next
word. -/
def shortOptions (options : Getopt α) : List UInt8 → List (Found α) × Option α
  | [] => ([], none)
  | character :: rest =>
    match options.short.find? (·.character = character) with
    | none => ((shortOptions options rest).map (.unknown :: ·) id)
    | some option =>
      if ¬ option.takesArgument then (shortOptions options rest).map (.option option.value [] :: ·) id
      else if rest = [] then ([], some option.value)
      else ([.option option.value rest], none)

/-- What a word says, with the option that waits for its argument. -/
def readWord (options : Getopt α) : List UInt8 → List (Found α) × Option α
  | 45 :: 45 :: text =>
    match options.findLong (text.takeWhile (· ≠ 61)), text.dropWhile (· ≠ 61) with
    | none, _ => ([.unknown], none)
    | some option, [] =>
      if option.takesArgument then ([], some option.value) else ([.option option.value []], none)
    | some option, _ :: optarg =>
      if option.takesArgument then ([.option option.value optarg], none) else ([.unknown], none)
  | 45 :: character :: rest => options.shortOptions (character :: rest)
  | word => ([.operand word], none)

/-- The words one after the other, up to the word `--`. -/
def scan (options : Getopt α) : List (List UInt8) → List (Found α)
  | [] => []
  | word :: rest =>
    if word = [45, 45] then rest.map .operand
    else
      match options.readWord word with
      | (found, none) => found ++ scan options rest
      | (found, some value) =>
        match rest with
        | [] => found ++ [.unknown]
        | optarg :: rest => found ++ .option value optarg :: scan options rest

variable {options : Getopt α} {word : List UInt8} {value : α}

/-- A word that waits for its argument takes the next word. -/
lemma scan_waiting (hword : word ≠ [45, 45]) (hread : options.readWord word = ([], some value))
    (optarg : List UInt8) (rest : List (List UInt8)) :
    options.scan (word :: optarg :: rest) = .option value optarg :: options.scan rest := by
  rw [scan, if_neg hword, hread]
  rfl

/-- A word that is an option of its own. -/
lemma scan_flag (hword : word ≠ [45, 45])
    (hread : options.readWord word = ([.option value []], none)) (rest : List (List UInt8)) :
    options.scan (word :: rest) = .option value [] :: options.scan rest := by
  rw [scan, if_neg hword, hread]
  rfl

/-- Options that are written as two words each. -/
lemma scan_pairs {β : Type} {name : β → List UInt8} {value : β → α} {optarg : β → List UInt8}
    {given : List β}
    (hname : ∀ b ∈ given, name b ≠ [45, 45] ∧ options.readWord (name b) = ([], some (value b)))
    (rest : List (List UInt8)) :
    options.scan (given.flatMap (fun b => [name b, optarg b]) ++ rest) =
      given.map (fun b => .option (value b) (optarg b)) ++ options.scan rest := by
  induction given with
  | nil => rfl
  | cons b given ih =>
    obtain ⟨⟨hword, hread⟩, hrest⟩ := List.forall_mem_cons.mp hname
    rw [List.flatMap_cons, List.append_assoc, List.map_cons, List.cons_append, List.cons_append,
      List.cons_append, List.nil_append, ← ih hrest]
    exact scan_waiting hword hread (optarg b) _

end Getopt

end C
