import Runbook.Program.Tool

/-!
# Options

The options in front of the operands of a program, or between them: letters behind one dash, which
may stand together, and words behind two dashes, which may be cut short.
-/

namespace Runbook.Program

/-- Whether an option takes a value. -/
inductive ValueRule where
  | without
  | needed
  | possible
deriving DecidableEq, Repr, Inhabited

/-- An option of a program: its letter, its word, or both. -/
structure OptionForm where
  letter? : Option Char
  word? : Option String
  rule : ValueRule
deriving DecidableEq, Repr, Inhabited

/-- The key of an option: its letter if it has one, and else its word. -/
def OptionForm.key (form : OptionForm) : String :=
  match form.letter? with
  | some letter => String.ofList [letter]
  | none => form.word?.getD ""

/-- The options of a program. -/
abbrev OptionTable := List OptionForm

namespace OptionTable

/-- An option as a table writes it: a letter, a word, or both with a bar between them, and a colon
if it needs a value, or a question mark if it may have one. -/
def formOf (text : String) : OptionForm :=
  let (chars, rule) := match text.toList.getLast? with
    | some ':' => (text.toList.dropLast, ValueRule.needed)
    | some '?' => (text.toList.dropLast, .possible)
    | _ => (text.toList, .without)
  match chars.span (· != '|') with
  | ([letter], []) => ⟨some letter, none, rule⟩
  | (word, []) => ⟨none, some (String.ofList word), rule⟩
  | (front, _ :: word) => ⟨front.head?, some (String.ofList word), rule⟩

/-- A table in text form, with blanks between the options. -/
def ofText (text : String) : OptionTable :=
  ((text.toList.splitOnP fun c => c == ' ' || c == '\n').filter (!·.isEmpty)).map fun entry =>
    formOf (String.ofList entry)

/-- The words of options that begin in some way. A whole word rules out longer ones. -/
def candidates (table : OptionTable) (front : String) : List OptionForm :=
  match table.find? (·.word? == some front) with
  | some form => [form]
  | none => table.filter fun form => form.word?.any (·.startsWith front)

end OptionTable

/-- What is wrong with options. -/
inductive OptionFault where
  | unknownLetter (letter : Char)
  | unknownWord (text : String)
  | ambiguous (text : String) (words : List String)
  | letterAlone (letter : Char)
  | wordAlone (word : String)
  | noValue (word : String)
deriving DecidableEq, Repr, Inhabited

/-- The wording of a fault of options. -/
def OptionFault.message : OptionFault → String
  | .unknownLetter letter => "invalid option -- '" ++ String.ofList [letter] ++ "'"
  | .unknownWord text => "unrecognized option '--" ++ text ++ "'"
  | .ambiguous text words =>
    "option '--" ++ text ++ "' is ambiguous; possibilities:"
      ++ String.join (words.map fun word => " '--" ++ word ++ "'")
  | .letterAlone letter => "option requires an argument -- '" ++ String.ofList [letter] ++ "'"
  | .wordAlone word => "option '--" ++ word ++ "' requires an argument"
  | .noValue word => "option '--" ++ word ++ "' doesn't allow an argument"

/-- The options that are given, each with its value, and the operands. -/
structure Options where
  given : List (String × Option String)
  operands : List String
deriving DecidableEq, Repr, Inhabited

namespace Options

/-- Whether an option is given. -/
def has (options : Options) (key : String) : Bool := (options.given.lookup key).isSome

/-- The values of an option, in order. -/
def values (options : Options) (key : String) : List String :=
  options.given.filterMap fun (other, value?) => if other == key then value? else none

/-- The last value of an option. -/
def value? (options : Options) (key : String) : Option String := (options.values key).getLast?

/-- Which of some options is given last. -/
def last? (options : Options) (keys : List String) : Option String :=
  (options.given.reverse.find? fun (key, _) => keys.contains key).map (·.1)

/-- Put an option in front of those that are given. -/
def add (key : String) (value? : Option String) (options : Options) : Options :=
  { options with given := (key, value?) :: options.given }

/-- An option by its word, in which a value may stand behind an equality sign, and the arguments
behind it. -/
def readWord (table : OptionTable) (text : String) (rest : List String) :
    Except OptionFault ((String × Option String) × List String) :=
  let (front, back) := text.toList.span (· != '=')
  let forms := table.candidates (String.ofList front)
  let value? := if back.isEmpty then none else some (String.ofList back.tail)
  let keys := forms.map OptionForm.key
  match forms with
  | [] => .error (.unknownWord text)
  | form :: _ =>
    if keys.any (· != form.key) then
      .error (.ambiguous text (forms.filterMap (·.word?)))
    else
      let word := form.word?.getD ""
      match form.rule, value?, rest with
      | .without, some _, _ => .error (.noValue word)
      | .needed, none, [] => .error (.wordAlone word)
      | .needed, none, value :: rest => .ok ((form.key, some value), rest)
      | _, value?, rest => .ok ((form.key, value?), rest)

/-- The options that letters behind a dash stand for, and the arguments behind them. The value of an
option may stand behind its letter or be the next argument. -/
def readLetters (table : OptionTable) : List Char → List String →
    Except OptionFault (List (String × Option String) × List String)
  | [], rest => .ok ([], rest)
  | letter :: letters, rest =>
    match table.find? (·.letter? == some letter) with
    | none => .error (.unknownLetter letter)
    | some form =>
      match form.rule, letters, rest with
      | .without, letters, rest => do
        let (others, rest) ← readLetters table letters rest
        return ((form.key, none) :: others, rest)
      | .needed, [], [] => .error (.letterAlone letter)
      | .needed, [], value :: rest => .ok ([(form.key, some value)], rest)
      | .possible, [], rest => .ok ([(form.key, none)], rest)
      | _, value, rest => .ok ([(form.key, some (String.ofList value))], rest)

/-- Whether an argument is an operand. -/
def isOperand (argument : String) : Bool := !argument.startsWith "-" || argument == "-"

/-- Read the options of a program out of its arguments. Two dashes end them, and so does an argument
that is `decisive`. -/
def read (table : OptionTable) (decisive : String → Bool) : (fuel : Nat) → List String →
    Except OptionFault Options
  | 0, operands => .ok ⟨[], operands⟩
  | _ + 1, [] => .ok ⟨[], []⟩
  | _ + 1, "--" :: operands => .ok ⟨[], operands⟩
  | fuel + 1, argument :: rest =>
    if decisive argument then .ok ⟨[], argument :: rest⟩
    else match argument.toList with
    | '-' :: '-' :: word => do
      let ((key, value?), rest) ← readWord table (String.ofList word) rest
      return (← read table decisive fuel rest).add key value?
    | '-' :: c :: letters => do
      let (given, rest) ← readLetters table (c :: letters) rest
      let later ← read table decisive fuel rest
      return { later with given := given ++ later.given }
    | _ => do
      let later ← read table decisive fuel rest
      return { later with operands := argument :: later.operands }

end Options

namespace Tool

/-- How a program reads its options: the code with which it refuses them, the options that it has,
in text form, and which arguments end them. -/
structure OptionRules where
  code : UInt8
  table : String
  decisive : String → Bool

/-- Run a program with its options, or refuse those that it does not have. -/
def withOptionsBy (rules : OptionRules) (name : String) (arguments : List String)
    (body : Options → Run) : Run :=
  match Options.read (.ofText rules.table) rules.decisive (arguments.length + 1) arguments with
  | .ok options => body options
  | .error fault => { refuse name fault.message with status := .exited rules.code }

/-- Run a program with its options, which a table in text form lists, or end with a code because
they are not as they should be. -/
def withOptionsOr (code : UInt8) (name table : String) (arguments : List String)
    (body : Options → Run) : Run :=
  withOptionsBy ⟨code, table, fun _ => false⟩ name arguments body

/-- Run a program with its options, or end with code 1. -/
def withOptions (name table : String) (arguments : List String) (body : Options → Run) : Run :=
  withOptionsOr 1 name table arguments body

/-- The wording of a complaint about an operand too many. -/
def extraOperand (text : String) : String := "extra operand " ++ Mention.marked text

end Tool

end Runbook.Program
