import Runbook.Text.Utf8

/-!
# Scripts

Commands as a shell reads them: words with values to be put in, and commands that are combined.
-/

namespace Runbook.Shell

/-- The language that a shell reads. -/
inductive Dialect where
  | plain
  /-- The language with arrays, patterns for more texts, and conditions of its own. -/
  | extended
deriving DecidableEq, Repr, Inhabited

/-- What is done about a variable that has no value, or with the value that it has. -/
inductive Modifier where
  /-- Another text stands for a value that is missing. -/
  | default
  /-- Such a text also becomes the value. -/
  | assign
  /-- Another text stands for a value that is there. -/
  | alternative
  /-- A value that is missing ends the shell. -/
  | required
  /-- A text is cut off at the front, as long as possible if `longest` is set. -/
  | cutFront (longest : Bool)
  | cutEnd (longest : Bool)
deriving DecidableEq, Repr, Inhabited

/-- Whether a text is cut off. -/
def Modifier.cuts : Modifier → Bool
  | .cutFront _ | .cutEnd _ => true
  | _ => false

/-- Which part of a variable is meant. -/
inductive Extent where
  | whole
  /-- The element at an index. -/
  | element
  /-- All elements, which quotes join to one text if `joined` is set. -/
  | all (joined : Bool)
deriving DecidableEq, Repr, Inhabited

/-- The variable that a piece of a word means. -/
structure Subject where
  name : String
  /-- The variable only holds the name of the one that is meant. -/
  indirect : Bool
  extent : Extent
deriving DecidableEq, Repr, Inhabited

/-- Where a text is replaced in another one. -/
inductive ReplaceRange where
  | first
  | every
  | front
  | ending
deriving DecidableEq, Repr, Inhabited

/-- What becomes of letters. -/
inductive LetterCase where
  | upper
  | lower
  | other
deriving DecidableEq, Repr, Inhabited

/-- What is made of the value of a variable. -/
inductive Change where
  | keep
  /-- An empty value counts as missing if `orEmpty` is set. -/
  | modify (orEmpty : Bool) (modifier : Modifier)
  /-- How long it is, or how many elements there are. -/
  | size
  /-- A part of it, up to some length if `bounded` is set. -/
  | slice (bounded : Bool)
  | replace (range : ReplaceRange)
  | recase (letters : LetterCase) (every : Bool)
  /-- A form of the value that a letter names. -/
  | describe (letter : Char)
  /-- A form that there is not, which only a value that is missing has. -/
  | unknown
  /-- The indices of the elements. -/
  | keys (joined : Bool)
  /-- The names of the variables that begin like this one. -/
  | names (joined : Bool)
deriving DecidableEq, Repr, Inhabited

/-- A piece of a word. Fields are made only from the values in pieces that are not quoted. -/
inductive Piece where
  | text (quoted : Bool) (chars : List Char)
  | variable (quoted : Bool) (name : String)
  | length (name : String)
  /-- An empty value counts as missing if `orEmpty` is set. -/
  | modified (quoted : Bool) (name : String) (orEmpty : Bool) (modifier : Modifier)
    (word : List Piece)
  /-- What a script writes, of which the lines are counted from a line on. -/
  | output (quoted : Bool) (line : Nat) (script : List Char)
  | arithmetic (expression : List Piece)
  /-- What looks like a value but is none. -/
  | bad
  /-- Something that is made of a variable, with the text that asks for it. The index belongs to an
  element, and the other words to the change. -/
  | parameter (quoted : Bool) (source : String) (subject : Subject) (index : List Piece)
    (change : Change) (first second : List Piece)
  /-- The path of a file that a script writes or reads. -/
  | process (reads : Bool) (line : Nat) (script : List Char)
  /-- A text that looks like a value but is none. -/
  | wrong (source : String)
deriving Inhabited

/-- A word of a command. -/
abbrev Word := List Piece

/-- The text of a word that has no quotes and no values. -/
def Word.plain? : Word → Option (List Char)
  | [] => some []
  | .text false chars :: rest => (Word.plain? rest).map (chars ++ ·)
  | _ => none

/-- How a stream is redirected. -/
inductive RedirectMode where
  | read
  | write
  /-- In place of what stands in a file, even if the shell is careful. -/
  | force
  | append
  /-- To where another stream goes. -/
  | duplicate
  /-- From a text in the script. -/
  | document
  /-- From a text in the script, with a line break behind it. -/
  | line
  /-- Output and complaints together. -/
  | both
  | appendBoth
deriving DecidableEq, Repr, Inhabited

/-- A redirection of a stream by its number. -/
structure Redirect where
  stream : Nat
  mode : RedirectMode
  target : Word
deriving Inhabited

/-- What is given to a variable. -/
inductive Assigned where
  | text (word : Word)
  /-- The elements of an array: their indices, if they are told, whether they are put behind what
  there is, and their values. -/
  | elements (items : List (Option Word × Bool × Word))
deriving Inhabited

/-- A value for a variable, or for the element of one at an index. -/
structure Assignment where
  name : String
  index? : Option Word
  /-- The value is put behind the one that is there. -/
  appends : Bool
  value : Assigned
deriving Inhabited

/-- An argument of a command that declares variables. -/
inductive Argument where
  | word (word : Word)
  | assignment (assignment : Assignment)
deriving Inhabited

/-- A condition on words. -/
inductive Test where
  | unary (operator : String) (operand : Word)
  | binary (operator : String) (left right : Word)
  | negation (test : Test)
  | both (first second : Test)
  | either (first second : Test)
deriving Inhabited

/-- What comes behind a case that was chosen. -/
inductive CaseEnding where
  | leave
  /-- The next case, whatever its patterns are. -/
  | next
  /-- The other cases, if their patterns cover the word as well. -/
  | again
deriving DecidableEq, Repr, Inhabited

/-- A command. A simple one knows the line in the script on which its first word ends. -/
inductive Command where
  | nothing
  | simple (line : Nat) (assignments : List Assignment) (words : List Word)
    (redirects : List Redirect)
  /-- A command that declares variables. -/
  | declaration (line : Nat) (assignments : List Assignment) (name : String)
    (arguments : List Argument) (redirects : List Redirect)
  /-- An expression, which succeeds if it is not zero. -/
  | arithmetic (line : Nat) (expression : Word)
  | check (line : Nat) (test : Test)
  | negated (command : Command)
  | pipe (left right : Command)
  /-- The second command runs if the first one succeeds. -/
  | both (first second : Command)
  /-- The second command runs if the first one fails. -/
  | either (first second : Command)
  | sequence (first second : Command)
  | background (command : Command)
  | branch (condition yes no : Command)
  /-- The body runs while the condition succeeds, or while it fails if `negative` is set. -/
  | loop (negative : Bool) (condition body : Command)
  /-- The body runs for each field of some words, or for each argument. -/
  | each (name : String) (words : Option (List Word)) (body : Command)
  /-- The body runs for each word that is chosen among some, by its number in what is read. -/
  | menu (name : String) (words : Option (List Word)) (body : Command)
  /-- The body runs while an expression is not zero, and another one is worked out behind each
  round. -/
  | counted (line : Nat) (start condition step : Word) (body : Command)
  /-- The first command runs of which a pattern covers a word. -/
  | select (word : Word) (choices : List (List Word × Command × CaseEnding))
  | subshell (body : Command)
  | redirected (redirects : List Redirect) (command : Command)
  | define (name : String) (body : Command)
deriving Inhabited

/-- Why a script cannot be read. -/
inductive ScriptError where
  | unterminatedQuote
  | missingBrace
  | missingParentheses
  | endOfBackquote
  | badSubstitution
  | badVariable
  | badFunctionName
  | unexpected (found : String) (expected : Option String)
deriving DecidableEq, Repr, Inhabited

/-- The wording of a script error. -/
def ScriptError.message : ScriptError → String
  | .unterminatedQuote => "Syntax error: Unterminated quoted string"
  | .missingBrace => "Syntax error: Missing '\x7d'"
  | .missingParentheses => "Syntax error: Missing '))'"
  | .endOfBackquote => "Syntax error: EOF in backquote substitution"
  | .badSubstitution => "Bad substitution"
  | .badVariable => "Syntax error: Bad for loop variable"
  | .badFunctionName => "Syntax error: Bad function name"
  | .unexpected found none => "Syntax error: " ++ found ++ " unexpected"
  | .unexpected found (some expected) =>
    "Syntax error: " ++ found ++ " unexpected (expecting " ++ expected ++ ")"

/-- A script error, and the line where it stands. -/
structure ScriptFault where
  line : Nat
  cause : ScriptError
deriving DecidableEq, Repr, Inhabited

end Runbook.Shell
