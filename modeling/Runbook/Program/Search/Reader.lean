import Runbook.Files
import Runbook.Program.Escape
import Runbook.Program.Numeral
import Runbook.Program.Tool
import Runbook.Regex.Basic
import Runbook.Regex.Reader
import Runbook.Shell.Pattern

/-!
# Search expressions and how they are read

What a search asks about each entry, and how its arguments spell it.
-/

namespace Runbook.Program.Search

/-! ## Search expressions

What a search asks about each entry that it comes to, and what it does there. -/

/-- How a number has to be compared with another one. -/
inductive Relation where
  | less
  | equal
  | greater
deriving DecidableEq, Repr, Inhabited

/-- A number with a relation to it. -/
structure Amount where
  relation : Relation
  count : Nat
deriving DecidableEq, Repr, Inhabited

/-- Whether a number has the relation to an amount. -/
def Amount.holds (amount : Amount) (n : Nat) : Bool :=
  match amount.relation with
  | .less => n < amount.count
  | .equal => n == amount.count
  | .greater => amount.count < n

/-- A part of a form in which entries are written. -/
inductive FormPart where
  | text (bytes : List UInt8)
  /-- Something about the entry, in a column that is filled on one side. -/
  | field (letter : Char) (fillsBehind : Bool) (width : Nat)
  /-- Nothing behind this part is written. -/
  | stop
deriving DecidableEq, Repr, Inhabited

/-- A pattern for a name or a path. -/
structure NamePattern where
  parts : List Shell.PatternPart
  ignoresCase : Bool
deriving DecidableEq, Repr, Inhabited

/-- Whether a pattern covers a text. -/
def NamePattern.covers (pattern : NamePattern) (text : String) : Bool :=
  Shell.PatternPart.covers pattern.parts
    (if pattern.ignoresCase then text.toLower.toList else text.toList)

/-- A question or a deed. -/
inductive Primary where
  | constant (value : Bool)
  | name (pattern : NamePattern)
  | path (pattern : NamePattern)
  | regex (regex : Regex)
  /-- The kind of the entry has one of some letters. -/
  | kind (letters : List Char)
  | empty
  /-- The size in units, of which the last one may not be full. -/
  | size (amount : Amount) (unit : Nat)
  | newer (path : String)
  | same (path : String)
  | linkTarget (pattern : NamePattern)
  | executable
  /-- Write the path with a byte behind it. -/
  | print (ending : UInt8)
  | format (parts : List FormPart)
  /-- Do not go into the directory. -/
  | prune
  /-- End the whole search. -/
  | quit
  | delete
  /-- Run a program. -/
  | run (words : List String)
  /-- Keep the path for a program that gets many of them. -/
  | gather (program : Nat)
deriving Repr, Inhabited

/-- Whether a primary does something, so that paths are not written without being asked for. -/
def Primary.isDeed : Primary → Bool
  | .print _ | .format _ | .quit | .delete | .run _ | .gather _ => true
  | _ => false

/-- What is between two expressions. -/
inductive Operator where
  | comma
  | or
  | and
deriving DecidableEq, Repr, Inhabited

/-- How close an operator binds. -/
def Operator.strength : Operator → Nat
  | .comma => 1
  | .or => 2
  | .and => 3

/-- Questions and deeds put together. -/
inductive Expression where
  | primary (primary : Primary)
  | not (inner : Expression)
  | both (operator : Operator) (first second : Expression)
deriving Repr, Inhabited

/-- How a search goes through directories. -/
structure Limits where
  /-- Entries that are not as deep are passed without a question. -/
  least : Nat
  greatest? : Option Nat
  /-- What is in a directory comes before it. -/
  innerFirst : Bool
  followsLinks : Bool
deriving DecidableEq, Repr, Inhabited

/-- What a search does. -/
structure Plan where
  limits : Limits
  expression : Expression
  /-- The programs that get many paths, each with its first arguments. -/
  programs : List (List String)
  warnings : List String
deriving Repr, Inhabited

/-! ## Reading search expressions

The arguments of a search are first read as tokens. Operators between them then build one
expression. Two tokens without an operator between them both have to hold. -/

/-- A piece of an expression. Operators keep the word by which they were written. -/
inductive Token where
  | opening
  /-- A closing parenthesis, or the end of everything. -/
  | closing (isEnd : Bool)
  | negation (word : String)
  | operator (operator : Operator) (word : String)
  | primary (primary : Primary) (word : String)
deriving Repr, Inhabited

/-- The word of a token. -/
def Token.word : Token → String
  | .opening => "("
  | .closing _ => ")"
  | .negation word | .operator _ word | .primary _ word => word

/-- How far arguments are read: the tokens so far, with the last one first, and what was set. -/
structure Reading where
  tokens : List Token
  limits : Limits
  programs : List (List String)
  warnings : List String
  /-- Regular expressions are read as extended ones. -/
  extended : Bool
deriving Inhabited

namespace Reading

/-- Nothing is read yet. -/
def start (followsLinks : Bool) : Reading := ⟨[], ⟨0, none, false, followsLinks⟩, [], [], false⟩

/-- Whether an expression may end in a token. -/
def ends : Token → Bool
  | .closing _ | .primary _ _ => true
  | _ => false

/-- Whether an expression may begin with a token. -/
def begins : Token → Bool
  | .opening | .negation _ | .primary _ _ => true
  | _ => false

/-- Add a token. Between two expressions the operator may be left out. -/
def push (token : Token) (reading : Reading) : Reading :=
  let joint := if begins token && reading.tokens.head?.any ends
    then [Token.operator .and "-a"] else []
  { reading with tokens := token :: (joint ++ reading.tokens) }

/-- Add a question or a deed. -/
def add (word : String) (primary : Primary) (reading : Reading) : Reading :=
  reading.push (.primary primary word)

/-- Add a question that always has the same answer. -/
def constant (word : String) (value : Bool) (reading : Reading) : Reading :=
  reading.add word (.constant value)

end Reading

/-! ## Values -/

/-- Read a pattern. -/
def readPattern (ignoresCase : Bool) (text : String) : NamePattern :=
  let text := if ignoresCase then text.toLower else text
  let chars := text.toList.map ((false, ·))
  ⟨Shell.PatternPart.ofChars (chars.length + 1) chars, ignoresCase⟩

/-- Read a relation in front of a number. -/
def splitRelation : List Char → Relation × List Char
  | '+' :: rest => (.greater, rest)
  | '-' :: rest => (.less, rest)
  | rest => (.equal, rest)

/-- Read an amount. -/
def readAmount (word text : String) : Except String Amount :=
  let (relation, digits) := splitRelation text.toList
  match Numeral.readRun Decimal.digit? 10 digits with
  | some (n, _, []) => .ok ⟨relation, n⟩
  | _ => .error ("invalid argument \x60" ++ text ++ "' to \x60" ++ word ++ "'")

/-- The bytes in the units of sizes. -/
def sizeUnits : List (Char × Nat) :=
  [('b', 512), ('c', 1), ('w', 2), ('k', 1024), ('M', 1024 ^ 2), ('G', 1024 ^ 3)]

/-- Read a size with the letter of its unit behind it. -/
def readSize (text : String) : Except String Primary := do
  let chars := text.toList
  let some last := chars.getLast? | throw "invalid null argument to -size"
  let (digits, unit) ←
    if last.isDigit then pure (chars, 512)
    else
      match sizeUnits.lookup last with
      | some unit => pure (chars.dropLast, unit)
      | none => throw ("invalid -size type \x60" ++ String.ofList [last] ++ "'")
  let (relation, digits) := splitRelation digits
  match Numeral.readRun Decimal.digit? 10 digits with
  | some (n, _, []) => return .size ⟨relation, n⟩ unit
  | _ => throw ("Invalid argument \x60" ++ text ++ "' to -size")

/-- The letters of the kinds of entries. -/
def kindLetters : List Char := "bcdpflsD".toList

/-- Read letters with commas between them. -/
def readKinds (word : String) : List Char → Except String (List Char)
  | [] => .error ("Arguments to " ++ word ++ " should contain at least one letter")
  | [letter] =>
    if kindLetters.contains letter then .ok [letter]
    else .error ("Unknown argument to " ++ word ++ ": " ++ String.ofList [letter])
  | [letter, ','] =>
    if kindLetters.contains letter then
      .error ("Last file type in list argument to " ++ word
        ++ " is missing, i.e., list is ending on: ','")
    else .error ("Unknown argument to " ++ word ++ ": " ++ String.ofList [letter])
  | letter :: second :: rest => do
    if !kindLetters.contains letter then
      throw ("Unknown argument to " ++ word ++ ": " ++ String.ofList [letter])
    if second != ',' then
      throw ("Must separate multiple arguments to " ++ word ++ " using: ','")
    return letter :: (← readKinds word rest)

/-- Read how deep a search goes. -/
def readDepth (word text : String) : Except String Nat :=
  match Decimal.readNatural (2 ^ 31 - 1) text.toList with
  | some n => .ok n
  | none =>
    .error ("Expected a positive decimal integer argument to " ++ word ++ ", but got "
      ++ Mention.marked text)

/-- An expression with the signs for repetitions behind backslashes, as basic ones have them. -/
def spellRepeats : (inSet : Bool) → List Char → List Char
  | _, [] => []
  | false, '\\' :: c :: rest => '\\' :: c :: spellRepeats false rest
  | false, '[' :: ']' :: rest => '[' :: ']' :: spellRepeats true rest
  | false, '[' :: '^' :: ']' :: rest => '[' :: '^' :: ']' :: spellRepeats true rest
  | false, c :: rest =>
    (if c = '+' ∨ c = '?' then ['\\', c] else [c]) ++ spellRepeats (c == '[') rest
  | true, c :: rest => c :: spellRepeats (c != ']') rest

/-- Read a regular expression for whole paths. -/
def readRegex (extended ignoreCase : Bool) (text : String) : Except String Regex :=
  let chars := if extended then text.toList else spellRepeats false text.toList
  match Regex.read ⟨extended, true, ignoreCase, true, true⟩ chars with
  | .ok regex => .ok (.seq (.edge .lineStart) (.seq regex (.edge .lineEnd)))
  | .error fault =>
    .error ("failed to compile regular expression '" ++ text ++ "': " ++ fault.message)

/-- The names of the forms of regular expressions, and whether they are extended ones. -/
def regexForms : List (String × Bool) :=
  [("findutils-default", false), ("ed", false), ("emacs", false), ("gnu-awk", true),
    ("grep", false), ("posix-awk", true), ("awk", true), ("posix-basic", false),
    ("posix-egrep", true), ("egrep", true), ("posix-extended", true),
    ("posix-minimal-basic", false), ("sed", false)]

/-! ## Forms -/

/-- The letters of what can be written about an entry. -/
def fieldLetters : List Char := "dfghGHklmnpPsuUyY".toList

/-- Read a form: its parts, and warnings about what is not known in it. -/
def readForm : (fuel : Nat) → List Char → Except String (List FormPart × List String)
  | 0, _ | _, [] => .ok ([], [])
  | fuel + 1, '%' :: '%' :: rest => do
    let (parts, warnings) ← readForm fuel rest
    return (.text [37] :: parts, warnings)
  | fuel + 1, '%' :: rest => do
    let flags := rest.takeWhile "-+ 0#".toList.contains
    let digits := (rest.drop flags.length).takeWhile Char.isDigit
    let between := flags ++ digits
    match rest.drop between.length with
    | [] => throw "error: % at end of format string"
    | letter :: rest =>
      let (parts, warnings) ← readForm fuel rest
      if fieldLetters.contains letter then
        let width := (Decimal.readNatural 10000 digits).getD 0
        return (.field letter (flags.contains '-') width :: parts, warnings)
      else
        let text := String.ofList ('%' :: between ++ [letter])
        return (.text (Text.Octets.toBytes text) :: parts,
          ("warning: unrecognized format directive \x60" ++ text ++ "'") :: warnings)
  | fuel + 1, '\\' :: c :: rest => do
    match readDigits octalDigit? 8 3 none (c :: rest) with
    | (some n, rest) =>
      let (parts, warnings) ← readForm fuel rest
      return (.text [n.toUInt8] :: parts, warnings)
    | (none, _) =>
      if c = 'c' then return ([.stop], [])
      let (parts, warnings) ← readForm fuel rest
      match if c = 'e' then none else escapedLetter? c with
      | some byte => return (.text [byte] :: parts, warnings)
      | none =>
        let text := String.ofList ['\\', c]
        return (.text (Text.Octets.toBytes text) :: parts,
          ("warning: unrecognized escape \x60" ++ text ++ "'") :: warnings)
  | fuel + 1, c :: rest => do
    let (parts, warnings) ← readForm fuel rest
    return (.text (Text.Octets.toBytes (String.ofList [c])) :: parts, warnings)

/-! ## Tokens -/

/-- Whether an argument looks like a part of an expression, and not like a path. Some do so only
behind others. -/
def looksLikeToken (leading : Bool) (argument : String) : Bool :=
  match argument.toList with
  | '-' :: _ :: _ => true
  | [')'] | [','] => !leading
  | ['('] | ['!'] => true
  | _ => false

/-- The place that the path of an entry takes in the arguments of a program. -/
def pathMark : String := "\x7b\x7d"

/-- Split the arguments of a program from those behind them. A plus sign behind the mark for paths
says that the program gets many of them. -/
def splitCommand : (before : List String) → List String → Option (List String × Bool × List String)
  | _, [] => none
  | before, ";" :: rest => some (before.reverse, false, rest)
  | mark :: before, "+" :: rest =>
    if mark = pathMark then some (before.reverse, true, rest)
    else splitCommand ("+" :: mark :: before) rest
  | before, word :: rest => splitCommand (word :: before) rest

/-- Read a program to run. -/
def readCommand (reading : Reading) (word : String) (rest : List String) :
    Except String (Reading × List String) :=
  match splitCommand [] rest with
  | none => .error ("missing argument to \x60" ++ word ++ "'")
  | some ([], true, _) =>
    .error ("invalid argument \x60" ++ pathMark ++ "' to \x60" ++ word ++ "'")
  | some ([], false, _) => .error ("invalid argument \x60;' to \x60" ++ word ++ "'")
  | some (words, false, rest) => .ok (reading.add word (.run words), rest)
  | some (words, true, rest) =>
    if words.contains pathMark then
      .error ("Only one instance of " ++ pathMark ++ " is supported with " ++ word ++ " ... +")
    else
      .ok (({ reading with programs := reading.programs ++ [words] }).add word
        (.gather reading.programs.length), rest)

/-- A question without a value, or something that is set. -/
def readAlone? (reading : Reading) (word : String) : Option Reading :=
  let set (limits : Limits) : Option Reading :=
    some ({ reading with limits := limits }.constant word true)
  let limits := reading.limits
  match word with
  | "(" => some (reading.push .opening)
  | ")" => some (reading.push (.closing false))
  | "!" | "-not" => some (reading.push (.negation word))
  | "-a" | "-and" => some (reading.push (.operator .and word))
  | "-o" | "-or" => some (reading.push (.operator .or word))
  | "," => some (reading.push (.operator .comma word))
  | "-depth" | "-d" => set { limits with innerFirst := true }
  | "-follow" => set { limits with followsLinks := true }
  | "-daystart" | "-noleaf" | "-xdev" | "-mount" | "-warn" | "-nowarn" | "-ignore_readdir_race"
  | "-noignore_readdir_race" | "-true" | "-readable" | "-writable" =>
    some (reading.constant word true)
  | "-false" | "-nouser" | "-nogroup" => some (reading.constant word false)
  | "-executable" => some (reading.add word .executable)
  | "-empty" => some (reading.add word .empty)
  | "-print" => some (reading.add word (.print 10))
  | "-print0" => some (reading.add word (.print 0))
  | "-prune" => some (reading.add word .prune)
  | "-quit" => some (reading.add word .quit)
  | "-delete" =>
    some ({ reading with limits := { limits with innerFirst := true } }.add word .delete)
  | _ => none

/-- A question with a value, or something that is set to one. -/
def readValued? (find : String → Except FileError Unit) (reading : Reading) (word : String) :
    Option (String → Except String Reading) :=
  let limits := reading.limits
  let pattern (ignoresCase : Bool) (make : NamePattern → Primary) :
      Option (String → Except String Reading) :=
    some fun text => .ok (reading.add word (make (readPattern ignoresCase text)))
  let regex (ignoreCase : Bool) : Option (String → Except String Reading) :=
    some fun text => do
      return reading.add word (.regex (← readRegex reading.extended ignoreCase text))
  let found (make : String → Primary) : Option (String → Except String Reading) :=
    some fun text =>
      match find text with
      | .ok () => .ok (reading.add word (make text))
      | .error cause => .error (Mention.marked text ++ ": " ++ (cause.message.splitOn " (").headD "")
  let amount (n : Nat) : Option (String → Except String Reading) :=
    some fun text => do
      return reading.constant word ((← readAmount word text).holds n)
  let owner (kind : String) : Option (String → Except String Reading) :=
    some fun text =>
      if text = "root" then .ok (reading.constant word true)
      else
        match Decimal.readNatural (2 ^ 32) text.toList with
        | some n => .ok (reading.constant word (n == 0))
        | none =>
          .error (Mention.marked text ++ " is not the name of " ++ kind)
  match word with
  | "-name" => pattern false .name
  | "-iname" => pattern true .name
  | "-path" | "-wholename" => pattern false .path
  | "-ipath" | "-iwholename" => pattern true .path
  | "-lname" => pattern false .linkTarget
  | "-ilname" => pattern true .linkTarget
  | "-regex" => regex false
  | "-iregex" => regex true
  | "-regextype" => some fun text =>
    match regexForms.lookup text with
    | some extended => .ok ({ reading with extended := extended }.constant word true)
    | none =>
      .error ("Unknown regular expression type " ++ Mention.marked text ++ "; valid types are "
        ++ ", ".intercalate (regexForms.map fun (name, _) => Mention.marked name) ++ ".")
  | "-type" | "-xtype" => some fun text => do
    return reading.add word (.kind (← readKinds word text.toList))
  | "-size" => some fun text => do return reading.add word (← readSize text)
  | "-newer" => found .newer
  | "-samefile" => found .same
  | "-mtime" | "-atime" | "-ctime" | "-mmin" | "-amin" | "-cmin" | "-uid" | "-gid" => amount 0
  | "-user" => owner "a known user"
  | "-group" => owner "an existing group"
  | "-maxdepth" => some fun text => do
    let n ← readDepth word text
    return { reading with limits := { limits with greatest? := some n } }.constant word true
  | "-mindepth" => some fun text => do
    let n ← readDepth word text
    return { reading with limits := { limits with least := n } }.constant word true
  | "-printf" => some fun text => do
    let (parts, warnings) ← readForm (text.length + 1) text.toList
    return { reading with warnings := reading.warnings ++ warnings }.add word (.format parts)
  | _ => none

/-- Read arguments as tokens. -/
def readTokens (find : String → Except FileError Unit) :
    (fuel : Nat) → Reading → List String → Except String Reading
  | 0, reading, _ | _, reading, [] => .ok reading
  | fuel + 1, reading, word :: rest =>
    if !looksLikeToken false word then
      .error ("paths must precede expression: \x60" ++ word ++ "'")
    else if word = "-exec" || word = "-execdir" then do
      let (reading, rest) ← readCommand reading word rest
      readTokens find fuel reading rest
    else
      match readAlone? reading word, readValued? find reading word, rest with
      | some reading, _, rest => readTokens find fuel reading rest
      | none, some _, [] => .error ("missing argument to \x60" ++ word ++ "'")
      | none, some give, value :: rest => do readTokens find fuel (← give value) rest
      | none, none, _ => .error ("unknown predicate \x60" ++ word ++ "'")

/-! ## Expressions -/

/-- The complaint about an operator with nothing behind it. -/
def nothingBehind (previous : Token) (isEnd : Bool) : String :=
  match previous with
  | .negation word | .operator _ word =>
    if isEnd then "expected an expression after " ++ Mention.marked word
    else "expected an expression between " ++ Mention.marked word ++ " and ')'"
  | _ => "invalid expression; you have too many ')'"

mutual

/-- Build an expression of tokens behind some other one. It goes on as long as the operators bind
closer than the one in front of it. -/
def build : (fuel : Nat) → (strength : Nat) → (previous : Token) → List Token →
    Except String (Expression × List Token)
  | 0, _, _, _ | _, _, _, [] => .error "invalid expression"
  | fuel + 1, strength, previous, token :: rest => do
    match token with
    | .operator _ word =>
      throw ("invalid expression; you have used a binary operator " ++ Mention.marked word
        ++ " with nothing before it.")
    | .closing isEnd => throw (nothingBehind previous isEnd)
    | .primary primary _ => extend fuel strength (.primary primary) rest
    | .negation _ =>
      let (inner, rest) ← build fuel 4 token rest
      extend fuel strength (.not inner) rest
    | .opening =>
      match rest with
      | [] | .closing true :: _ =>
        throw ("invalid expression; expected to find a ')' but didn't see one. "
          ++ "Perhaps you need an extra predicate after '('")
      | .closing false :: _ => throw "invalid expression; empty parentheses are not allowed."
      | rest =>
        let (inner, rest) ← build fuel 0 token rest
        match rest with
        | .closing _ :: (next :: rest) => extend fuel strength inner (next :: rest)
        | _ =>
          throw ("invalid expression; I was expecting to find a ')' somewhere but did not see "
            ++ "one.")

/-- Go on behind an expression. -/
def extend : (fuel : Nat) → (strength : Nat) → Expression → List Token →
    Except String (Expression × List Token)
  | 0, _, expression, rest => .ok (expression, rest)
  | fuel + 1, strength, expression, rest =>
    match rest with
    | .operator operator word :: behind =>
      if operator.strength ≤ strength then .ok (expression, rest)
      else do
        let (second, rest) ← build fuel operator.strength (.operator operator word) behind
        extend fuel strength (.both operator expression second) rest
    | rest => .ok (expression, rest)

end

/-- The expression of some tokens. Without a deed, the paths are written for which it holds. -/
def expressionOf (tokens : List Token) : Except String Expression := do
  let print : Expression := .primary (.print 10)
  if tokens.isEmpty then return print
  let acts := tokens.any fun
    | .primary primary _ => primary.isDeed
    | _ => false
  let (expression, rest) ← build (2 * tokens.length + 2) 0 .opening (tokens ++ [.closing true])
  match rest with
  | [.closing true] => return if acts then expression else .both .and expression print
  | _ => throw "you have too many ')'"

/-- Read the arguments of a search: the paths where it begins, and what it does. -/
def readPlan (find : String → Except FileError Unit) (arguments : List String) :
    Except String (List String × Plan) := do
  let own := arguments.takeWhile fun argument =>
    ["-H", "-L", "-P", "-D", "-O", "-O0", "-O1", "-O2", "-O3"].contains argument
  let links := own.filter fun argument => ["-H", "-L", "-P"].contains argument
  let rest := arguments.drop own.length
  let rest := if rest.head? = some "--" then rest.tail else rest
  let (paths, rest) := rest.span (!looksLikeToken true ·)
  let reading ← readTokens find (rest.length + 1) (.start (links.getLast? == some "-L")) rest
  let expression ← expressionOf reading.tokens.reverse
  return (if paths.isEmpty then ["."] else paths,
    ⟨reading.limits, expression, reading.programs, reading.warnings⟩)

end Runbook.Program.Search
