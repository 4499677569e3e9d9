import Runbook.Program.Rule.Value
import Runbook.Regex.Basic
import Runbook.Regex.Reader

/-!
# Rules and their words

A script of rules, and the words in which it is written.
-/

namespace Runbook.Program.Rule

/-! ## Rules

A script of rules tells what is done for the records that it selects. Functions are defined between
the rules. -/

/-- The name of a variable: one of the whole script, or one of a function by its place. -/
inductive Name where
  | shared (name : String)
  | own (index : Nat)
deriving DecidableEq, Repr, Inhabited

/-- An operation on two numbers. -/
inductive Operation where
  | add
  | subtract
  | multiply
  | divide
  | modulo
  | power
deriving DecidableEq, Repr, Inhabited

/-- How two values are compared. -/
inductive Relation where
  | less
  | lessOrEqual
  | equal
  | different
  | greaterOrEqual
  | greater
deriving DecidableEq, Repr, Inhabited

/-- Whether an order is one that a relation asks for. -/
def Relation.holds : Relation → Ordering → Bool
  | .less, order => order == .lt
  | .lessOrEqual, order => order != .gt
  | .equal, order => order == .eq
  | .different, order => order != .eq
  | .greaterOrEqual, order => order != .lt
  | .greater, order => order == .gt

/-- An expression. -/
inductive Expression where
  | number (x : Float)
  | text (text : String)
  /-- An expression between parentheses. -/
  | group (body : Expression)
  /-- Whether the record matches. -/
  | pattern (regex : Regex)
  | variable (name : Name)
  | element (array : Name) (index : List Expression)
  | field (index : Expression)
  /-- Give a value to a place, or the result of an operation on the value that it has. -/
  | assign (operation? : Option Operation) (place value : Expression)
  /-- Count a place up or down. The result is its value before or behind that. -/
  | count (isBefore : Bool) (up : Bool) (place : Expression)
  | choose (condition yes no : Expression)
  | both (first second : Expression)
  | either (first second : Expression)
  | negation (body : Expression)
  | member (index : List Expression) (array : Name)
  | matching (negated : Bool) (subject pattern : Expression)
  | compare (relation : Relation) (left right : Expression)
  | joined (left right : Expression)
  | operation (operation : Operation) (left right : Expression)
  | opposite (body : Expression)
  | numeric (body : Expression)
  | call (function : String) (arguments : List Expression)
  | builtin (name : String) (arguments : List Expression)
  /-- Divide a text into the elements of an array. -/
  | split (text : Expression) (array : Name) (separator? : Option Expression)
  /-- Replace what a pattern matches in a place. -/
  | substitute (everywhere : Bool) (pattern replacement : Expression) (place : Expression)
  | size (array : Name)
  /-- Read the next record into a place. -/
  | readNext (place? : Option Expression)
  | readFile (place? : Option Expression) (path : Expression)
  | readCommand (place? : Option Expression) (command : Expression)
deriving Inhabited

/-- Where output goes. -/
inductive OutletKind where
  | file
  | behindFile
  | command
deriving DecidableEq, Repr, Inhabited

/-- A statement. -/
inductive Statement where
  | evaluate (expression : Expression)
  | print (arguments : List Expression) (outlet? : Option (OutletKind × Expression))
  | printFormat (arguments : List Expression) (outlet? : Option (OutletKind × Expression))
  | branch (condition : Expression) (yes no : Statement)
  | loop (condition : Expression) (step? : Option Expression) (body : Statement)
  | loopBehind (body : Statement) (condition : Expression)
  | each (place : Expression) (array : Name) (body : Statement)
  | block (statements : List Statement)
  | nextRecord
  | nextFile
  | leave (code? : Option Expression)
  | giveBack (value? : Option Expression)
  | breakLoop
  | continueLoop
  | delete (array : Name) (index? : Option (List Expression))
deriving Inhabited

/-- What selects records. -/
inductive Selector where
  /-- Before the first record. -/
  | first
  /-- Behind the last record. -/
  | last
  | every
  | condition (condition : Expression)
  | range (first last : Expression)
deriving Inhabited

/-- A rule. Without a statement, it writes the record. -/
structure Rule where
  selector : Selector
  statement : Statement
deriving Inhabited

/-- A function: its variables, the first of which are its parameters, and which of them are
arrays. -/
structure Function where
  locals : List String
  arrays : List Nat
  body : Statement
deriving Inhabited

/-- A script. -/
structure Script where
  rules : List Rule
  functions : List (String × Function)
  /-- The arrays of the whole script. -/
  arrays : List String
deriving Inhabited

/-! ## The words of rules -/

/-- What is wrong with a script, in words, with the line where that was found. -/
inductive ScriptFault where
  | at (line : Nat) (texts : List String)
  /-- A character that belongs to nothing. -/
  | character (line : Nat) (c : Char)
deriving DecidableEq, Repr, Inhabited

/-- A piece of a script. -/
inductive Piece where
  | number (x : Float) (text : String)
  | text (text : String)
  /-- A pattern between slashes. -/
  | pattern (chars : List Char)
  | name (name : String)
  /-- A name with a parenthesis behind it at once. -/
  | caller (name : String)
  | keyword (word : String)
  | builtin (name : String)
  | mark (text : String)
  | lineEnd
  | ending
  /-- What follows is not divided into pieces. -/
  | broken (fault : ScriptFault)
deriving Inhabited

/-- The text of a piece in a complaint. -/
def Piece.shown : Piece → String
  | .number _ shown | .text shown | .name shown | .caller shown | .keyword shown | .builtin shown
  | .mark shown => shown
  | .pattern chars => "/" ++ String.ofList chars ++ "/"
  | .lineEnd => "end of line"
  | .ending | .broken _ => "end of file"

/-- A piece, its line, and how many parentheses and braces are open behind it. -/
structure Token where
  piece : Piece
  line : Nat
  parentheses : Nat
  braces : Nat
deriving Inhabited

/-- The words that mean something. -/
def keywords : List String :=
  ["BEGIN", "END", "function", "if", "else", "while", "for", "do", "break", "continue", "next",
    "nextfile", "exit", "return", "delete", "in", "getline", "print", "printf"]

/-- The names of functions that need no definition. -/
def builtins : List String :=
  ["length", "substr", "index", "split", "sub", "gsub", "match", "sprintf", "sin", "cos", "atan2",
    "exp", "log", "sqrt", "int", "rand", "srand", "tolower", "toupper", "system", "close", "fflush",
    "systime", "mktime", "strftime"]

/-- The marks, the longest ones first. -/
def marks : List String :=
  ["&&", "||", "++", "--", "+=", "-=", "*=", "/=", "%=", "^=", "==", "<=", ">=", "!=", "!~", ">>",
    "\x7b", "\x7d", "(", ")", "[", "]", ";", ",", "+", "-", "*", "/", "%", "^", "!", ">", "<", "|",
    "?", ":", "~", "$", "="]

/-- The character that an escape in a text stands for, and what stands behind it. -/
def unescapeOne : List Char → List Char × List Char
  | [] => (['\\'], [])
  | c :: rest =>
    match ([('"', '"'), ('\\', '\\'), ('a', '\x07'), ('b', '\x08'), ('f', '\x0c'), ('n', '\n'),
      ('r', '\r'), ('t', '\t'), ('v', '\x0b')] : List (Char × Char)).lookup c with
    | some meant => ([meant], rest)
    | none =>
      let octal := ((c :: rest).take 3).takeWhile fun c => '0' ≤ c && c ≤ '7'
      let inBase (base : Nat) (digits : List Char) : Char :=
        Char.ofNat (digits.foldl (fun n c =>
          n * base + (if c.isDigit then c.toNat - 48 else c.toLower.toNat - 87)) 0 % 256)
      if !octal.isEmpty then ([inBase 8 octal], (c :: rest).drop octal.length)
      else if c = 'x' then
        let digits := (rest.take 2).takeWhile fun c =>
          c.isDigit || ('a' ≤ c.toLower && c.toLower ≤ 'f')
        if digits.isEmpty then (['\\', 'x'], rest)
        else ([inBase 16 digits], rest.drop digits.length)
      else (['\\', c], rest)

/-- A text with what its escapes stand for. -/
def unescape : (fuel : Nat) → List Char → List Char
  | 0, _ => []
  | _ + 1, [] => []
  | fuel + 1, '\\' :: '\n' :: rest => unescape fuel rest
  | fuel + 1, '\\' :: rest =>
    let (chars, rest) := unescapeOne rest
    chars ++ unescape fuel rest
  | fuel + 1, c :: rest => c :: unescape fuel rest

/-- The characters in front of a mark that no backslash stands before, and what stands behind the
mark. -/
def spanQuoted (mark : Char) : List Char → Option (List Char × List Char)
  | [] => none
  | '\\' :: c :: rest =>
    (spanQuoted mark rest).map fun (front, behind) => ('\\' :: c :: front, behind)
  | c :: rest =>
    if c = mark then some ([], rest)
    else if c = '\n' then none
    else (spanQuoted mark rest).map fun (front, behind) => (c :: front, behind)

/-- The characters of a pattern in front of the slash that ends it. Slashes in sets do not. -/
def spanPattern : (inSet : Bool) → List Char → Option (List Char × List Char)
  | _, [] => none
  | inSet, '\\' :: '/' :: rest =>
    (spanPattern inSet rest).map fun (front, behind) => ('/' :: front, behind)
  | inSet, '\\' :: c :: rest =>
    (spanPattern inSet rest).map fun (front, behind) => ('\\' :: c :: front, behind)
  | inSet, c :: rest =>
    if c = '\n' then none
    else if c = '/' ∧ !inSet then some ([], rest)
    else
      let inSet := if c = '[' then true else if c = ']' then false else inSet
      (spanPattern inSet rest).map fun (front, behind) => (c :: front, behind)

/-- Whether a slash behind a piece divides. -/
def divides : Option Piece → Bool
  | some (.number _ _) | some (.text _) | some (.name _) | some (.pattern _) => true
  | some (.keyword word) => word == "getline"
  | some (.mark text) => [")", "]", "$", "++", "--"].contains text
  | _ => false

/-- Whether line breaks behind a piece mean nothing. -/
def goesOn : Option Piece → Bool
  | some (.mark text) => ["\x7b", "&&", "||", ","].contains text
  | some (.keyword word) => word == "do" || word == "else"
  | _ => false

/-- How far a script is divided into pieces. -/
structure Scan where
  line : Nat
  parentheses : Nat
  braces : Nat
  /-- The pieces, the last one first. -/
  tokens : List Token

namespace Scan

/-- The last piece. -/
def last? (scan : Scan) : Option Piece := scan.tokens.head?.map (·.piece)

/-- Add a piece. -/
def add (scan : Scan) (piece : Piece) : Scan :=
  { scan with tokens := ⟨piece, scan.line, scan.parentheses, scan.braces⟩ :: scan.tokens }

/-- Add a mark, and count it if it is a parenthesis or a brace. -/
def addMark (scan : Scan) (text : String) : Except ScriptFault Scan :=
  match text with
  | "(" => .ok ({ scan with parentheses := scan.parentheses + 1 }.add (.mark text))
  | "\x7b" => .ok ({ scan with braces := scan.braces + 1 }.add (.mark text))
  | ")" =>
    if scan.parentheses = 0 then .error (.at scan.line ["extra ')'"])
    else .ok ({ scan with parentheses := scan.parentheses - 1 }.add (.mark text))
  | "\x7d" =>
    if scan.braces = 0 then .error (.at scan.line ["extra '\x7d'",
      "syntax error at or near end of line"])
    else .ok ({ scan with braces := scan.braces - 1 }.add (.mark text))
  | text => .ok (scan.add (.mark text))

end Scan

/-- Divide a script into pieces. -/
def scan : (fuel : Nat) → Scan → List Char → Scan
  | 0, state, _ => state
  | _ + 1, state, [] =>
    { state.add .lineEnd with line := state.line + 1 }.add .ending
  | fuel + 1, state, c :: rest =>
    if c = ' ' ∨ c = '\t' ∨ c = '\r' then scan fuel state rest
    else if c = '\n' then
      let next := if goesOn state.last? then state else state.add .lineEnd
      scan fuel { next with line := state.line + 1 } rest
    else if c = '#' then scan fuel state (rest.dropWhile (· != '\n'))
    else if c = '"' then
      match spanQuoted '"' rest with
      | some (chars, behind) =>
        let text := String.ofList (unescape (chars.length + 1) chars)
        let lines := chars.count '\n'
        scan fuel { state.add (.text text) with line := state.line + lines } behind
      | none =>
        let shown := String.ofList ((rest.takeWhile (· != '\n')).take 10)
        state.add (.broken (.at state.line ["runaway string constant \"" ++ shown ++ " ..."]))
    else if c.isDigit ∨ (c = '.' ∧ rest.head?.any Char.isDigit) then
      let inBase16 := c == '0' && rest.head?.any fun c => c == 'x' || c == 'X'
      let (x, behind) := if inBase16 then (0.0, rest) else (readNumber (c :: rest)).getD (0.0, rest)
      let shown := String.ofList ((c :: rest).take ((c :: rest).length - behind.length))
      scan fuel (state.add (.number x shown)) behind
    else if c.isAlpha ∨ c = '_' then
      let chars := (c :: rest).takeWhile fun c => c.isAlphanum || c == '_'
      let behind := (c :: rest).drop chars.length
      let word := String.ofList chars
      let piece : Piece :=
        if keywords.contains word then .keyword word
        else if builtins.contains word then .builtin word
        else if behind.head? = some '(' then .caller word
        else .name word
      scan fuel (state.add piece) behind
    else if c = '/' ∧ !divides state.last? then
      match spanPattern false rest with
      | some (chars, behind) => scan fuel (state.add (.pattern chars)) behind
      | none =>
        let shown := String.ofList ((rest.takeWhile (· != '\n')).take 10)
        state.add (.broken (.at state.line ["runaway regular expression /" ++ shown ++ " ..."]))
    else if c = '\\' ∧ rest.head? = some '\n' then
      scan fuel { state with line := state.line + 1 } (rest.drop 1)
    else
      match marks.find? fun mark => mark.toList.isPrefixOf (c :: rest) with
      | some mark =>
        match state.addMark mark with
        | .ok state => scan fuel state ((c :: rest).drop mark.length)
        | .error fault => state.add (.broken fault)
      | none => state.add (.broken (.character state.line c))

/-- The pieces of a script. -/
def tokensOf (chars : List Char) : List Token :=
  (scan (chars.length + 2) ⟨1, 0, 0, []⟩ chars).tokens.reverse

end Runbook.Program.Rule
