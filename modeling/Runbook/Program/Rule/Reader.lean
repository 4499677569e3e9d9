import Runbook.Program.Rule.Script

/-!
# Reading rules
-/

namespace Runbook.Program.Rule

/-- A name that a call hands on, and where: to which function, and at which place. -/
structure Pass where
  caller? : Option String
  name : Name
  callee : String
  place : Nat
deriving DecidableEq, Repr, Inhabited

/-- What is known while a script is read. -/
structure Draft where
  tokens : List Token
  functions : List (String × Function)
  /-- The function that is read, and its variables. -/
  function? : Option String
  locals : List String
  /-- How many loops stand around what is read. -/
  loops : Nat
  /-- Whether records can be skipped. -/
  hasRecord : Bool
  /-- The names of the whole script that are arrays, and those that are not. -/
  arrays : List String
  scalars : List String
  /-- The variables of functions that are arrays. -/
  ownArrays : List (String × Nat)
  passes : List Pass
  /-- The functions that are called, each with the number of arguments and the line. -/
  calls : List (String × Nat × Nat)
deriving Inhabited

/-- A step of reading. -/
abbrev Reading := StateT Draft (Except ScriptFault)

namespace Reading

/-- The piece that comes next. -/
def peek : Reading Token := return (← get).tokens.headD default

/-- Take the piece that comes next. -/
def skip : Reading Unit := modify fun draft => { draft with tokens := draft.tokens.drop 1 }

/-- Find a fault on a line. -/
def failAt {α : Type} (line : Nat) (text : String) : Reading α := throw (.at line [text])

/-- Find a fault here, for which there is a wording of its own. -/
def failWith {α : Type} (text : String) : Reading α := do failAt (← peek).line text

/-- Find that the next piece is out of place. -/
def fail {α : Type} : Reading α := do
  let token ← peek
  let shown := token.piece.shown
  let closes := match token.piece with
    | .lineEnd | .mark ";" | .mark "\x7d" => true
    | _ => false
  let opens := match token.piece with
    | .ending | .keyword "BEGIN" | .keyword "END" | .keyword "function" => true
    | _ => false
  match token.piece with
  | .broken fault => throw fault
  | _ =>
    if closes && token.parentheses != 0 then failAt token.line ("missing ) near " ++ shown)
    else if opens && token.braces != 0 then failAt token.line ("missing \x7d near " ++ shown)
    else failAt token.line ("syntax error at or near " ++ shown)

/-- Whether the next piece is a mark. -/
def isMark (text : String) : Reading Bool := do
  return match (← peek).piece with
  | .mark other => other == text
  | _ => false

/-- Whether the next piece is a keyword. -/
def isKeyword (word : String) : Reading Bool := do
  return match (← peek).piece with
  | .keyword other => other == word
  | _ => false

/-- Take a mark if it comes next. -/
def accept (text : String) : Reading Bool := do
  if ← isMark text then
    skip
    return true
  return false

/-- Take a mark, which has to come next. -/
def expect (text : String) : Reading Unit := do
  if !(← accept text) then fail

/-- Take a keyword, which has to come next. -/
def expectKeyword (word : String) : Reading Unit := do
  if ← isKeyword word then skip else fail

/-- Skip line breaks. -/
def skipLines : Reading Unit := modify fun draft =>
  { draft with
    tokens := draft.tokens.dropWhile fun token => token.piece matches .lineEnd }

/-! ## Names -/

/-- The variable that a name stands for. -/
def nameOf (name : String) : Reading Name := do
  match (← get).locals.idxOf? name with
  | some index => return .own index
  | none => return .shared name

/-- The variables that the program knows by itself. -/
def knownNames : List String :=
  ["NF", "NR", "FNR", "FS", "OFS", "ORS", "RS", "FILENAME", "SUBSEP", "RSTART", "RLENGTH",
    "CONVFMT", "OFMT", "ARGC"]

/-- A name that is used as a variable. -/
def scalar (name : String) : Reading Name := do
  let found ← nameOf name
  let draft ← get
  match found with
  | .own _ => return found
  | .shared name =>
    if draft.arrays.contains name then failWith ("illegal reference to array " ++ name)
    if (draft.functions.lookup name).isSome then fail
    set { draft with scalars := if draft.scalars.contains name then draft.scalars
      else name :: draft.scalars }
    return found

/-- A name that is used as an array. -/
def array (name : String) : Reading Name := do
  let found ← nameOf name
  let draft ← get
  match found with
  | .own index =>
    let entry := (draft.function?.getD "", index)
    set { draft with ownArrays := if draft.ownArrays.contains entry then draft.ownArrays
      else entry :: draft.ownArrays }
    return found
  | .shared name =>
    if draft.scalars.contains name ∨ knownNames.contains name then
      failWith ("illegal reference to variable " ++ name)
    set { draft with arrays := if draft.arrays.contains name then draft.arrays
      else name :: draft.arrays }
    return found

/-- Whether the next piece is a name that stands alone between the arguments of a call. -/
def loneName? : Reading (Option String) := do
  match (← get).tokens with
  | ⟨.name name, _, _, _⟩ :: ⟨.mark ",", _, _, _⟩ :: _
  | ⟨.name name, _, _, _⟩ :: ⟨.mark ")", _, _, _⟩ :: _ => return some name
  | _ => return none

/-! ## Expressions -/

/-- What stands around an expression: whether a mark for greater values leads output to a file, and
whether the word for members belongs to a loop. -/
structure Around where
  leadsOutput : Bool
  inLoop : Bool

/-- An expression that stands for itself. -/
def Around.free : Around := ⟨false, false⟩

/-- How expressions are written. -/
def flavor : Regex.Flavor := ⟨true, true, false, false, false⟩

/-- The wording of a fault of a pattern. -/
def patternFault : Regex.Fault → String
  | .openParenthesis => "missing ')'"
  | .closingParenthesis => "missing '('"
  | .nothingToRepeat => "missing operand"
  | .openBracket | .emptyBracket | .badClass | .badRange => "bad class -- [], [^] or ["
  | _ => "syntax error ^* or ^+"

/-- The complaint about a pattern that cannot be read. -/
def patternComplaint (chars : List Char) (fault : Regex.Fault) : String :=
  "regular expression compile failed (" ++ patternFault fault ++ ")\n" ++ String.ofList chars

/-- Whether operators at the front of a pattern have nothing to repeat. -/
def repeatsNothing (chars : List Char) : Bool :=
  chars.head?.any fun c => c == '*' || c == '+' || c == '?'

/-- Read a pattern. -/
def regexOf (chars : List Char) : Except String Regex :=
  if repeatsNothing chars then .error (patternComplaint chars .nothingToRepeat)
  else
    match Regex.read flavor chars with
    | .ok regex => .ok regex
    | .error fault => .error (patternComplaint chars fault)

/-- A pattern as an expression. -/
def patternOf (chars : List Char) : Reading Expression := do
  match regexOf chars with
  | .ok regex => return .pattern regex
  | .error text => failWith text

/-- Whether a value can be given to an expression. -/
def isPlace : Expression → Bool
  | .variable _ | .element _ _ | .field _ => true
  | _ => false

/-- The operation of a mark that gives a value, if it is such a mark. -/
def assignment? : String → Option (Option Operation)
  | "=" => some none
  | "+=" => some (some .add)
  | "-=" => some (some .subtract)
  | "*=" => some (some .multiply)
  | "/=" => some (some .divide)
  | "%=" => some (some .modulo)
  | "^=" => some (some .power)
  | _ => none

/-- The relation of a mark, if it is one. -/
def relation? (around : Around) : String → Option Relation
  | "<" => some .less
  | "<=" => some .lessOrEqual
  | "==" => some .equal
  | "!=" => some .different
  | ">=" => if around.leadsOutput then none else some .greaterOrEqual
  | ">" => if around.leadsOutput then none else some .greater
  | _ => none

/-- Whether an expression may begin with a piece that stands behind another one. -/
def beginsOperand : Piece → Bool
  | .number _ _ | .text _ | .pattern _ | .name _ | .caller _ | .builtin _ => true
  | .mark text => ["$", "(", "++", "--", "!"].contains text
  | _ => false

/-- How many arguments a built-in function may have. -/
def argumentCounts (name : String) : Nat × Nat :=
  if name = "substr" then (2, 3)
  else if ["index", "atan2", "match"].contains name then (2, 2)
  else if name = "sprintf" then (1, 1000)
  else if ["rand", "systime"].contains name then (0, 0)
  else if ["srand", "fflush"].contains name then (0, 1)
  else if name = "strftime" then (0, 3)
  else (1, 1)

mutual

/-- Read an expression. -/
def expression : (fuel : Nat) → Around → Reading Expression
  | 0, _ => fail
  | fuel + 1, around => do
    let condition ← disjunction fuel around
    if ← accept "?" then
      skipLines
      let yes ← expression fuel around
      skipLines
      expect ":"
      skipLines
      let no ← expression fuel around
      return .choose condition yes no
    return condition

/-- Read alternatives. -/
def disjunction : (fuel : Nat) → Around → Reading Expression
  | 0, _ => fail
  | fuel + 1, around => do moreDisjunction fuel around (← conjunction fuel around)

def moreDisjunction : (fuel : Nat) → Around → Expression → Reading Expression
  | 0, _, left => return left
  | fuel + 1, around, left => do
    if ← accept "||" then
      skipLines
      moreDisjunction fuel around (.either left (← conjunction fuel around))
    else return left

/-- Read conditions that have to hold together. -/
def conjunction : (fuel : Nat) → Around → Reading Expression
  | 0, _ => fail
  | fuel + 1, around => do moreConjunction fuel around (← membership fuel around)

def moreConjunction : (fuel : Nat) → Around → Expression → Reading Expression
  | 0, _, left => return left
  | fuel + 1, around, left => do
    if ← accept "&&" then
      skipLines
      moreConjunction fuel around (.both left (← membership fuel around))
    else return left

/-- Read whether something is an element of an array. -/
def membership : (fuel : Nat) → Around → Reading Expression
  | 0, _ => fail
  | fuel + 1, around => do moreMembership fuel around (← matching fuel around)

def moreMembership : (fuel : Nat) → Around → Expression → Reading Expression
  | 0, _, left => return left
  | fuel + 1, around, left => do
    if (← isKeyword "in") && !around.inLoop then
      skip
      match (← peek).piece with
      | .name name =>
        let name ← array name
        skip
        let found ← moreProduct fuel around (.member [left] name)
        let found ← moreJoined fuel around (← moreSum fuel around found)
        moreMembership fuel around
          (← moreMatching fuel around (← moreComparison fuel around found))
      | _ => fail
    else return left

/-- Read whether something matches a pattern. -/
def matching : (fuel : Nat) → Around → Reading Expression
  | 0, _ => fail
  | fuel + 1, around => do moreMatching fuel around (← comparison fuel around)

def moreMatching : (fuel : Nat) → Around → Expression → Reading Expression
  | 0, _, left => return left
  | fuel + 1, around, left => do
    if ← accept "~" then
      moreMatching fuel around (.matching false left (← comparison fuel around))
    else if ← accept "!~" then
      moreMatching fuel around (.matching true left (← comparison fuel around))
    else return left

/-- Read a comparison. -/
def comparison : (fuel : Nat) → Around → Reading Expression
  | 0, _ => fail
  | fuel + 1, around => do moreComparison fuel around (← assigned fuel around)

def moreComparison : (fuel : Nat) → Around → Expression → Reading Expression
  | 0, _, left => return left
  | fuel + 1, around, left => do
    let relation? := match (← peek).piece with
      | .mark text => relation? around text
      | _ => none
    match relation? with
    | some relation =>
      skip
      moreComparison fuel around (.compare relation left (← assigned fuel around))
    | none => return left

/-- Read texts that are joined, or a place that is given a value. -/
def assigned : (fuel : Nat) → Around → Reading Expression
  | 0, _ => fail
  | fuel + 1, around => do
    let left ← joined fuel around
    let operation? := match (← peek).piece with
      | .mark text => assignment? text
      | _ => none
    match operation? with
    | some operation? =>
      if !isPlace left then fail
      skip
      return .assign operation? left (← expression fuel around)
    | none => return left

/-- Read texts that are joined. -/
def joined : (fuel : Nat) → Around → Reading Expression
  | 0, _ => fail
  | fuel + 1, around => do moreJoined fuel around (← sum fuel around)

def moreJoined : (fuel : Nat) → Around → Expression → Reading Expression
  | 0, _, left => return left
  | fuel + 1, around, left => do
    if beginsOperand (← peek).piece then
      moreJoined fuel around (.joined left (← sum fuel around))
    else return left

/-- Read a sum. -/
def sum : (fuel : Nat) → Around → Reading Expression
  | 0, _ => fail
  | fuel + 1, around => do moreSum fuel around (← product fuel around)

def moreSum : (fuel : Nat) → Around → Expression → Reading Expression
  | 0, _, left => return left
  | fuel + 1, around, left => do
    if ← accept "+" then
      moreSum fuel around (.operation .add left (← product fuel around))
    else if ← accept "-" then
      moreSum fuel around (.operation .subtract left (← product fuel around))
    else return left

/-- Read a product. -/
def product : (fuel : Nat) → Around → Reading Expression
  | 0, _ => fail
  | fuel + 1, around => do moreProduct fuel around (← signed fuel around)

def moreProduct : (fuel : Nat) → Around → Expression → Reading Expression
  | 0, _, left => return left
  | fuel + 1, around, left => do
    if ← accept "*" then
      moreProduct fuel around (.operation .multiply left (← signed fuel around))
    else if ← accept "/" then
      moreProduct fuel around (.operation .divide left (← signed fuel around))
    else if ← accept "%" then
      moreProduct fuel around (.operation .modulo left (← signed fuel around))
    else return left

/-- Read an operand with signs in front of it. -/
def signed : (fuel : Nat) → Around → Reading Expression
  | 0, _ => fail
  | fuel + 1, around => do
    if ← accept "!" then return .negation (← signed fuel around)
    else if ← accept "-" then return .opposite (← signed fuel around)
    else if ← accept "+" then return .numeric (← signed fuel around)
    else power fuel around

/-- Read a power, and what a command in it writes. -/
def power : (fuel : Nat) → Around → Reading Expression
  | 0, _ => fail
  | fuel + 1, around => do
    let base ← counted fuel around
    if ← accept "^" then
      return .operation .power base (← signedPower fuel around)
    else readingFrom fuel around base

/-- Read an exponent. -/
def signedPower : (fuel : Nat) → Around → Reading Expression
  | 0, _ => fail
  | fuel + 1, around => do
    if ← accept "-" then return .opposite (← signedPower fuel around)
    else if ← accept "+" then return .numeric (← signedPower fuel around)
    else if ← accept "!" then return .negation (← signedPower fuel around)
    else power fuel around

/-- Read that a record is read from a command. -/
def readingFrom : (fuel : Nat) → Around → Expression → Reading Expression
  | 0, _, left => return left
  | fuel + 1, around, left => do
    match (← get).tokens with
    | ⟨.mark "|", _, _, _⟩ :: ⟨.keyword "getline", _, _, _⟩ :: _ =>
      skip
      skip
      let place? ← optionalPlace fuel around
      readingFrom fuel around (.readCommand place? left)
    | ⟨.mark "|", _, _, _⟩ :: _ =>
      if around.leadsOutput then return left
      skip
      fail
    | _ => return left

/-- Read an operand that may be counted up or down. -/
def counted : (fuel : Nat) → Around → Reading Expression
  | 0, _ => fail
  | fuel + 1, around => do
    let before? ← if ← accept "++" then pure (some true)
      else if ← accept "--" then pure (some false)
      else pure none
    match before? with
    | some up =>
      let place ← operand fuel around
      if !isPlace place then fail
      return .count true up place
    | none =>
      let place ← operand fuel around
      if isPlace place then
        if ← accept "++" then return .count false true place
        if ← accept "--" then return .count false false place
      return place

/-- Read a place, if there is one. -/
def optionalPlace : (fuel : Nat) → Around → Reading (Option Expression)
  | 0, _ => return none
  | fuel + 1, around => do
    match (← peek).piece with
    | .name _ | .mark "$" => return some (← operand fuel around)
    | _ => return none

/-- Read an operand. -/
def operand : (fuel : Nat) → Around → Reading Expression
  | 0, _ => fail
  | fuel + 1, around => do
    let token ← peek
    match token.piece with
    | .number x _ =>
      skip
      return .number x
    | .text text =>
      skip
      return .text text
    | .pattern chars =>
      let pattern ← patternOf chars
      skip
      return pattern
    | .mark "$" =>
      skip
      if ← accept "-" then return .field (.opposite (← operand fuel around))
      if ← accept "++" then return .field (.count true true (← operand fuel around))
      if ← accept "--" then return .field (.count true false (← operand fuel around))
      return .field (← operand fuel around)
    | .mark "(" =>
      skip
      let first ← expression fuel .free
      if ← accept "," then
        skipLines
        let others ← expressions fuel
        expect ")"
        if !(← isKeyword "in") then fail
        skip
        match (← peek).piece with
        | .name name =>
          let name ← array name
          skip
          return .member (first :: others) name
        | _ => fail
      expect ")"
      return .group first
    | .keyword "getline" =>
      skip
      let place? ← optionalPlace fuel around
      if ← accept "<" then return .readFile place? (← counted fuel around)
      return .readNext place?
    | .caller name =>
      if ((← get).locals.contains name) then
        skip
        return .variable (← scalar name)
      skip
      skip
      call fuel name token.line
    | .name name =>
      let isFunction := ((← get).functions.lookup name).isSome
      skip
      if ← accept "[" then
        let index ← expressions fuel
        let name ← array name
        expect "]"
        return .element name index
      if isFunction && !(← get).locals.contains name then
        if ← accept "(" then return ← call fuel name token.line
      return .variable (← scalar name)
    | .builtin name =>
      skip
      builtin fuel name token.line
    | _ => fail

/-- Read expressions with commas between them. -/
def expressions : (fuel : Nat) → Reading (List Expression)
  | 0 => fail
  | fuel + 1 => do
    let first ← expression fuel .free
    if ← accept "," then
      skipLines
      return first :: (← expressions fuel)
    return [first]

/-- Read the arguments of a call behind the parenthesis. -/
def call : (fuel : Nat) → (name : String) → (line : Nat) → Reading Expression
  | 0, _, _ => fail
  | fuel + 1, name, line => do
    let given ← arguments fuel name 0
    modify fun draft => { draft with calls := (name, given.length, line) :: draft.calls }
    return .call name given

/-- Read the arguments of a call that are left. -/
def arguments : (fuel : Nat) → (callee : String) → (place : Nat) → Reading (List Expression)
  | 0, _, _ => fail
  | fuel + 1, callee, place => do
    if (← accept ")") && place == 0 then return []
    let argument ← match ← loneName? with
      | some name => do
        let found ← nameOf name
        modify fun draft => { draft with
          passes := ⟨draft.function?, found, callee, place⟩ :: draft.passes }
        skip
        pure (.variable found)
      | none => expression fuel .free
    if ← accept "," then
      skipLines
      return argument :: (← arguments fuel callee (place + 1))
    expect ")"
    return [argument]

/-- Read a call of a built-in function behind its name. -/
def builtin : (fuel : Nat) → (name : String) → (line : Nat) → Reading Expression
  | 0, _, _ => fail
  | fuel + 1, name, line => do
    let record : Expression := .field (.number 0.0)
    if name = "length" then
      if !(← accept "(") then return .builtin name [record]
      if ← accept ")" then return .builtin name [record]
      match ← loneName? with
      | some lone =>
        let found ← nameOf lone
        skip
        expect ")"
        return .size found
      | none =>
        let argument ← expression fuel .free
        expect ")"
        return .builtin name [argument]
    if name = "fflush" ∧ !(← isMark "(") then return .builtin name []
    expect "("
    match name with
    | "split" =>
      let text ← expression fuel .free
      expect ","
      skipLines
      match (← peek).piece with
      | .name target =>
        let target ← array target
        skip
        let separator? ← if ← accept "," then
            skipLines
            pure (some (← expression fuel .free))
          else pure none
        expect ")"
        return .split text target separator?
      | _ => fail
    | "sub" | "gsub" =>
      let pattern ← expression fuel .free
      expect ","
      skipLines
      let replacement ← expression fuel .free
      let place ← if ← accept "," then
          skipLines
          let token ← peek
          let place ← expression fuel .free
          if !isPlace place then
            failAt token.line ("syntax error at or near " ++ token.piece.shown)
          pure place
        else pure record
      expect ")"
      return .substitute (name == "gsub") pattern replacement place
    | _ =>
      let given ← if ← accept ")" then pure [] else do
        let given ← expressions fuel
        expect ")"
        pure given
      let (least, most) := argumentCounts name
      if given.length < least ∨ most < given.length then
        failAt line ("wrong number of arguments in call to " ++ name)
      return .builtin name given

end

/-! ## Statements -/

/-- How deep expressions may be nested, given the pieces that are left. -/
def depth : Reading Nat := return 40 * ((← get).tokens.length + 4)

/-- Read an expression. -/
def whole (around : Around) : Reading Expression := do expression (← depth) around

/-- Whether a statement ends in front of a piece. -/
def endsStatement : Piece → Bool
  | .lineEnd | .ending => true
  | .mark text => text == ";" || text == "\x7d"
  | _ => false

/-- Whether a piece leads output somewhere. -/
def leadsOutput : Piece → Bool
  | .mark text => [">", ">=", ">>", "|"].contains text
  | _ => false

/-- Take what ends a statement. A closing brace stays. -/
def endStatement : Reading Unit := do
  if ← accept ";" then skipLines
  else
    match (← peek).piece with
    | .lineEnd => skipLines
    | .mark "\x7d" => return ()
    | _ => fail

/-- The pieces behind the parenthesis that closes the one that is open. -/
def behindParenthesis : (depth : Nat) → List Token → List Token
  | _, [] => []
  | depth, token :: rest =>
    match token.piece with
    | .mark "(" => behindParenthesis (depth + 1) rest
    | .mark ")" => if depth ≤ 1 then rest else behindParenthesis (depth - 1) rest
    | _ => behindParenthesis depth rest

/-- Read expressions with commas between them that stand in some place. -/
def expressionsIn (around : Around) : (fuel : Nat) → Reading (List Expression)
  | 0 => fail
  | fuel + 1 => do
    let first ← whole around
    if ← accept "," then
      skipLines
      return first :: (← expressionsIn around fuel)
    return [first]

/-- Read what is written. -/
def writtenExpressions : Reading (List Expression) := do
  let tokens := (← get).tokens
  let count := tokens.length + 1
  if endsStatement (← peek).piece || leadsOutput (← peek).piece then return []
  if ← isMark "(" then
    let behind := (behindParenthesis 0 tokens).headD default
    if endsStatement behind.piece || leadsOutput behind.piece then
      skip
      if ← accept ")" then return []
      let given ← expressionsIn .free count
      expect ")"
      return given
  expressionsIn ⟨true, false⟩ count

/-- Read where output goes, if that is told. -/
def outlet? : Reading (Option (OutletKind × Expression)) := do
  let kind? : Option OutletKind := match (← peek).piece with
    | .mark ">" | .mark ">=" => some .file
    | .mark ">>" => some .behindFile
    | .mark "|" => some .command
    | _ => none
  match kind? with
  | some kind =>
    if ← isMark ">=" then
      modify fun draft => { draft with
        tokens := draft.tokens.modifyHead fun token => { token with piece := .mark "=" } }
      fail
    skip
    return some (kind, ← whole ⟨true, false⟩)
  | none => return none

/-- Read a statement that has no statements in it. -/
def plainStatement (inLoop : Bool) : Reading Statement := do
  let token ← peek
  match token.piece with
  | .keyword "print" =>
    skip
    let given ← writtenExpressions
    return .print given (← outlet?)
  | .keyword "printf" =>
    skip
    let given ← writtenExpressions
    if given.isEmpty then failAt token.line "no arguments in call to printf"
    return .printFormat given (← outlet?)
  | .keyword "next" =>
    if !(← get).hasRecord then failWith "improper use of next"
    skip
    return .nextRecord
  | .keyword "nextfile" =>
    if !(← get).hasRecord then failWith "improper use of nextfile"
    skip
    return .nextFile
  | .keyword "exit" =>
    skip
    if endsStatement (← peek).piece then return .leave none
    return .leave (some (← whole .free))
  | .keyword "return" =>
    if (← get).function?.isNone then failWith "return outside function body"
    skip
    if endsStatement (← peek).piece then return .giveBack none
    return .giveBack (some (← whole .free))
  | .keyword "break" =>
    if (← get).loops = 0 then failWith "break statement outside of loop"
    skip
    return .breakLoop
  | .keyword "continue" =>
    if (← get).loops = 0 then failWith "continue statement outside of loop"
    skip
    return .continueLoop
  | .keyword "delete" =>
    skip
    match (← peek).piece with
    | .name name =>
      let name ← array name
      skip
      if ← accept "[" then
        let index ← expressionsIn .free 100
        expect "]"
        return .delete name (some index)
      return .delete name none
    | _ => fail
  | _ => return .evaluate (← whole ⟨false, inLoop⟩)

/-- Read a part of the head of a loop, up to a mark, which is not taken. -/
def headPart (mark : String) : Reading (Option Statement) := do
  if ← isMark mark then return none
  return some (← plainStatement false)

mutual

/-- Read a statement with what ends it. -/
def statement : (fuel : Nat) → Reading Statement
  | 0 => fail
  | fuel + 1 => do
    match (← peek).piece with
    | .mark "\x7b" => block fuel
    | .mark ";" =>
      skip
      skipLines
      return .block []
    | .keyword "if" =>
      skip
      expect "("
      let condition ← whole .free
      expect ")"
      skipLines
      let yes ← statement fuel
      let tokens := (← get).tokens
      skipLines
      if ← isKeyword "else" then
        skip
        skipLines
        return .branch condition yes (← statement fuel)
      modify fun draft => { draft with tokens := tokens }
      return .branch condition yes (.block [])
    | .keyword "while" =>
      skip
      expect "("
      let condition ← whole .free
      expect ")"
      return .loop condition none (← loopBody fuel)
    | .keyword "do" =>
      skip
      skipLines
      let body ← loopBody fuel
      skipLines
      expectKeyword "while"
      expect "("
      let condition ← whole .free
      expect ")"
      endStatement
      return .loopBehind body condition
    | .keyword "for" =>
      skip
      expect "("
      match (← get).tokens with
      | ⟨.name place, _, _, _⟩ :: ⟨.keyword "in", _, _, _⟩ :: ⟨.name source, _, _, _⟩ ::
          ⟨.mark ")", _, _, _⟩ :: rest =>
        let place ← scalar place
        let source ← array source
        modify fun draft => { draft with tokens := rest }
        return .each (.variable place) source (← loopBody fuel)
      | _ =>
        let first? ← headPart ";"
        expect ";"
        skipLines
        let condition? ← if ← isMark ";" then pure none else pure (some (← whole .free))
        expect ";"
        skipLines
        let step? ← headPart ")"
        expect ")"
        let body ← loopBody fuel
        let step? := match step? with
          | some (.evaluate step) => some step
          | _ => none
        return .block (first?.toList ++ [.loop (condition?.getD (.number 1.0)) step? body])
    | _ =>
      let found ← plainStatement false
      endStatement
      return found

/-- Read the body of a loop. -/
def loopBody : (fuel : Nat) → Reading Statement
  | 0 => fail
  | fuel + 1 => do
    skipLines
    modify fun draft => { draft with loops := draft.loops + 1 }
    let body ← statement fuel
    modify fun draft => { draft with loops := draft.loops - 1 }
    return body

/-- Read statements between braces. -/
def block : (fuel : Nat) → Reading Statement
  | 0 => fail
  | fuel + 1 => do
    expect "\x7b"
    let found ← statements fuel
    expect "\x7d"
    return .block found

/-- Read statements up to a brace. -/
def statements : (fuel : Nat) → Reading (List Statement)
  | 0 => fail
  | fuel + 1 => do
    skipLines
    if ← isMark "\x7d" then return []
    let first ← statement fuel
    return first :: (← statements fuel)

end

/-! ## Scripts -/

/-- Read the names of the variables of a function. -/
def variableNames : (fuel : Nat) → List String → Reading (List String)
  | 0, names => return names
  | fuel + 1, names => do
    match (← peek).piece with
    | .name name =>
      if names.contains name then failWith (name ++ " is duplicated in argument list")
      skip
      if ← accept "," then
        skipLines
        variableNames fuel (names ++ [name])
      else return names ++ [name]
    | _ => if names.isEmpty then return [] else fail

/-- Read a function behind its keyword. -/
def function : Reading Unit := do
  let token ← peek
  let name ← match token.piece with
    | .name name | .caller name => pure name
    | _ => fail
  if ((← get).functions.lookup name).isSome then failWith ("redefinition of " ++ name)
  if (← get).scalars.contains name then failWith ("illegal reference to variable " ++ name)
  skip
  expect "("
  let names ← variableNames ((← get).tokens.length + 1) []
  expect ")"
  skipLines
  modify fun draft => { draft with
    function? := some name
    locals := names
    hasRecord := false
    functions := (name, ⟨names, [], .block []⟩) :: draft.functions }
  let body ← block ((← get).tokens.length + 1)
  modify fun draft => { draft with
    function? := none
    locals := []
    functions := (name, ⟨names, [], body⟩) :: draft.functions.filter (·.1 != name) }

/-- Read the statements of a rule. -/
def ruleBlock (hasRecord : Bool) : Reading Statement := do
  modify fun draft => { draft with hasRecord := hasRecord }
  block ((← get).tokens.length + 1)

/-- What a rule without statements does. -/
def writeRecord : Statement := .print [] none

/-- Read a rule. -/
def rule : Reading Rule := do
  match (← peek).piece with
  | .keyword "BEGIN" =>
    skip
    return ⟨.first, ← ruleBlock false⟩
  | .keyword "END" =>
    skip
    return ⟨.last, ← ruleBlock false⟩
  | .mark "\x7b" => return ⟨.every, ← ruleBlock true⟩
  | _ =>
    let first ← whole .free
    let selector ← if ← accept "," then
        skipLines
        pure (Selector.range first (← whole .free))
      else pure (Selector.condition first)
    if ← isMark "\x7b" then return ⟨selector, ← ruleBlock true⟩
    match (← peek).piece with
    | .lineEnd | .mark ";" => return ⟨selector, writeRecord⟩
    | _ => fail

/-- Read the rules and functions that are left. -/
def rules : (fuel : Nat) → Reading (List Rule)
  | 0 => return []
  | fuel + 1 => do
    skipLines
    match (← peek).piece with
    | .ending => return []
    | .keyword "function" =>
      skip
      function
      let _ ← accept ";"
      rules fuel
    | _ =>
      let first ← rule
      let _ ← accept ";"
      return first :: (← rules fuel)

/-- Find out about more names that are arrays: one that is handed on to an array, and one that an
array is handed on to. -/
def spread (draft : Draft) : Draft :=
  draft.passes.foldl (fun draft pass =>
    let source? := pass.caller?.getD ""
    let isArray := match pass.name with
      | .shared name => draft.arrays.contains name
      | .own index => draft.ownArrays.contains (source?, index)
    let isTaken := draft.ownArrays.contains (pass.callee, pass.place)
    if isTaken && !isArray then
      match pass.name with
      | .shared name => { draft with arrays := name :: draft.arrays }
      | .own index => { draft with ownArrays := (source?, index) :: draft.ownArrays }
    else if isArray && !isTaken then
      { draft with ownArrays := (pass.callee, pass.place) :: draft.ownArrays }
    else draft) draft

/-- Find out about all names that are arrays. -/
def spreadAll : (rounds : Nat) → Draft → Draft
  | 0, draft => draft
  | rounds + 1, draft => spreadAll rounds (spread draft)

/-- Read a whole script. -/
def script : Reading Script := do
  let found ← rules ((← get).tokens.length + 1)
  let line := (← peek).line
  let draft := spreadAll ((← get).passes.length + 1) (← get)
  for (name, count, callLine) in draft.calls.reverse do
    match draft.functions.lookup name with
    | none => failAt line ("function " ++ name ++ " never defined")
    | some function =>
      if function.locals.length < count then
        failAt callLine ("too many arguments in call to " ++ name)
  let functions := draft.functions.map fun (name, function) =>
    (name, { function with
      arrays := draft.ownArrays.filterMap fun (owner, index) =>
        if owner = name then some index else none })
  return ⟨found, functions, draft.arrays⟩

end Reading

/-- Read a script. -/
def Script.ofText (text : String) : Except ScriptFault Script :=
  let begun : Draft :=
    { tokens := tokensOf text.toList, functions := [], function? := none, locals := []
      loops := 0, hasRecord := false, arrays := ["ENVIRON", "ARGV"], scalars := [], ownArrays := []
      passes := [], calls := [] }
  (Reading.script.run begun).map (·.1)

/-- The wording of a fault of a script, given the name of the program and the file that the script
comes from. -/
def ScriptFault.message (name : String) (file? : Option String) : ScriptFault → String
  | .at line texts =>
    let place := file?.elim "" (· ++ ": ")
    "\n".intercalate (texts.map fun text =>
      name ++ ": " ++ place ++ "line " ++ Decimal.digitText line ++ ": " ++ text)
  | .character line c =>
    name ++ ": " ++ file?.elim "" (· ++ ": ") ++ Decimal.digitText line
      ++ ": unexpected character '" ++ String.ofList [c] ++ "'"

end Runbook.Program.Rule
