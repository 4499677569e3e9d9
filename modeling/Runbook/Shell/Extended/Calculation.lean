import Runbook.Shell.Extended.Word
import Runbook.Shell.Session

/-!
# Arithmetic of the extended language

Expressions are worked out while they are read, because what a variable holds is an expression
again. A fault shows the rest of the expression from the token on that was read last.
-/

namespace Runbook.Shell.Extended

namespace Calculation

/-- A token of an expression. -/
inductive Symbol where
  | ending
  | number
  /-- A variable, or an element of one. -/
  | variable
  | operator (text : String)
  /-- An operator that gives a variable what another operator makes of its value. -/
  | assigning (text : String)
  /-- A variable is counted up or down, in front of it or behind it. -/
  | count (before up : Bool)
  /-- An expression that has chosen between two others. -/
  | choice
deriving DecidableEq, Repr, Inhabited

/-- Why an expression has no value. -/
inductive Fault where
  /-- Something is wrong with the expression in a text, at a rest of it. -/
  | wrong (expression complaint rest : String)
  /-- A variable has no value where it needs one. -/
  | unbound (name : String)
  /-- It was told already what is wrong. -/
  | told
deriving DecidableEq, Repr, Inhabited

/-- The wording of a fault. -/
def Fault.message? : Fault → Option String
  | .wrong expression complaint rest =>
    some (expression ++ ": " ++ complaint ++ " (error token is \"" ++ rest ++ "\")")
  | .unbound name => some (name ++ ": unbound variable")
  | .told => none

/-- What is known while an expression is worked out. -/
structure Desk where
  session : Session
  /-- The expression, what is left of it, and what is left from the last token on. -/
  expression : List Char
  rest : List Char
  last : List Char
  symbol : Symbol
  before : Symbol
  /-- The value of the last token, and its text if it is a variable. -/
  value : Int
  name : String
  /-- Whether nothing is changed, because the value does not count. -/
  idle : Bool
  /-- How many expressions are worked out, each the value of a variable in the one before. -/
  depth : Nat

/-- What is known before an expression is looked at. -/
def Desk.ofSession (session : Session) : Desk where
  session := session
  expression := []
  rest := []
  last := []
  symbol := .ending
  before := .ending
  value := 0
  name := ""
  idle := false
  depth := 0

/-- A step of the work. What was changed before a fault stays changed. -/
abbrev Work := ExceptT Fault (StateM Desk)

/-- How deep variables may hold expressions with variables. -/
def mostDepth : Nat := 1024

/-- Whether a character is white space. -/
def isBlank (c : Char) : Bool := c == ' ' || c == '\t' || c == '\n'

/-- Find that something is wrong at the last token. -/
def fail {α : Type} (complaint : String) : Work α := do
  let desk ← get
  throw (.wrong (String.ofList (desk.expression.dropWhile isBlank)) complaint
    (String.ofList desk.last))

/-- A number as the word of 64 bits that stands for it. -/
def word (n : Int) : Int := Int.bmod n (2 ^ 64)

/-! ## Numbers -/

/-- The value of a digit, for bases up to 64. -/
def digit? (base : Nat) (c : Char) : Option Nat :=
  if c.isDigit then some (c.toNat - 48)
  else if c.isLower then some (c.toNat - 97 + 10)
  else if c.isUpper then some (c.toNat - 65 + if base ≤ 36 then 10 else 36)
  else if c = '@' then some 62
  else if c = '_' then some 63
  else none

/-- The value of digits in a base. -/
def readDigits (base : Nat) : (value : Nat) → List Char → Except String Nat
  | value, [] => .ok value
  | value, c :: rest =>
    match digit? base c with
    | some digit =>
      if base ≤ digit then .error "value too great for base"
      else readDigits base (value * base + digit) rest
    | none => .error "invalid number"

/-- The number that a text writes: in base 8 or 16 behind a zero, or in the base in front of a
mark. -/
def readNumber (chars : List Char) : Except String Int := do
  let (front, behind) := chars.span (· != '#')
  match behind with
  | _ :: digits =>
    if front.head? = some '0' then throw "invalid number"
    let base ← readDigits 10 0 front
    if base < 2 ∨ 64 < base then throw "invalid arithmetic base"
    if digits.isEmpty then throw "invalid integer constant"
    return word (← readDigits base 0 digits)
  | [] =>
    match chars with
    | '0' :: 'x' :: digits | '0' :: 'X' :: digits => return word (← readDigits 16 0 digits)
    | '0' :: digits => return word (← readDigits 8 0 digits)
    | digits => return word (← readDigits 10 0 digits)

/-! ## Operators -/

/-- The characters that are operators by themselves. -/
def isOperator (c : Char) : Bool := "=><+-*/%!()&|^~?:,".toList.contains c

/-- Whether an operand has to come behind a token. -/
def Symbol.wantsOperand : Symbol → Bool
  | .ending | .operator _ | .assigning _ | .count _ _ | .choice => true
  | .number | .variable => false

/-- The operators of more than one character, with the longer ones first. -/
def longOperators : List (String × Symbol) :=
  [("<<=", .assigning "<<"), (">>=", .assigning ">>"), ("==", .operator "=="),
    ("!=", .operator "!="), (">=", .operator ">="), ("<=", .operator "<="),
    ("<<", .operator "<<"), (">>", .operator ">>"), ("&&", .operator "&&"),
    ("||", .operator "||"), ("**", .operator "**"), ("*=", .assigning "*"),
    ("/=", .assigning "/"), ("%=", .assigning "%"), ("+=", .assigning "+"),
    ("-=", .assigning "-"), ("&=", .assigning "&"), ("|=", .assigning "|"),
    ("^=", .assigning "^")]

/-- The value of an operation on two numbers. -/
def apply (operator : String) (left right : Int) : Int :=
  word (match operator with
    | "+" => left + right
    | "-" => left - right
    | "*" => left * right
    | "/" => left.tdiv right
    | "%" => left.tmod right
    | "<<" => left * 2 ^ (right % 64).toNat
    | ">>" => left.fdiv (2 ^ (right % 64).toNat)
    | "&" => Arithmetic.onWords Nat.land left right
    | "|" => Arithmetic.onWords Nat.lor left right
    | "^" => Arithmetic.onWords Nat.xor left right
    | "==" => Arithmetic.ofBool (left == right)
    | "!=" => Arithmetic.ofBool (left != right)
    | "<" => Arithmetic.ofBool (left < right)
    | "<=" => Arithmetic.ofBool (left ≤ right)
    | ">" => Arithmetic.ofBool (right < left)
    | ">=" => Arithmetic.ofBool (right ≤ left)
    | _ => right)

/-- A power of a number, as a word. -/
def power (base : Int) (exponent : Nat) : Int :=
  if exponent = 0 then 1
  else
    let half := power (word (base * base)) (exponent / 2)
    if exponent % 2 = 0 then half else word (half * base)
termination_by exponent

/-- The operators that always need both operands, from those on that bind most weakly. -/
def binaryLevels : List (List String) :=
  [["|"], ["^"], ["&"], ["==", "!="], ["<", "<=", ">", ">="], ["<<", ">>"], ["+", "-"],
    ["*", "/", "%"]]

/-! ## Variables -/

/-- The name and the index of an element. -/
def splitElement (text : String) : String × Option String :=
  match text.toList.span (· != '[') with
  | (name, _ :: index) => (String.ofList name, some (String.ofList index.dropLast))
  | _ => (text, none)

/-- The text of an index without quotes. -/
def unquoted (text : String) : String :=
  String.ofList (text.toList.filter fun c => c != '"' && c != '\'' && c != '\\')

/-- Complain about an index. -/
def complainOfIndex (text : String) : Work Unit :=
  modify fun desk => { desk with
    session := desk.session.complain (text ++ ": bad array subscript") }

/-- Give a number to a variable. -/
def storeNumber (name : String) (value : Int) : Work Unit := do
  let session := (← get).session
  if session.fixed.contains name then
    modify fun desk => { desk with session := session.complain (name ++ ": readonly variable") }
    throw .told
  modify fun desk => { desk with session := session.store name (Arithmetic.text value) }

mutual

/-- Take the next token. -/
def readSymbol : (fuel : Nat) → Work Unit
  | 0 => throw .told
  | fuel + 1 => do
    let desk ← get
    let chars := desk.rest.dropWhile isBlank
    match chars with
    | [] => set { desk with before := desk.symbol, symbol := .ending, rest := [] }
    | c :: behind =>
      let desk := { desk with last := chars, rest := chars }
      set desk
      let put (symbol : Symbol) (rest : List Char) : Work Unit :=
        modify fun desk => { desk with before := desk.symbol, symbol := symbol, rest := rest }
      if Token.isNameStart c then
        let name := chars.takeWhile Token.isNameChar
        let behind := chars.drop name.length
        let (text, behind) ← match behind with
          | '[' :: index =>
            match spanUntil '[' ']' (2 * index.length + 2) 0 index with
            | some (inside, rest) => pure (name ++ '[' :: inside ++ [']'], rest)
            | none => fail "bad array subscript"
          | behind => pure (name, behind)
        let text := String.ofList text
        -- A variable that is given a value need not have one.
        set { desk with rest := behind, symbol := .variable, idle := true }
        readSymbol fuel
        let next := (← get).symbol
        set desk
        let isCounted := match desk.before, desk.symbol with
          | .count true _, _ | _, .count true _ => true
          | _, _ => false
        if isCounted || next != .operator "=" then
          let value ← valueOf fuel text
          modify fun desk => { desk with value := value }
        else modify fun desk => { desk with value := 0 }
        modify fun desk => { desk with
          name := text, before := desk.symbol, symbol := .variable, rest := behind }
      else if c.isDigit then
        let digits := chars.takeWhile fun c => c.isAlphanum || c == '#' || c == '@' || c == '_'
        match readNumber digits with
        | .ok n => modify fun desk => { desk with value := n }
        | .error complaint =>
          throw (.wrong (String.ofList (desk.expression.dropWhile isBlank)) complaint
            (String.ofList digits))
        put .number (chars.drop digits.length)
      else
        match longOperators.find? fun (text, _) => text.toList.isPrefixOf chars with
        | some (text, symbol) => put symbol (chars.drop text.length)
        | none =>
          if (c = '+' ∨ c = '-') ∧ behind.head? = some c then
            let later := behind.tail
            let up := c = '+'
            if desk.symbol = .variable then put (.count false up) later
            else if desk.symbol = .number ∧ (desk.before matches .count true _) then
              fail (String.ofList [c, c] ++ ": assignment requires lvalue")
            else if (later.dropWhile isBlank).head?.any Token.isNameStart then
              put (.count true up) later
            else put (.operator (String.ofList [c])) behind
          else if isOperator c then put (.operator (String.ofList [c])) behind
          else if desk.symbol.wantsOperand then fail "syntax error: operand expected"
          else fail "syntax error: invalid arithmetic operator"

/-- The value of a variable or an element: that of the expression that it holds. -/
def valueOf : (fuel : Nat) → (text : String) → Work Int
  | 0, _ => throw .told
  | fuel + 1, text => do
    let desk ← get
    if desk.idle then return 0
    let (name, index?) := splitElement text
    let value? ← match index? with
      | none => pure (desk.session.value? name)
      | some index =>
        match ← placeOf fuel name index with
        | none => pure (some "")
        | some (.inl n) =>
          match desk.session.tables.lookup name with
          | some table => pure (table.getAt? n)
          | none => pure (if n = 0 then desk.session.value? name else none)
        | some (.inr key) =>
          pure ((desk.session.tables.lookup name).bind (·.getUnder? key))
    match value? with
    | none =>
      if desk.session.switches.demanding then throw (.unbound text)
      return 0
    | some value => if value = "" then return 0 else inner fuel value.toList

/-- The place of an element: a number or a text. A wrong index is complained about. -/
def placeOf : (fuel : Nat) → (name index : String) → Work (Option (Nat ⊕ String))
  | 0, _, _ => throw .told
  | fuel + 1, name, index => do
    match (← get).session.tables.lookup name with
    | some (.keyed _) => return some (.inr (unquoted index))
    | table? =>
      if index.toList.all isBlank then
        complainOfIndex (name ++ "[" ++ index ++ "]")
        return none
      let n ← inner fuel (unquoted index).toList
      match (table?.getD (.indexed [])).place? n with
      | some place => return some (.inl place)
      | none =>
        complainOfIndex name
        return none

/-- Give a number to a variable or to an element. -/
def assignTo : (fuel : Nat) → (text : String) → (value : Int) → Work Unit
  | 0, _, _ => throw .told
  | fuel + 1, text, value => do
    let (name, index?) := splitElement text
    match index? with
    | none => storeNumber name value
    | some index =>
      if (← get).session.fixed.contains name then storeNumber name value
      match ← placeOf fuel name index with
      | none => throw .told
      | some place =>
        modify fun desk => { desk with
          session := desk.session.storeAt name place (Arithmetic.text value) }

/-- The value of an expression of its own. -/
def inner : (fuel : Nat) → List Char → Work Int
  | 0, _ => throw .told
  | fuel + 1, chars => do
    if chars.all isBlank then return 0
    let desk ← get
    if desk.depth = mostDepth then fail "expression recursion level exceeded"
    set { desk with
      expression := chars, rest := chars, last := chars, symbol := .ending, before := .ending
      value := 0, name := "", depth := desk.depth + 1 }
    readSymbol fuel
    let value ← sequence fuel
    if (← get).symbol != .ending then fail "syntax error in expression"
    modify fun done => { desk with session := done.session }
    return value

/-- Work out expressions with commas between them. -/
def sequence : (fuel : Nat) → Work Int
  | 0 => throw .told
  | fuel + 1 => do
    let value ← assignment fuel
    if (← get).symbol = .operator "," then
      readSymbol fuel
      sequence fuel
    else return value

/-- Work out an expression that may be given to a variable. -/
def assignment : (fuel : Nat) → Work Int
  | 0 => throw .told
  | fuel + 1 => do
    let value ← choice fuel
    let desk ← get
    let operator? : Option (Option String) := match desk.symbol with
      | .operator "=" => some none
      | .assigning text => some (some text)
      | _ => none
    match operator? with
    | none => return value
    | some operator? =>
      if desk.before != .variable then fail "attempted assignment to non-variable"
      let name := desk.name
      readSymbol fuel
      let right ← assignment fuel
      let idle := (← get).idle
      let result ← match operator? with
        | none => pure right
        | some operator =>
          if (operator = "/" ∨ operator = "%") ∧ right = 0 then
            if idle then pure 0 else fail "division by 0"
          else pure (apply operator value right)
      if !idle then assignTo fuel name result
      return result

/-- Work out something that does not count if the condition says so. -/
def weighed : (fuel : Nat) → (isIdle : Bool) → (onlyChoice : Bool) → Work Int
  | 0, _, _ => throw .told
  | fuel + 1, isIdle, onlyChoice => do
    let idle := (← get).idle
    modify fun desk => { desk with idle := idle || isIdle }
    readSymbol fuel
    let symbol := (← get).symbol
    if symbol = .ending ∨ (!onlyChoice ∧ symbol = .operator ":") then fail "expression expected"
    let value ← if onlyChoice then choice fuel else sequence fuel
    modify fun desk => { desk with idle := idle }
    return value

/-- Work out a condition and what it chooses between, if it does. -/
def choice : (fuel : Nat) → Work Int
  | 0 => throw .told
  | fuel + 1 => do
    let condition ← disjunction fuel
    if (← get).symbol != .operator "?" then return condition
    let yes ← weighed fuel (condition == 0) false
    if (← get).symbol != .operator ":" then
      fail ("\x60:' expected for conditional expression")
    let no ← weighed fuel (condition != 0) true
    modify fun desk => { desk with before := .choice }
    return if condition = 0 then no else yes

/-- Work out alternatives. -/
def disjunction : (fuel : Nat) → Work Int
  | 0 => throw .told
  | fuel + 1 => do moreLogic fuel "||" (← conjunction fuel)

/-- Work out conditions that have to hold together. -/
def conjunction : (fuel : Nat) → Work Int
  | 0 => throw .told
  | fuel + 1 => do moreLogic fuel "&&" (← levels fuel 0)

/-- Work out the conditions behind an operator that may leave them out. -/
def moreLogic : (fuel : Nat) → (operator : String) → (left : Int) → Work Int
  | 0, _, _ => throw .told
  | fuel + 1, operator, left => do
    if (← get).symbol != .operator operator then return left
    let idle := (← get).idle
    let decided := (left != 0) == (operator == "||")
    modify fun desk => { desk with idle := idle || decided }
    readSymbol fuel
    let right ← if operator = "||" then conjunction fuel else levels fuel 0
    modify fun desk => { desk with idle := idle }
    let holds := if operator = "||" then left != 0 || right != 0 else left != 0 && right != 0
    modify fun desk => { desk with before := .operator operator }
    moreLogic fuel operator (Arithmetic.ofBool holds)

/-- Work out operators from a level on, of which the later ones bind more strongly. -/
def levels : (fuel level : Nat) → Work Int
  | 0, _ => throw .told
  | fuel + 1, level => do
    match binaryLevels[level]? with
    | none => powers fuel
    | some operators => moreAt fuel level operators (← levels fuel (level + 1))

/-- Work out the operands behind operators of some level. -/
def moreAt : (fuel level : Nat) → (operators : List String) → (left : Int) → Work Int
  | 0, _, _, _ => throw .told
  | fuel + 1, level, operators, left => do
    let desk ← get
    match desk.symbol with
    | .operator operator =>
      if !operators.contains operator then return left
      readSymbol fuel
      let right ← levels fuel (level + 1)
      modify fun desk => { desk with before := .number }
      let byZero := (operator = "/" ∨ operator = "%") ∧ right = 0
      if byZero ∧ !(← get).idle then
        modify fun done => { done with last := desk.rest.dropWhile isBlank }
        fail "division by 0"
      moreAt fuel level operators (if byZero then left else apply operator left right)
    | _ => return left

/-- Work out a power. -/
def powers : (fuel : Nat) → Work Int
  | 0 => throw .told
  | fuel + 1 => do
    let base ← signed fuel
    if (← get).symbol != .operator "**" then return base
    readSymbol fuel
    let exponent ← powers fuel
    modify fun desk => { desk with before := .number }
    if exponent < 0 then fail "exponent less than 0"
    return power base exponent.toNat

/-- Work out an operand with signs in front of it. -/
def signed : (fuel : Nat) → Work Int
  | 0 => throw .told
  | fuel + 1 => do
    let change? : Option (Int → Int) := match (← get).symbol with
      | .operator "!" => some fun n => Arithmetic.ofBool (n == 0)
      | .operator "~" => some fun n => -n - 1
      | .operator "-" => some fun n => -n
      | .operator "+" => some id
      | _ => none
    match change? with
    | none => operand fuel
    | some change =>
      readSymbol fuel
      let value ← signed fuel
      modify fun desk => { desk with before := .number }
      return word (change value)

/-- Work out a number, a variable that may be counted, or an expression in parentheses. -/
def operand : (fuel : Nat) → Work Int
  | 0 => throw .told
  | fuel + 1 => do
    let desk ← get
    let counted (up : Bool) (n : Int) : Int := word (if up then n + 1 else n - 1)
    match desk.symbol with
    | .count true up =>
      modify fun desk => { desk with before := desk.symbol }
      readSymbol fuel
      let found ← get
      if found.symbol != .variable then
        fail "identifier expected after pre-increment or pre-decrement"
      let value := counted up found.value
      if !found.idle then assignTo fuel found.name value
      modify fun desk => { desk with symbol := .number }
      readSymbol fuel
      return value
    | .operator "(" =>
      readSymbol fuel
      let value ← sequence fuel
      if (← get).symbol != .operator ")" then fail "missing \x60)'"
      readSymbol fuel
      return value
    | .number =>
      readSymbol fuel
      return desk.value
    | .variable =>
      set { desk with idle := true }
      readSymbol fuel
      let next ← get
      match next.symbol with
      | .count false up =>
        modify fun next => { next with
          idle := desk.idle, name := desk.name, before := .variable, session := desk.session }
        if !desk.idle then assignTo fuel desk.name (counted up desk.value)
        modify fun next => { next with symbol := .number }
        readSymbol fuel
        return desk.value
      | _ =>
        set desk
        readSymbol fuel
        modify fun next => { next with name := if next.symbol = .variable then next.name
          else desk.name }
        return desk.value
    | _ => fail "syntax error: operand expected"

end

/-- The fuel for one expression. The work stops for other reasons long before it is used up. -/
def fullTank : Nat := 2 ^ 60

/-- The value of the expression in a text, and the session after it. -/
def run (session : Session) (text : String) : Except Fault Int × Session :=
  let (result, done) := (inner fullTank text.toList).run.run (.ofSession session)
  (result, done.session)

/-- The place of an element by its index: a number or a text. -/
def place (session : Session) (name index : String) :
    Except Fault (Option (Nat ⊕ String)) × Session :=
  let (result, done) := (placeOf fullTank name index).run.run (.ofSession session)
  (result, done.session)

end Calculation

end Runbook.Shell.Extended
