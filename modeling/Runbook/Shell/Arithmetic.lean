import Runbook.Dictionary
import Runbook.Program.Printf

/-!
# Arithmetic in scripts

Expressions over whole numbers of 64 bits. A variable without a value counts as zero.
-/

namespace Runbook.Shell

/-- The values of variables. -/
abbrev Variables := Dictionary String

namespace Arithmetic

/-- A token of an expression. -/
inductive Symbol where
  | number (n : Int)
  | name (text : String)
  | operator (text : String)
  /-- A character that belongs to no token. -/
  | other (c : Char)
deriving DecidableEq, Repr, Inhabited

/-- An expression. -/
inductive Expression where
  | number (n : Int)
  | name (text : String)
  | unary (operator : String) (operand : Expression)
  | binary (operator : String) (left right : Expression)
  | choice (condition yes no : Expression)
  /-- The name becomes the value, or what an operator makes of the old value and it. -/
  | assign (name operator : String) (value : Expression)
deriving DecidableEq, Repr, Inhabited

/-- Why an expression has no value. -/
inductive Fault where
  /-- An operand is missing. -/
  | noPrimary
  /-- A character is missing. -/
  | expecting (text : String)
  | divisionByZero
  /-- A variable is no number. -/
  | noNumber (text : String)
  /-- A variable keeps its value. -/
  | fixed (name : String)
deriving DecidableEq, Repr, Inhabited

/-- The binary operators, each with its strength. -/
def strengths : List (String × Nat) :=
  [("||", 1), ("&&", 2), ("|", 3), ("^", 4), ("&", 5), ("==", 6), ("!=", 6), ("<", 7), ("<=", 7),
    (">", 7), (">=", 7), ("<<", 8), (">>", 8), ("+", 9), ("-", 9), ("*", 10), ("/", 10),
    ("%", 10)]

/-- The operators that assign. -/
def assigning : List String :=
  ["=", "+=", "-=", "*=", "/=", "%=", "<<=", ">>=", "&=", "|=", "^="]

/-- All operators, with the longer ones first. -/
def operators : List String :=
  ["<<=", ">>=", "||", "&&", "==", "!=", "<=", ">=", "<<", ">>", "+=", "-=", "*=", "/=", "%=",
    "&=", "|=", "^=", "=", "|", "^", "&", "<", ">", "+", "-", "*", "/", "%", "!", "~", "?", ":",
    "(", ")"]

/-- The wording of a fault of an expression. -/
def Fault.message (expression : String) : Fault → String
  | .noPrimary => "arithmetic expression: expecting primary: \"" ++ expression ++ "\""
  | .expecting text =>
    "arithmetic expression: expecting " ++ text ++ ": \"" ++ expression ++ "\""
  | .divisionByZero => "arithmetic expression: division by zero: \"" ++ expression ++ "\""
  | .noNumber text => "Illegal number: " ++ text
  | .fixed name => name ++ ": is read only"

/-- Divide an expression into tokens. -/
def symbols : (fuel : Nat) → List Char → List Symbol
  | 0, _ => []
  | _ + 1, [] => []
  | fuel + 1, c :: rest =>
    if c = ' ' ∨ c = '\t' ∨ c = '\n' then symbols fuel rest
    else if c.isDigit then
      match Program.Numeral.readNatural (c :: rest) with
      | some (n, rest) => .number (min n (2 ^ 63 - 1)) :: symbols fuel rest
      | none => [.other c]
    else if c.isAlpha ∨ c = '_' then
      let (more, rest) := rest.span fun c => c.isAlphanum || c == '_'
      .name (String.ofList (c :: more)) :: symbols fuel rest
    else
      match operators.find? (fun text => text.toList.isPrefixOf (c :: rest)) with
      | some text => .operator text :: symbols fuel ((c :: rest).drop text.length)
      | none => [.other c]

/-- An expression and the tokens behind it. -/
abbrev Reading := Except Fault (Expression × List Symbol)

mutual

/-- Read an expression that may assign or choose. -/
def readWhole : (fuel : Nat) → List Symbol → Reading
  | 0, _ => .error .noPrimary
  | fuel + 1, tokens =>
    match tokens with
    | .name name :: .operator text :: rest =>
      if assigning.contains text then do
        let (value, rest) ← readWhole fuel rest
        return (.assign name (String.ofList text.toList.dropLast) value, rest)
      else readChoice fuel tokens
    | _ => readChoice fuel tokens

/-- Read a condition and what it chooses between, if it does. -/
def readChoice : (fuel : Nat) → List Symbol → Reading
  | 0, _ => .error .noPrimary
  | fuel + 1, tokens => do
    let (first, rest) ← readOperand fuel tokens
    let (condition, rest) ← readBinary fuel 0 first rest
    match rest with
    | .operator "?" :: rest =>
      let (yes, rest) ← readWhole fuel rest
      match rest with
      | .operator ":" :: rest =>
        let (no, rest) ← readChoice fuel rest
        return (.choice condition yes no, rest)
      | _ => throw (.expecting "':'")
    | rest => return (condition, rest)

/-- Read the operators that bind more strongly than a bound, and their right operands. -/
def readBinary : (fuel : Nat) → (bound : Nat) → Expression → List Symbol → Reading
  | 0, _, _, _ => .error .noPrimary
  | fuel + 1, bound, left, tokens =>
    match tokens with
    | .operator text :: rest =>
      match strengths.lookup text with
      | some strength =>
        if bound < strength then do
          let (first, rest) ← readOperand fuel rest
          let (right, rest) ← readBinary fuel strength first rest
          readBinary fuel bound (.binary text left right) rest
        else .ok (left, tokens)
      | none => .ok (left, tokens)
    | _ => .ok (left, tokens)

/-- Read a number, a name, or an expression in parentheses, with signs in front of it. -/
def readOperand : (fuel : Nat) → List Symbol → Reading
  | 0, _ => .error .noPrimary
  | fuel + 1, tokens =>
    match tokens with
    | .number n :: rest => .ok (.number n, rest)
    | .name text :: rest => .ok (.name text, rest)
    | .operator "(" :: rest => do
      let (inside, rest) ← readWhole fuel rest
      match rest with
      | .operator ")" :: rest => return (inside, rest)
      | _ => throw (.expecting "')'")
    | .operator text :: rest =>
      if ["-", "+", "!", "~"].contains text then do
        let (operand, rest) ← readOperand fuel rest
        return (.unary text operand, rest)
      else .error .noPrimary
    | _ => .error .noPrimary

end

/-- The number of a truth value. -/
def ofBool (b : Bool) : Int := if b then 1 else 0

/-- Work on the words of two numbers. -/
def onWords (operation : Nat → Nat → Nat) (left right : Int) : Int :=
  operation (left % 2 ^ 64).toNat (right % 2 ^ 64).toNat

/-- The value of an operation on two numbers. -/
def apply (operator : String) (left right : Int) : Except Fault Int :=
  let value : Int := match operator with
    | "+" => left + right
    | "-" => left - right
    | "*" => left * right
    | "/" => left.tdiv right
    | "%" => left.tmod right
    | "<<" => left * 2 ^ (right % 64).toNat
    | ">>" => left.fdiv (2 ^ (right % 64).toNat)
    | "&" => onWords Nat.land left right
    | "|" => onWords Nat.lor left right
    | "^" => onWords Nat.xor left right
    | "==" => ofBool (left == right)
    | "!=" => ofBool (left != right)
    | "<" => ofBool (left < right)
    | "<=" => ofBool (left ≤ right)
    | ">" => ofBool (right < left)
    | ">=" => ofBool (right ≤ left)
    | _ => right
  if (operator = "/" ∨ operator = "%") ∧ right = 0 then .error .divisionByZero
  else .ok (Int.bmod value (2 ^ 64))

/-- The number in a variable. -/
def valueOf (bindings : Variables) (name : String) : Except Fault Int :=
  match bindings.get? name with
  | none => .ok 0
  | some text =>
    if text.toList.all Program.Numeral.isBlank then .ok 0
    else
      match Program.Numeral.readWhole text.toList with
      | some (n, rest) =>
        if rest.all Program.Numeral.isBlank then .ok (max (-2 ^ 63) (min n (2 ^ 63 - 1)))
        else .error (.noNumber text)
      | none => .error (.noNumber text)

/-- The text of a number. -/
def text (n : Int) : String := (if n < 0 then "-" else "") ++ Decimal.digitText n.natAbs

/-- The value of an expression, and the variables after it, some of which keep their values. -/
def evaluate (fixed : List String) (bindings : Variables) :
    Expression → Except Fault (Int × Variables)
  | .number n => .ok (n, bindings)
  | .name name => do return (← valueOf bindings name, bindings)
  | .unary operator operand => do
    let (n, bindings) ← evaluate fixed bindings operand
    let value := match operator with
      | "-" => -n
      | "!" => ofBool (n == 0)
      | "~" => -n - 1
      | _ => n
    return (Int.bmod value (2 ^ 64), bindings)
  | .binary operator left right => do
    let (n, bindings) ← evaluate fixed bindings left
    if operator = "&&" ∧ n = 0 then return (0, bindings)
    if operator = "||" ∧ n ≠ 0 then return (1, bindings)
    let (m, bindings) ← evaluate fixed bindings right
    if operator = "&&" ∨ operator = "||" then return (ofBool (m != 0), bindings)
    return (← apply operator n m, bindings)
  | .choice condition yes no => do
    let (n, bindings) ← evaluate fixed bindings condition
    if n ≠ 0 then evaluate fixed bindings yes else evaluate fixed bindings no
  | .assign name operator value => do
    let (n, bindings) ← evaluate fixed bindings value
    let result ← if operator = "" then pure n else apply operator (← valueOf bindings name) n
    if fixed.contains name then throw (.fixed name)
    return (result, bindings.insert name (text result))

/-- The value of the expression in a text, and the variables after it, some of which keep their
values. -/
def run (fixed : List String) (bindings : Variables) (chars : List Char) :
    Except Fault (Int × Variables) := do
  let tokens := symbols (chars.length + 1) chars
  let (expression, rest) ← readWhole (6 * tokens.length + 12) tokens
  let result ← evaluate fixed bindings expression
  if rest.isEmpty then return result else throw (.expecting "EOF")

end Arithmetic

end Runbook.Shell
