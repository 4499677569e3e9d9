import Runbook.Shell.Extended.Value

/-!
# Conditions of the extended language

Conditions in the arguments of a command. A few arguments are told apart by their number, and more
of them by a grammar.
-/

namespace Runbook.Shell.Extended

namespace Condition

/-- Whether a text is an operator on one text. -/
def isUnary (text : String) : Bool :=
  match text.toList with
  | ['-', c] => "abcdefghknoprstuvwxzLNSGOR".toList.contains c
  | _ => false

/-- Whether a text is an operator between two texts. -/
def isBinary (text : String) : Bool :=
  ["=", "==", "!=", "<", ">", "-eq", "-ne", "-lt", "-le", "-gt", "-ge", "-nt", "-ot",
    "-ef"].contains text

/-- Whether a variable or an element has a value. -/
def isSet (session : Session) (text : String) : Session × Bool :=
  let (name, index?) := Calculation.splitElement text
  let name := session.meant name
  match index? with
  | none => (session, (session.value? name).isSome)
  | some index =>
    if index = "@" ∨ index = "*" then (session, (session.tableOf name).size != 0)
    else
      match session.placeIn name (Calculation.unquoted index) with
      | (session, some place) => (session, (session.elementAt? name place).isSome)
      | (session, none) => (session, false)

/-- A condition on one text. -/
def unary (session : Session) (operator text : String) : Session × Bool :=
  match operator with
  | "-v" => isSet session text
  | "-o" => (session, OptionName.isSettingOn session.switches session.extras text)
  | "-R" => (session, session.hasTrait text 'n')
  | "-a" => (session, (Program.Condition.unary? session.around "-e" text).getD false)
  | _ => (session, (Program.Condition.unary? session.around operator text).getD false)

/-- The number in a text with blanks around it. -/
def number? (text : String) : Option Int :=
  let (n?, rest) : Option Int × List Char := match Program.Numeral.splitSign (text.toList.dropWhile
      Program.Numeral.isBlank) with
    | (negative, digits) =>
      let front := digits.takeWhile Char.isDigit
      ((Decimal.readNatural (if negative then 2 ^ 63 else 2 ^ 63 - 1) front).map fun n =>
        if negative then -(n : Int) else n, digits.drop front.length)
  n?.filter fun _ => rest.all Program.Numeral.isBlank

/-- A comparison of two texts, or the text that is no number. -/
def binary (session : Session) (left operator right : String) : Except String Bool :=
  let around := session.around
  match operator with
  | "=" | "==" => .ok (left == right)
  | "!=" => .ok (left != right)
  | "<" => .ok (left < right)
  | ">" => .ok (right < left)
  | "-nt" => .ok (around.isNewer true left right)
  | "-ot" => .ok (around.isNewer true right left)
  | "-ef" => .ok (around.isSame left right)
  | _ =>
    match number? left, number? right, Program.Condition.compare? operator with
    | some n, some m, some test => .ok (test n m)
    | none, _, _ => .error left
    | _, none, _ => .error right
    | _, _, none => .ok false

/-- Where the reading of arguments stands. -/
structure State where
  session : Session
  rest : List String

/-- A step of reading. The fault is what is told. -/
abbrev Step := StateT State (Except String)

/-- Tell that an argument is missing. -/
def missing {α : Type} : Step α := throw "argument expected"

/-- Take an argument. -/
def take : Step String := do
  let state ← get
  match state.rest with
  | [] => missing
  | first :: rest =>
    set { state with rest := rest }
    return first

/-- A condition on the text behind an operator. -/
def unaryStep : Step Bool := do
  let operator ← take
  let text ← take
  let state ← get
  let (session, answer) := unary state.session operator text
  set { state with session := session }
  return answer

/-- A comparison of texts around an operator. -/
def binaryStep : Step Bool := do
  let left ← take
  let operator ← take
  let right ← take
  match binary (← get).session left operator right with
  | .ok answer => return answer
  | .error text => throw (text ++ ": integer expression expected")

/-- A condition out of two arguments. -/
def ofTwo : Step Bool := do
  let state ← get
  match state.rest with
  | "!" :: second :: _ => return second == ""
  | first :: _ => if isUnary first then unaryStep else throw (first ++ ": unary operator expected")
  | [] => missing

/-- A condition out of three arguments. -/
def ofThree : Step Bool := do
  let state ← get
  match state.rest with
  | [first, second, third] =>
    if isBinary second then binaryStep
    else if second = "-a" then return first != "" && third != ""
    else if second = "-o" then return first != "" || third != ""
    else if first = "!" then
      let _ ← take
      return !(← ofTwo)
    else if first = "(" ∧ third = ")" then return second != ""
    else throw (second ++ ": binary operator expected")
  | _ => missing

mutual

/-- Conditions of which one has to hold. -/
def disjunction : (fuel : Nat) → Step Bool
  | 0 => missing
  | fuel + 1 => do
    let first ← conjunction fuel
    if (← get).rest.head? = some "-o" then
      let _ ← take
      let second ← disjunction fuel
      return first || second
    return first

/-- Conditions of which all have to hold. -/
def conjunction : (fuel : Nat) → Step Bool
  | 0 => missing
  | fuel + 1 => do
    let first ← term fuel
    if (← get).rest.head? = some "-a" then
      let _ ← take
      let second ← conjunction fuel
      return first && second
    return first

/-- One condition. -/
def term : (fuel : Nat) → Step Bool
  | 0 => missing
  | fuel + 1 => do
    match (← get).rest with
    | [] => missing
    | "!" :: rest =>
      let _ ← take
      if rest.isEmpty then missing
      return !(← term fuel)
    | "(" :: rest =>
      let _ ← take
      if rest.isEmpty then missing
      let answer ← disjunction fuel
      match (← get).rest with
      | [] => throw "\x60)' expected"
      | ")" :: _ =>
        let _ ← take
        return answer
      | found :: _ => throw ("\x60)' expected, found " ++ found)
    | first :: second :: rest =>
      if isBinary second && !rest.isEmpty then binaryStep
      else if isUnary first then unaryStep
      else
        let _ ← take
        return first != ""
    | [first] =>
      let _ ← take
      return first != ""

end

/-- Whether the condition in some arguments holds. -/
def holds (session : Session) (arguments : List String) : Session × Except String Bool :=
  let whole : Step Bool := disjunction (4 * arguments.length + 4)
  let step : Step Bool := match arguments with
    | [] => return false
    | [text] => return text != ""
    | [_, _] => ofTwo
    | [_, _, _] => ofThree
    | [first, _, _, last] =>
      if first = "!" then do
        let _ ← take
        return !(← ofThree)
      else if first = "(" ∧ last = ")" then do
        let _ ← take
        ofTwo
      else whole
    | _ => whole
  match step ⟨session, arguments⟩ with
  | .error text => (session, .error text)
  | .ok (answer, state) =>
    let isWhole := 4 < arguments.length
      || (arguments.length == 4 && arguments.head? != some "!" && arguments.head? != some "(")
    match state.rest with
    | text :: _ =>
      if !isWhole then (state.session, .ok answer)
      else if text.startsWith "-" then
        (state.session, .error ("syntax error: \x60" ++ text ++ "' unexpected"))
      else (state.session, .error "too many arguments")
    | [] => (state.session, .ok answer)

end Condition

end Runbook.Shell.Extended
