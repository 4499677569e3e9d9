import Runbook.Program.Numeral
import Runbook.Program.Options
import Runbook.Program.Tool
import Runbook.Regex.Reader

/-!
# Calculations and prime factors

Programs that calculate with numbers of any size.
-/

/-! ## Calculations

What the program that calculates makes of its arguments. Each argument is a number, a text or an
operator. -/

namespace Runbook.Program.Calculation

/-- Why a calculation has no result. -/
inductive Fault where
  | noInteger
  | divisionByZero
  | missingAfter (text : String)
  | unexpected (text : String)
  | notClosedAfter (text : String)
  | notClosedBefore (text : String)
  | badPattern (fault : Regex.Fault)
deriving DecidableEq, Repr, Inhabited

/-- The wording of a fault. -/
def Fault.message : Fault → String
  | .noInteger => "non-integer argument"
  | .divisionByZero => "division by zero"
  | .missingAfter text => "syntax error: missing argument after " ++ Mention.marked text
  | .unexpected text =>
    "syntax error: unexpected " ++ (if text = ")" then "" else "argument ")
      ++ Mention.marked text
  | .notClosedAfter text => "syntax error: expecting ')' after " ++ Mention.marked text
  | .notClosedBefore text => "syntax error: expecting ')' instead of " ++ Mention.marked text
  | .badPattern fault => fault.message

/-- The operators, each with its strength. -/
def strengths : List (String × Nat) :=
  [("|", 1), ("&", 2), ("<", 3), ("<=", 3), ("=", 3), ("==", 3), ("!=", 3), (">=", 3), (">", 3),
    ("+", 4), ("-", 4), ("*", 5), ("/", 5), ("%", 5), (":", 6)]

/-- The whole number that a text says. -/
def integer? (text : String) : Option Int :=
  let (negative, digits) := match text.toList with
    | '-' :: digits => (true, digits)
    | digits => (false, digits)
  match Numeral.readRun Decimal.digit? 10 digits with
  | some (n, _, []) => some (if negative then -n else n)
  | _ => none

/-- The text of a whole number. -/
def integerText (n : Int) : String := (if n < 0 then "-" else "") ++ Decimal.digitText n.natAbs

/-- Whether a text counts as false: an empty one, or zero. -/
def isNull (text : String) : Bool := text == "" || integer? text == some 0

/-- The result of a comparison, of numbers if both texts are some. -/
def compare (operator left right : String) : String :=
  let order : Ordering := match integer? left, integer? right with
    | some n, some m => Ord.compare n m
    | _, _ => Ord.compare left right
  let holds : Bool := match operator with
    | "<" => order == .lt
    | "<=" => order != .gt
    | ">" => order == .gt
    | ">=" => order != .lt
    | "!=" => order != .eq
    | _ => order == .eq
  if holds then "1" else "0"

/-- How an expression covers the front of a text: what its first group covers, or how many
characters it covers if it has none. -/
def match? (text pattern : String) : Except Fault String :=
  match Regex.read ⟨false, true, false, true, true⟩ pattern.toList with
  | .error fault => .error (.badPattern fault)
  | .ok regex =>
    let found? := Regex.matchAt? false regex (.start text.toList)
    .ok (if regex.groupCount = 0 then
      Decimal.digitText (found?.elim 0 fun found => (found.group 0).length)
    else found?.elim "" fun found => String.ofList (found.group 1))

/-- The result of an operation on two texts. -/
def apply (operator left right : String) : Except Fault String :=
  if operator = ":" then match? left right
  else if operator = "|" then
    .ok (if !isNull left then left else if !isNull right then right else "0")
  else if operator = "&" then .ok (if isNull left || isNull right then "0" else left)
  else
    match operator, integer? left, integer? right with
    | "+", some n, some m => .ok (integerText (n + m))
    | "-", some n, some m => .ok (integerText (n - m))
    | "*", some n, some m => .ok (integerText (n * m))
    | "/", some n, some m =>
      if m = 0 then .error .divisionByZero else .ok (integerText (n.tdiv m))
    | "%", some n, some m =>
      if m = 0 then .error .divisionByZero else .ok (integerText (n.tmod m))
    | _, _, _ =>
      if ["+", "-", "*", "/", "%"].contains operator then .error .noInteger
      else .ok (compare operator left right)

/-- The place of the first character of a text that is one of some, or zero. -/
def placeOf (text characters : String) : Nat :=
  match text.toList.findIdx? characters.toList.contains with
  | some index => index + 1
  | none => 0

/-- The argument in front of those that are left. -/
def argumentBefore (all rest : List String) : String :=
  all.getD (all.length - rest.length - 1) ""

/-- The part of a text that begins at a place and has a number of characters. -/
def partOf (text first count : String) : String :=
  match integer? first, integer? count with
  | some first, some count =>
    if 0 < first then String.ofList ((text.toList.drop (first.toNat - 1)).take count.toNat) else ""
  | _, _ => ""

mutual

/-- The value at the front of the arguments that are left, and the arguments behind it. What is not
`needed` is read but not worked out. -/
def operand (all : List String) : (fuel : Nat) → (needed : Bool) → List String →
    Except Fault (String × List String)
  | 0, _, rest => .error (.missingAfter (argumentBefore all rest))
  | _ + 1, _, [] => .error (.missingAfter (argumentBefore all []))
  | fuel + 1, needed, "(" :: rest => do
    let (first, rest) ← operand all fuel needed rest
    let (value, rest) ← operations all fuel needed 0 first rest
    match rest with
    | ")" :: rest => return (value, rest)
    | [] => throw (.notClosedAfter (argumentBefore all []))
    | other :: _ => throw (.notClosedBefore other)
  | fuel + 1, needed, "length" :: rest => do
    let (text, rest) ← operand all fuel needed rest
    return (Decimal.digitText text.length, rest)
  | fuel + 1, needed, "match" :: rest => do
    let (text, rest) ← operand all fuel needed rest
    let (pattern, rest) ← operand all fuel needed rest
    let value ← if needed then match? text pattern else .ok ""
    return (value, rest)
  | fuel + 1, needed, "index" :: rest => do
    let (text, rest) ← operand all fuel needed rest
    let (characters, rest) ← operand all fuel needed rest
    return (Decimal.digitText (placeOf text characters), rest)
  | fuel + 1, needed, "substr" :: rest => do
    let (text, rest) ← operand all fuel needed rest
    let (first, rest) ← operand all fuel needed rest
    let (count, rest) ← operand all fuel needed rest
    return (partOf text first count, rest)
  | _ + 1, _, ["+"] => .error (.missingAfter "+")
  | _ + 1, _, "+" :: text :: rest => .ok (text, rest)
  | _ + 1, _, text :: rest => if text = ")" then .error (.unexpected ")") else .ok (text, rest)

/-- The value of the operators that bind more strongly than a bound, and the arguments behind
them. -/
def operations (all : List String) : (fuel : Nat) → (needed : Bool) → (bound : Nat) → String →
    List String → Except Fault (String × List String)
  | 0, _, _, left, rest => .ok (left, rest)
  | _ + 1, _, _, left, [] => .ok (left, [])
  | fuel + 1, needed, bound, left, operator :: rest =>
    match strengths.lookup operator with
    | some strength =>
      if bound < strength then do
        let asks := needed && !(operator == "|" && !isNull left)
          && !(operator == "&" && isNull left)
        let (first, rest) ← operand all fuel asks rest
        let (right, rest) ← operations all fuel asks strength first rest
        let value ← if needed then apply operator left right else .ok left
        operations all fuel needed bound value rest
      else .ok (left, operator :: rest)
    | none => .ok (left, operator :: rest)

end

/-- The result of a calculation. -/
def evaluate (arguments : List String) : Except Fault String := do
  let fuel := 2 * arguments.length + 2
  let (first, rest) ← operand arguments fuel true arguments
  let (value, rest) ← operations arguments fuel true 0 first rest
  match rest with
  | [] => return value
  | text :: _ => throw (.unexpected text)

end Calculation

/-- Write the result of a calculation. -/
def Tool.expr : Tool := fun arguments supply =>
  let arguments := if arguments.head? = some "--" then arguments.tail else arguments
  if arguments.isEmpty then
    { Tool.refuse supply.name "missing operand" with status := .exited 2 }
  else
    match Calculation.evaluate arguments with
    | .ok value =>
      { Tool.line value with status := .exited (if Calculation.isNull value then 1 else 0) }
    | .error fault => Tool.fail 2 [] [supply.name ++ ": " ++ fault.message]

end Runbook.Program

/-! ## Prime factors

Numbers as products of primes. Small factors are found by division, and larger ones by a walk that
meets itself; a number is tested for being prime before that. -/

namespace Runbook.Program

namespace Factor

/-- A power of a number, up to multiples of a modulus. -/
def powerMod (modulus : Nat) : (fuel base exponent : Nat) → Nat
  | 0, _, _ => 1 % modulus
  | fuel + 1, base, exponent =>
    if exponent = 0 then 1 % modulus
    else
      let half := powerMod modulus fuel (base * base % modulus) (exponent / 2)
      if exponent % 2 = 1 then half * base % modulus else half

/-- Take a factor out of a number as often as it divides it: how often, and what is left. -/
def takeOut (factor : Nat) : (fuel n : Nat) → Nat × Nat
  | 0, n => (0, n)
  | fuel + 1, n =>
    if n % factor = 0 ∧ 0 < n then
      let (count, rest) := takeOut factor fuel (n / factor)
      (count + 1, rest)
    else (0, n)

/-- Whether squaring a number a few times leads to one less than the modulus. -/
def reachesMinusOne (n : Nat) : (rounds x : Nat) → Bool
  | 0, _ => false
  | rounds + 1, x => x == n - 1 || reachesMinusOne n rounds (x * x % n)

/-- The bases that a number is tested with. -/
def bases : List Nat := [2, 3, 5, 7, 11, 13, 17, 19, 23, 29, 31, 37, 41, 43, 47, 53]

/-- Whether an odd number that no base divides is taken for a prime. -/
def isPrime (n : Nat) : Bool :=
  let bits := Nat.log2 n + 1
  let (twos, odd) := takeOut 2 bits (n - 1)
  bases.all fun base =>
    n % base == 0 || let x := powerMod n bits (base % n) odd
      x == 1 || reachesMinusOne n twos x

/-- The next number of the walk. -/
def walk (n shift x : Nat) : Nat := (x * x + shift) % n

/-- Where one walk that is twice as fast as another meets it, up to multiples of some divisor: that
divisor. -/
def meet (n shift : Nat) : (fuel slow fast : Nat) → Option Nat
  | 0, _, _ => none
  | fuel + 1, slow, fast =>
    let slow := walk n shift slow
    let fast := walk n shift (walk n shift fast)
    let divisor := Nat.gcd ((max slow fast) - (min slow fast)) n
    if divisor = 1 then meet n shift fuel slow fast
    else if divisor = n then none
    else some divisor

/-- How long a walk may be. -/
def longestWalk : Nat := 10000000

/-- A divisor of a number that is no prime. -/
def divisor? (n : Nat) : Option Nat :=
  [1, 2, 3, 5, 7, 11].findSome? fun shift => meet n shift longestWalk 2 2

/-- The prime factors of a number without small ones. -/
def split : (fuel n : Nat) → List Nat
  | 0, n => [n]
  | fuel + 1, n =>
    if n = 1 then []
    else if isPrime n then [n]
    else
      match divisor? n with
      | some divisor => split fuel divisor ++ split fuel (n / divisor)
      | none => [n]

/-- Take the factors up to a bound out of a number, which has no smaller ones. -/
def small : (fuel factor n : Nat) → List Nat × Nat
  | 0, _, n => ([], n)
  | fuel + 1, factor, n =>
    if n < factor * factor then (if n = 1 then ([], 1) else ([n], 1))
    else
      let (count, rest) := takeOut factor (Nat.log2 n + 1) n
      let (others, rest) := small fuel (if factor = 2 then 3 else factor + 2) rest
      (List.replicate count factor ++ others, rest)

/-- The prime factors of a number, in order. -/
def primes (n : Nat) : List Nat :=
  if n < 2 then []
  else
    let (factors, rest) := small 2000 2 n
    factors ++ (split (Nat.log2 rest + 1) rest).mergeSort

/-- The text of factors: one for one, or each with how often it occurs. -/
def text (powers : Bool) (factors : List Nat) : String :=
  let word (group : List Nat) : String :=
    let factor := Decimal.digitText (group.headD 0)
    if group.length < 2 then factor else factor ++ "^" ++ Decimal.digitText group.length
  let words := if powers then (factors.splitBy (· == ·)).map word
    else factors.map Decimal.digitText
  String.join (words.map (" " ++ ·))

/-- The positive number that a text says. -/
def number? (text : String) : Option Nat :=
  let chars := text.toList.dropWhile (· == ' ')
  let chars := if chars.head? = some '+' then chars.tail else chars
  match Numeral.readRun Decimal.digit? 10 chars with
  | some (n, _, []) => some n
  | _ => none

end Factor

/-- Write the prime factors of numbers. -/
def Tool.factor : Tool := fun arguments supply =>
  withOptions supply.name "h|exponents" arguments fun options =>
    let words :=
      if options.operands.isEmpty then
        (supply.input.bytes.splitOnP fun byte => byte == 32 || (9 ≤ byte && byte ≤ 13)).filter
          (!·.isEmpty) |>.map Text.Octets.ofBytes
      else options.operands
    let rows := words.filterMap fun text => (Factor.number? text).map fun n =>
      Decimal.digitText n ++ ":" ++ Factor.text (options.has "h") (Factor.primes n) ++ "\n"
    let wrong := words.filter fun text => (Factor.number? text).isNone
    (conclude 1 (Text.Octets.toBytes (String.join rows)) (wrong.map fun text =>
      supply.name ++ ": " ++ Mention.marked text ++ " is not a valid positive integer")).outputLast

end Runbook.Program
