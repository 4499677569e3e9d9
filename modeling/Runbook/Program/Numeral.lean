import Runbook.Decimal.Layout
import Runbook.Program.Escape

/-!
# Numbers as programs read them

Numbers at the front of a text. What stands behind a number, or in the place of one, is a fault of
the text, but the number at its front counts all the same.
-/

namespace Runbook.Program

/-- What is wrong with a text that should be a number. -/
inductive NumeralFault where
  | notNumeric
  | notComplete
  | outOfRange
deriving DecidableEq, Repr, Inhabited

/-- What a text says as a number. -/
structure Reading (α : Type) where
  value : α
  fault? : Option NumeralFault
deriving DecidableEq, Repr, Inhabited

namespace Numeral

/-- Whether a character is white space. -/
def isBlank (c : Char) : Bool := c == ' ' || ('\t' ≤ c && c ≤ '\r')

/-- Read a sign: whether it is a minus, and the text behind it. -/
def splitSign : List Char → Bool × List Char
  | '-' :: rest => (true, rest)
  | '+' :: rest => (false, rest)
  | rest => (false, rest)

/-- Read digits of a base, if there are any: their value, their number and the text behind them. -/
def readRun (digit? : Char → Option Nat) (base : Nat) (chars : List Char) :
    Option (Nat × Nat × List Char) :=
  match readDigits digit? base chars.length none chars with
  | (some value, rest) => some (value, chars.length - rest.length, rest)
  | (none, _) => none

/-- Read a natural number in base 8, 10 or 16, which its first digits tell, and the text behind
it. -/
def readNatural (chars : List Char) : Option (Nat × List Char) :=
  let run (digit? : Char → Option Nat) (base : Nat) (chars : List Char) :
      Option (Nat × List Char) :=
    (readRun digit? base chars).map fun (value, _, rest) => (value, rest)
  match chars with
  | '0' :: 'x' :: digits | '0' :: 'X' :: digits =>
    match run Http.Percent.hexValue 16 digits with
    | some result => some result
    | none => some (0, chars.tail)
  | '0' :: _ => run octalDigit? 8 chars
  | _ => run Decimal.digit? 10 chars

/-- Read a whole number and the text behind it. -/
def readWhole (chars : List Char) : Option (Int × List Char) :=
  let (negative, rest) := splitSign (chars.dropWhile isBlank)
  (readNatural rest).map fun (n, rest) => (if negative then -n else n, rest)

/-- The fault of a text with a number, given what is behind the number. -/
def faultBehind (rest : List Char) : Option NumeralFault :=
  if rest.isEmpty then none else some .notComplete

/-- The reading of a text without a number. An empty text has no fault. -/
def missing {α : Type} (zero : α) (chars : List Char) : Reading α :=
  ⟨zero, if chars.isEmpty then none else some .notNumeric⟩

/-- The code that a character behind a quote stands for. -/
def quoted? : List Char → Option Nat
  | '\'' :: c :: _ | '"' :: c :: _ => some c.toNat
  | ['\''] | ['"'] => some 0
  | _ => none

/-- The whole number from one bound to another that a text says. -/
def readBetween (least greatest : Int) (text : String) : Reading Int :=
  let chars := text.toList
  match quoted? chars, readWhole chars with
  | some code, _ => ⟨code, none⟩
  | none, none => missing 0 chars
  | none, some (n, rest) =>
    if n < least then ⟨least, some .outOfRange⟩
    else if greatest < n then ⟨greatest, some .outOfRange⟩
    else ⟨n, faultBehind rest⟩

/-- The whole number of 64 bits with a sign that a text says. -/
def readSigned (text : String) : Reading Int := readBetween (-2 ^ 63) (2 ^ 63 - 1) text

/-- The whole number of 64 bits that a text says. A negative number stands for the one that is
smaller by it than the number of all. -/
def readUnsigned (text : String) : Reading Int :=
  let reading := readBetween (-(2 ^ 64 - 1)) (2 ^ 64 - 1) text
  { reading with value := reading.value % 2 ^ 64 }

/-- A number that need not be whole. -/
inductive Real where
  | finite (negative : Bool) (magnitude : Decimal.Fraction)
  | infinite (negative : Bool)
  | notANumber (negative : Bool)
deriving DecidableEq, Repr, Inhabited

/-- Zero. -/
def Real.zero : Real := .finite false ⟨0, 1⟩

/-- Read an exponent behind one of two letters. Without digits there is none. -/
def readExponent (small large : Char) (chars : List Char) : Int × List Char :=
  match chars with
  | letter :: rest =>
    if letter = small ∨ letter = large then
      let (negative, digits) := splitSign rest
      match readRun Decimal.digit? 10 digits with
      | some (value, _, rest) => (if negative then -value else value, rest)
      | none => (0, chars)
    else (0, chars)
  | [] => (0, [])

/-- Read digits with a point between them, if there are any: their value, how many stand behind the
point, and the text behind them. -/
def readPointed (digit? : Char → Option Nat) (base : Nat) (chars : List Char) :
    Option (Nat × Nat × List Char) :=
  match readRun digit? base chars with
  | some (whole, _, '.' :: rest) =>
    match readRun digit? base rest with
    | some (part, count, rest) => some (whole * base ^ count + part, count, rest)
    | none => some (whole, 0, rest)
  | some (whole, _, rest) => some (whole, 0, rest)
  | none =>
    match chars with
    | '.' :: rest => readRun digit? base rest
    | _ => none

/-- No exponent beyond this one makes a difference. -/
def outermostExponent : Nat := 40000

/-- A number by its digits and its exponent. One that is far too large is infinite, and one that is
far too small is zero. -/
def scaledReal (negative : Bool) (digits base : Nat) (exponent : Int) : Real :=
  let leading := exponent + (Nat.toDigits base digits).length
  if digits = 0 then .finite negative ⟨0, 1⟩
  else if (outermostExponent : Int) < leading then .infinite negative
  else if leading < -outermostExponent then .finite negative ⟨0, 1⟩
  else .finite negative (Decimal.Fraction.scaled digits base exponent)

/-- The text behind a word at the front, in letters of either case. -/
def afterWord? (word : String) (chars : List Char) : Option (List Char) :=
  if (chars.take word.length).map Char.toLower = word.toList then some (chars.drop word.length)
  else none

/-- Read a magnitude in base 10 or 16, and the text behind it. -/
def readMagnitude (negative : Bool) (chars : List Char) : Option (Real × List Char) :=
  let inBase16 := match chars with
    | '0' :: 'x' :: digits | '0' :: 'X' :: digits => readPointed Http.Percent.hexValue 16 digits
    | _ => none
  match inBase16 with
  | some (digits, places, rest) =>
    let (exponent, rest) := readExponent 'p' 'P' rest
    some (scaledReal negative digits 2 (exponent - 4 * places), rest)
  | none =>
    (readPointed Decimal.digit? 10 chars).map fun (digits, places, rest) =>
      let (exponent, rest) := readExponent 'e' 'E' rest
      (scaledReal negative digits 10 (exponent - places), rest)

/-- Read a number that need not be whole, and the text behind it. -/
def readReal? (chars : List Char) : Option (Real × List Char) :=
  let (negative, chars) := splitSign (chars.dropWhile isBlank)
  match afterWord? "infinity" chars, afterWord? "inf" chars, afterWord? "nan" chars with
  | some rest, _, _ => some (.infinite negative, rest)
  | none, some rest, _ => some (.infinite negative, rest)
  | none, none, some rest => some (.notANumber negative, rest)
  | none, none, none => readMagnitude negative chars

/-- The range of a binary number format: its number of bits, and the exponents between which its
numbers lie. -/
structure Precision where
  bits : Nat
  greatest : Nat
  least : Int

/-- The number of a format that is nearest to a number, and whether it lies outside of the range. -/
def Real.rounded (format : Precision) : Real → Reading Real
  | .finite negative x =>
    let nearest := x.rounded format.bits
    if x.isZero then ⟨.finite negative x, none⟩
    else if Decimal.Binary64.atLeastPower nearest.numerator nearest.denominator format.greatest then
      ⟨.infinite negative, some .outOfRange⟩
    else if Decimal.Binary64.atLeastPower nearest.numerator nearest.denominator format.least then
      ⟨.finite negative nearest, none⟩
    else ⟨.finite negative ⟨0, 1⟩, some .outOfRange⟩
  | other => ⟨other, none⟩

/-- The number of a format that a text says. -/
def readReal (format : Precision) (text : String) : Reading Real :=
  let chars := text.toList
  match quoted? chars, readReal? chars with
  | some code, _ => ⟨.finite false ⟨code, 1⟩, none⟩
  | none, none => missing Real.zero chars
  | none, some (value, rest) =>
    match value.rounded format with
    | ⟨value, some fault⟩ => ⟨value, some fault⟩
    | ⟨value, none⟩ => ⟨value, faultBehind rest⟩

end Numeral

end Runbook.Program
