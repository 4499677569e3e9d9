import Runbook.Decimal.Binary64
import Runbook.Program.Numeral
import Runbook.Program.Printf

/-!
# Values of rules

A value is a number or a text. What comes from outside is a text that counts as a number if it looks
like one, and a variable that was given no value is both an empty text and zero.
-/

namespace Runbook.Program.Rule

/-! ## Numbers -/

/-- The number with some magnitude. -/
def floatOf (negative : Bool) (magnitude : Decimal.Fraction) : Float :=
  let sign (x : Float) : Float := if negative then -x else x
  match Decimal.Binary64.nearest false magnitude.numerator magnitude.denominator with
  | some number => sign ((Float.ofNat number.significand).scaleB number.exponent)
  | none => sign (1.0 / 0.0)

/-- A number as an exact one. -/
def realOf (x : Float) : Numeral.Real :=
  let bits := x.toBits
  let negative := bits >>> 63 == 1
  let exponent := ((bits >>> 52) &&& 0x7ff).toNat
  let fraction := (bits &&& 0xfffffffffffff).toNat
  if exponent = 0x7ff then
    if fraction = 0 then .infinite negative else .notANumber true
  else if exponent = 0 then .finite negative (.scaled fraction 2 (-1074))
  else .finite negative (.scaled (2 ^ 52 + fraction) 2 ((exponent : Int) - 1075))

/-- A number without its part behind the point, as an integer between two bounds. -/
def integerOf (least greatest : Int) (x : Float) : Int :=
  match realOf x with
  | .infinite negative => if negative then least else greatest
  | .notANumber _ => least
  | .finite negative magnitude =>
    let whole : Int := (magnitude.numerator / magnitude.denominator : Nat)
    max least (min greatest (if negative then -whole else whole))

/-- The largest number of a word of 64 bits with a sign. -/
def greatestWord : Int := 2 ^ 63 - 1

/-- The integer that a number is, if it is one that is not too large. -/
def whole? (x : Float) : Option Int :=
  if x.abs < 4503599627370496.0 then
    let n := x.abs.toUInt64
    if n.toFloat == x.abs then
      some (if x < 0.0 then -(n.toNat : Int) else n.toNat)
    else none
  else
    match realOf x with
    | .finite negative magnitude =>
      let n : Int := (magnitude.numerator / magnitude.denominator : Nat)
      if n ≤ greatestWord then some (if negative then -n else n)
      else if n = greatestWord + 1 then some (if negative then -greatestWord else greatestWord)
      else none
    | _ => none

/-- An integer as a number. -/
def floatOfInt (n : Int) : Float :=
  if n < 0 then -(Float.ofNat n.natAbs) else Float.ofNat n.natAbs

/-- The number at the front of a text, and what stands behind it. -/
def readNumber (chars : List Char) : Option (Float × List Char) :=
  (Numeral.readReal? chars).map fun (real, rest) =>
    (match real with
      | .finite negative magnitude => floatOf negative magnitude
      | .infinite negative => if negative then -1.0 / 0.0 else 1.0 / 0.0
      | .notANumber _ => 0.0 / 0.0, rest)

/-- The number of a text: what stands at its front, or zero. -/
def numberOf (text : String) : Float :=
  let chars := text.toList
  let digits := chars.takeWhile Char.isDigit
  if digits.length = chars.length ∧ digits.length < 16 then
    Float.ofNat (digits.foldl (fun n c => n * 10 + (c.toNat - 48)) 0)
  else (readNumber chars).elim 0.0 (·.1)

/-- Whether a text looks like a number, with nothing but blanks around it. -/
def looksNumeric (text : String) : Bool :=
  let chars := text.toList
  match readNumber chars with
  | some (_, rest) =>
    rest.all Numeral.isBlank && chars.any Char.isDigit && chars.all (·.toLower != 'x')
  | none => false

/-! ## Values -/

/-- A value. -/
inductive Value where
  | number (x : Float)
  | text (text : String)
  /-- A text that comes from outside. -/
  | input (text : String)
  | missing
deriving Inhabited

/-- Whether a value counts as a number where it is compared. -/
def Value.isNumeric : Value → Bool
  | .number _ | .missing => true
  | .text _ => false
  | .input content => looksNumeric content

/-- The number that a value stands for. -/
def Value.toNumber : Value → Float
  | .number x => x
  | .text content | .input content => numberOf content
  | .missing => 0.0

/-! ## Formats -/

/-- The style of the formats. -/
def formatStyle : Printf.Style :=
  { Printf.shellStyle with precision := ⟨53, 1024, -1074⟩ }

/-- What is wrong with a format. -/
inductive FormatFault where
  | missingArgument
  /-- There is no such conversion; conversions are counted from one. -/
  | unknown (number : Nat)
deriving DecidableEq, Repr, Inhabited

/-- What a conversion needs to write a value: the text of the value. -/
def convertValue (textOf : Value → String) (conversion : Printf.Conversion) (value : Value) :
    List UInt8 :=
  match conversion.kind with
  | 's' =>
    let bytes := Text.Octets.toBytes (textOf value)
    Printf.pad conversion (match conversion.precision with
      | some most => bytes.take most
      | none => bytes)
  | 'c' =>
    let isCode : Bool := match value with
      | .number _ => true
      | .input content => looksNumeric content
      | _ => false
    let byte : UInt8 :=
      if isCode then (integerOf (-2 ^ 31) (2 ^ 31 - 1) value.toNumber % 256).toNat.toUInt8
      else (Text.Octets.toBytes (textOf value)).headD 0
    Printf.pad conversion [byte]
  | 'd' | 'i' =>
    let x := value.toNumber
    let n := if 9223372036854775808.0 ≤ x then integerOf 0 (2 ^ 64 - 1) x
      else integerOf (-greatestWord) greatestWord x
    Printf.writeInteger conversion n
  | 'o' | 'x' | 'X' | 'u' =>
    let x := value.toNumber
    let n := if x < 0.0 then integerOf (-greatestWord) 0 x % 2 ^ 64
      else integerOf 0 (2 ^ 64 - 1) x
    Printf.writeInteger conversion n
  | _ => Printf.writeReal formatStyle conversion (realOf value.toNumber)

/-- The kinds of conversions. -/
def formatKinds : List Char := "sdioxXuceEfFgGaA".toList

/-- Read the width or the precision of a conversion, which may be a value. -/
def readFormatCount (chars : List Char) (values : List Value) :
    Option (Int × List Char × List Value) :=
  match chars with
  | '*' :: rest =>
    match values with
    | value :: values => some (integerOf (-2 ^ 31) (2 ^ 31 - 1) value.toNumber, rest, values)
    | [] => none
  | chars =>
    let digits := chars.takeWhile Char.isDigit
    some ((digits.foldl (fun n c => n * 10 + (c.toNat - 48)) 0 : Nat), chars.drop digits.length,
      values)

/-- Write values in a format. What was written up to a fault counts as well. -/
def writeFormat (textOf : Value → String) : (fuel count : Nat) → List Char → List Value →
    List UInt8 × Option FormatFault
  | 0, _, _, _ => ([], none)
  | _ + 1, _, [], _ => ([], none)
  | fuel + 1, count, '%' :: '%' :: rest, values =>
    let (bytes, fault?) := writeFormat textOf fuel count rest values
    (37 :: bytes, fault?)
  | fuel + 1, count, '%' :: rest, values =>
    let blank : Printf.Conversion := ⟨false, false, false, false, false, false, 0, none, 's'⟩
    let (conversion, rest) := Printf.readFlags formatStyle blank rest
    match readFormatCount rest values with
    | none => ([], some .missingArgument)
    | some (width, rest, values) =>
      let conversion := { conversion with
        width := width.natAbs
        leftAligned := conversion.leftAligned || width < 0 }
      let counted : Option (Option Nat × List Char × List Value) := match rest with
        | '.' :: rest =>
          (readFormatCount rest values).map fun (precision, rest, values) =>
            (if precision < 0 then none else some precision.toNat, rest, values)
        | rest => some (none, rest, values)
      match counted with
      | none => ([], some .missingArgument)
      | some (precision?, rest, values) =>
        let rest := rest.dropWhile fun c => c == 'l' || c == 'h'
        match rest, values with
        | [], _ => ([], some (.unknown (count + 1)))
        | kind :: rest, values =>
          if !formatKinds.contains kind then ([], some (.unknown (count + 1)))
          else
            match values with
            | [] => ([], some .missingArgument)
            | value :: values =>
              let conversion := { conversion with precision := precision?, kind := kind }
              let (bytes, fault?) := writeFormat textOf fuel (count + 1) rest values
              (convertValue textOf conversion value ++ bytes, fault?)
  | fuel + 1, count, c :: rest, values =>
    let (bytes, fault?) := writeFormat textOf fuel count rest values
    (Text.Octets.byte c :: bytes, fault?)

/-- The text of a number that need not be whole, in a format. -/
def numberText (format : String) (x : Float) : String :=
  match whole? x with
  | some n => toString n
  | none =>
    let plain (value : Value) : String := match value with
      | .text text | .input text => text
      | _ => ""
    Text.Octets.ofBytes
      (writeFormat plain (format.length + 1) 0 format.toList [.number x]).1

/-- The text of a value, given the format of numbers. -/
def Value.toText (format : String) : Value → String
  | .number x => numberText format x
  | .text content | .input content => content
  | .missing => ""

/-- Whether a value counts as true. -/
def Value.isTrue : Value → Bool
  | .number x => x != 0.0
  | .text content => content != ""
  | .input content =>
    if looksNumeric content then numberOf content != 0.0 else content != ""
  | .missing => false

/-- The order of two values: as numbers if both are such, and else as texts. -/
def Value.order (format : String) (left right : Value) : Ordering :=
  if left.isNumeric && right.isNumeric then
    let (x, y) := (left.toNumber, right.toNumber)
    if x < y then .lt else if x == y then .eq else .gt
  else compare (left.toText format) (right.toText format)

end Runbook.Program.Rule
