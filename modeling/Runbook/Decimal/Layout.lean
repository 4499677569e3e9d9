import Runbook.Decimal.Binary64

/-!
# Decimal layout and fractions

How numbers are written in decimal places.
-/

namespace Runbook.Decimal

/-! ## Decimal layout

`shortest` writes the magnitude of a number with as few decimal digits as suffice to tell it from
its neighbours, and among the decimals of that length takes the nearest. A layout says how the
number is written once its digits are chosen. -/

/-- A decimal `digits * 10 ^ exponent`. -/
structure Scientific where
  digits : Nat
  exponent : Int
deriving DecidableEq, Repr, Inhabited

/-- The magnitudes that round to a number, as counts of a quarter of its last place. -/
structure Interval where
  low : Nat
  high : Nat
  /-- Whether the two ends round to the number as well. -/
  closed : Bool

/-- The rounding interval of a number: half a place to each side, or a quarter below a power of
two, where the numbers underneath lie twice as close. -/
def Interval.around (number : Binary64) : Interval where
  low :=
    if number.significand = 2 ^ 52 ∧ Binary64.leastExponent < number.exponent then
      4 * number.significand - 1
    else
      4 * number.significand - 2
  high := 4 * number.significand + 2
  closed := number.significand % 2 == 0

/-- Whether `numerator / denominator` quarters of the last place lie in the interval. -/
def Interval.contains (interval : Interval) (numerator denominator : Nat) : Bool :=
  if interval.closed then
    interval.low * denominator ≤ numerator && numerator ≤ interval.high * denominator
  else
    interval.low * denominator < numerator && numerator < interval.high * denominator

/-- The position of the leading decimal digit of a positive magnitude, 0 for the ones. -/
def leadingPlace (number : Binary64) : Int :=
  let scaled := number.numerator * 10 ^ 400 / number.denominator
  (Nat.toDigits 10 scaled).length - 401

/-- The magnitude of a number as a fraction of `10 ^ place`. -/
def inPlaces (number : Binary64) (place : Int) : Nat × Nat :=
  (number.numerator * 10 ^ (-place).toNat, number.denominator * 10 ^ place.toNat)

/-- Whether `digits * 10 ^ place` reads back as the number. -/
def readsBack (number : Binary64) (digits : Nat) (place : Int) : Bool :=
  (Interval.around number).contains
    (4 * digits * 10 ^ place.toNat * 2 ^ (-number.exponent).toNat)
    (10 ^ (-place).toNat * 2 ^ number.exponent.toNat)

/-- The multiple of `10 ^ place` nearest to the number among the two beside it that read back; a
tie goes to the even multiple. -/
def onGrid (number : Binary64) (place : Int) : Option Nat :=
  let (numerator, denominator) := inPlaces number place
  let below := numerator / denominator
  let twice := 2 * (numerator % denominator)
  let belowIsNearer := twice < denominator || (twice == denominator && below % 2 == 0)
  match readsBack number below place, readsBack number (below + 1) place with
  | true, true => some (if belowIsNearer then below else below + 1)
  | true, false => some below
  | false, true => some (below + 1)
  | false, false => none

/-- Move the zeros at the end of the digits into the exponent. -/
def Scientific.stripZeros : Nat → Scientific → Scientific
  | 0, decimal => decimal
  | fuel + 1, decimal =>
    if decimal.digits ≠ 0 ∧ decimal.digits % 10 = 0 then
      stripZeros fuel ⟨decimal.digits / 10, decimal.exponent + 1⟩
    else decimal

/-- The coarsest grid, from a given count of digits up to seventeen, that has a decimal that reads
back. -/
def shortestFrom (number : Binary64) (leading : Int) : (tries digitCount : Nat) → Scientific
  | 0, _ => ⟨0, 0⟩
  | tries + 1, digitCount =>
    let place := leading + 1 - digitCount
    match onGrid number place with
    | some digits => Scientific.stripZeros digitCount ⟨digits, place⟩
    | none => shortestFrom number leading tries (digitCount + 1)

/-- The fewest decimal digits that read back as the magnitude of a number. -/
def shortest (number : Binary64) : Scientific :=
  if number.isZero then ⟨0, 0⟩ else shortestFrom number (leadingPlace number) 17 1

/-! ## Layouts -/

/-- The decisions of a number format. -/
structure Layout where
  /-- The least and greatest places of a leading digit that are written positionally. -/
  leastPositional : Int
  greatestPositional : Int
  /-- What stands between the digits and a nonnegative exponent. -/
  raised : String
  /-- What stands between the digits and the magnitude of a negative exponent. -/
  lowered : String
  /-- What follows a whole number written positionally. -/
  whole : String

/-- The decimal digits of a natural number. -/
def digitText (n : Nat) : String := String.ofList (Nat.toDigits 10 n)

/-- A row of zeros. -/
def zeros (count : Nat) : String := String.ofList (List.replicate count '0')

/-- Digits with the point behind the leading one and an exponent. -/
def Layout.exponential (style : Layout) (digits : List Char) (leading : Int) : String :=
  let point := match digits with
    | [] => ""
    | [digit] => String.ofList [digit]
    | digit :: rest => String.ofList (digit :: '.' :: rest)
  if leading < 0 then point ++ style.lowered ++ digitText leading.natAbs
  else point ++ style.raised ++ digitText leading.natAbs

/-- Digits with the point where it belongs. -/
def Layout.positional (style : Layout) (digits : List Char) (leading : Int) : String :=
  if leading < 0 then
    "0." ++ zeros (leading.natAbs - 1) ++ String.ofList digits
  else
    let ones := leading.natAbs + 1
    if digits.length ≤ ones then
      String.ofList digits ++ zeros (ones - digits.length) ++ style.whole
    else
      String.ofList (digits.take ones) ++ "." ++ String.ofList (digits.drop ones)

/-- A magnitude as text. -/
def Layout.magnitude (style : Layout) (decimal : Scientific) : String :=
  let digits := Nat.toDigits 10 decimal.digits
  let leading : Int := decimal.exponent + digits.length - 1
  if style.leastPositional ≤ leading ∧ leading ≤ style.greatestPositional then
    style.positional digits leading
  else
    style.exponential digits leading

/-- A number as text, with the fewest digits that read back. -/
def Layout.text (style : Layout) (number : Binary64) : String :=
  (if number.negative then "-" else "") ++ style.magnitude (shortest number)

/-! ## Fractions in decimal places

Nonnegative fractions, rounded to a number of binary digits or written with a number of decimal
places. A tie goes to the even neighbour. -/

/-- A nonnegative fraction. Its denominator is not zero where it has a value. -/
structure Fraction where
  numerator : Nat
  denominator : Nat
deriving DecidableEq, Repr, Inhabited

namespace Fraction

/-- The fraction `digits * base ^ exponent`. -/
def scaled (digits base : Nat) (exponent : Int) : Fraction :=
  ⟨digits * base ^ exponent.toNat, base ^ (-exponent).toNat⟩

/-- Whether a fraction is zero. -/
def isZero (x : Fraction) : Bool := x.numerator == 0

/-- The exponent at which a fraction has a significand of some bits. -/
def exponentFor (bits : Nat) (x : Fraction) : Int :=
  let estimate : Int := x.numerator.log2 - x.denominator.log2 - bits
  if Binary64.atLeastPower x.numerator x.denominator (estimate + bits) then estimate + 1
  else estimate

/-- The significand of some bits that is nearest to a fraction, and its exponent. -/
def significand (bits : Nat) (x : Fraction) : Nat × Int :=
  let exponent := exponentFor bits x
  let count := Binary64.countOf x.numerator x.denominator exponent
  if count = 2 ^ bits then (2 ^ (bits - 1), exponent + 1) else (count, exponent)

/-- The nearest fraction with a significand of some bits. -/
def rounded (bits : Nat) (x : Fraction) : Fraction :=
  if x.isZero then x
  else
    let (count, exponent) := significand bits x
    scaled count 2 exponent

/-- Decimal digits with a point in front of the last `places` of them. -/
def pointed (keepPoint : Bool) (places digits : Nat) : String :=
  let text := digitText digits
  let text := zeros (places + 1 - text.length) ++ text
  let (whole, part) := text.toList.splitAt (text.length - places)
  String.ofList whole ++ (if places = 0 && !keepPoint then "" else ".") ++ String.ofList part

/-- A fraction with a fixed number of decimal places. -/
def fixedText (keepPoint : Bool) (places : Nat) (x : Fraction) : String :=
  pointed keepPoint places (Binary64.divNearest (x.numerator * 10 ^ places) x.denominator)

/-- The position of the leading decimal digit of a fraction that is not zero, 0 for the ones. -/
def leadingPlace (x : Fraction) : Int :=
  if x.denominator ≤ x.numerator then (digitText (x.numerator / x.denominator)).length - 1
  else
    let behind := (digitText (x.denominator / x.numerator)).length
    if x.denominator ≤ x.numerator * 10 ^ (behind - 1) then 1 - behind else - behind

/-- The digits of a fraction with `places` of them behind the leading one, and the position of the
leading one. -/
def leadingDigits (places : Nat) (x : Fraction) : Nat × Int :=
  if x.isZero then (0, 0)
  else
    let place := leadingPlace x
    let shift : Int := places - place
    let digits := Binary64.divNearest (x.numerator * 10 ^ shift.toNat)
      (x.denominator * 10 ^ (-shift).toNat)
    if 10 ^ (places + 1) ≤ digits then (digits / 10, place + 1) else (digits, place)

/-- An exponent with its sign and at least two digits. -/
def exponentText (exponent : Int) : String :=
  let digits := digitText exponent.natAbs
  (if exponent < 0 then "-" else "+") ++ zeros (2 - digits.length) ++ digits

/-- A fraction with a fixed number of digits behind the leading one, and with an exponent. -/
def scientificText (keepPoint : Bool) (places : Nat) (x : Fraction) : String :=
  let (digits, place) := leadingDigits places x
  pointed keepPoint places digits ++ "e" ++ exponentText place

/-- A text with a point without the zeros at its end, and without the point if it stands there. -/
def withoutZeros (text : String) : String :=
  if text.contains '.' then
    let chars := text.toList.reverse.dropWhile (· == '0')
    String.ofList (if chars.head? = some '.' then chars.tail else chars).reverse
  else text

/-- A fraction with a number of significant digits, written with an exponent if it is very large or
very small. Zeros at the end are left out unless `complete` is set. -/
def generalText (complete : Bool) (count : Nat) (x : Fraction) : String :=
  let count := max count 1
  let (digits, place) := leadingDigits (count - 1) x
  let trim (text : String) : String := if complete then text else withoutZeros text
  if -4 ≤ place ∧ place < count then
    trim (fixedText complete ((count : Int) - 1 - place).toNat x)
  else trim (pointed complete (count - 1) digits) ++ "e" ++ exponentText place

/-- A fraction in base 16, with a power of two, from a significand of some bits. Without a number of
places all digits are written that are not zeros at the end. -/
def hexText (bits : Nat) (keepPoint : Bool) (places : Option Nat) (x : Fraction) : String :=
  let (count, exponent) := if x.isZero then (0, 0) else significand bits x
  let length := (bits + 3) / 4
  let kept := min (places.getD (length - 1)) (length - 1)
  let nearest := Binary64.divNearest count (16 ^ (length - 1 - kept))
  let carries := 16 ^ (kept + 1) ≤ nearest
  let digits := Nat.toDigits 16 (if carries then nearest / 16 else nearest)
  let digits := List.replicate (kept + 1 - digits.length) '0' ++ digits
  let whole := digits.take (digits.length - kept)
  let part := digits.drop whole.length
  let part := match places with
    | some places => part ++ List.replicate (places - part.length) '0'
    | none => (part.reverse.dropWhile (· == '0')).reverse
  let power : Int :=
    if x.isZero then 0 else exponent + 4 * (if carries then length else length - 1)
  "0x" ++ String.ofList whole ++ (if part.isEmpty && !keepPoint then "" else ".")
    ++ String.ofList part ++ "p" ++ (if power < 0 then "-" else "+") ++ digitText power.natAbs

end Fraction

end Runbook.Decimal
