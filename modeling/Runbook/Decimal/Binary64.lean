import Runbook.Instances

/-!
# Finite binary floating-point numbers

Numbers of the double format as a significand times a power of two, with rounding to nearest in
exact integer arithmetic. Infinities and not-a-number are not numbers here: an operation whose
result is too large gives nothing.
-/

namespace Runbook.Decimal

/-- A finite number of the double format: `significand * 2 ^ exponent`, negated if `negative`.

The significand has 53 bits, or fewer at the least exponent, so that each number is written in one
way; zero keeps its sign. -/
structure Binary64 where
  negative : Bool
  significand : Nat
  exponent : Int
deriving DecidableEq, Repr, Inhabited

namespace Binary64

/-- The exponent of the smallest positive number. -/
def leastExponent : Int := -1074

/-- The exponent of the largest numbers. -/
def greatestExponent : Int := 971

/-- Zero, with a sign. -/
def zero (negative : Bool) : Binary64 := ⟨negative, 0, leastExponent⟩

/-- Whether a number is zero, of either sign. -/
def isZero (number : Binary64) : Bool := number.significand == 0

/-- The quotient rounded to the nearest integer; a tie goes to the even one. -/
def divNearest (numerator denominator : Nat) : Nat :=
  let quotient := numerator / denominator
  let twice := 2 * (numerator % denominator)
  if twice < denominator then quotient
  else if twice > denominator then quotient + 1
  else quotient + quotient % 2

/-- The quotient `numerator / denominator` as a count of `2 ^ exponent`, rounded to the nearest
integer. -/
def countOf (numerator denominator : Nat) (exponent : Int) : Nat :=
  divNearest (numerator * 2 ^ (-exponent).toNat) (denominator * 2 ^ exponent.toNat)

/-- Whether `numerator / denominator` is at least `2 ^ exponent`. -/
def atLeastPower (numerator denominator : Nat) (exponent : Int) : Bool :=
  denominator * 2 ^ exponent.toNat ≤ numerator * 2 ^ (-exponent).toNat

/-- The exponent at which `numerator / denominator` has a significand of 53 bits, or the least
one. -/
def exponentFor (numerator denominator : Nat) : Int :=
  let estimate : Int := numerator.log2 - denominator.log2 - 53
  let fitting :=
    if atLeastPower numerator denominator (estimate + 53) then estimate + 1 else estimate
  max leastExponent fitting

/-- The nearest number to `numerator / denominator`, with ties to the even significand. -/
def nearest (negative : Bool) (numerator denominator : Nat) : Option Binary64 :=
  if numerator = 0 then some (zero negative)
  else
    let exponent := exponentFor numerator denominator
    let count := countOf numerator denominator exponent
    let rounded : Binary64 :=
      if count = 2 ^ 53 then ⟨negative, 2 ^ 52, exponent + 1⟩
      else ⟨negative, count, if count = 0 then leastExponent else exponent⟩
    if rounded.exponent ≤ greatestExponent then some rounded else none

/-- The nearest number to a natural number. -/
def ofNat (n : Nat) : Option Binary64 := nearest false n 1

/-- The numerator of the magnitude of a number. -/
def numerator (number : Binary64) : Nat := number.significand * 2 ^ number.exponent.toNat

/-- The denominator of the magnitude of a number. -/
def denominator (number : Binary64) : Nat := 2 ^ (-number.exponent).toNat

/-- The rounded product. -/
def mul (left right : Binary64) : Option Binary64 :=
  nearest (left.negative != right.negative) (left.numerator * right.numerator)
    (left.denominator * right.denominator)

/-- The rounded quotient; a divisor of zero gives nothing. -/
def div (left right : Binary64) : Option Binary64 :=
  if right.isZero then none
  else
    nearest (left.negative != right.negative) (left.numerator * right.denominator)
      (left.denominator * right.numerator)

/-- The number with the other sign. -/
def neg (number : Binary64) : Binary64 := { number with negative := !number.negative }

/-- The nearest number to `digits * 10 ^ exponent`. -/
def ofDecimal (negative : Bool) (digits : Nat) (exponent : Int) : Option Binary64 :=
  nearest negative (digits * 10 ^ exponent.toNat) (10 ^ (-exponent).toNat)

/-- The number of smallest magnitude that has the same value, whatever the sign of zero. -/
def withoutZeroSign (number : Binary64) : Binary64 :=
  if number.isZero then zero false else number

end Binary64

end Runbook.Decimal
