import Runbook.Json.Basic

/-!
# JSON numerals

The value of a number as it is written. A numeral without a fraction and an exponent is an integer
if it fits in 64 bits. Any other is a floating-point number: its leading digits, as many as fit in
64 bits, are rounded and then scaled by a rounded power of ten.
-/

namespace Runbook

/-- A number as it is written. -/
structure Numeral where
  negative : Bool
  /-- The digits before the point. -/
  whole : List Char
  /-- The digits behind the point, if there is one. -/
  fraction : Option (List Char)
  /-- Whether the exponent is negative and its digits, if there is one. -/
  exponent : Option (Bool × List Char)
deriving DecidableEq, Repr, Inhabited

namespace Numeral

open Decimal

/-- The value of a decimal digit. -/
def digitValue (c : Char) : Nat := c.toNat - 48

/-- Append digits to a significand for as long as it fits in 64 bits: the significand, and how many
digits were appended. -/
def appendDigits : (significand : Nat) → List Char → Nat × Nat
  | significand, [] => (significand, 0)
  | significand, digit :: rest =>
    let longer := significand * 10 + digitValue digit
    if longer < 2 ^ 64 then
      let (final, count) := appendDigits longer rest
      (final, count + 1)
    else (significand, 0)

/-- The greatest power of ten by which a significand is scaled in one step. -/
def greatestScale : Nat := 308

/-- The double nearest to a power of ten. -/
def powerOfTen (exponent : Nat) : Option Binary64 := Binary64.ofDecimal false 1 exponent

/-- A magnitude divided by the greatest scale a number of times, and then by a power of ten. -/
def scaleDownSteps (places : Nat) : (steps : Nat) → Binary64 → Option Binary64
  | 0, magnitude => do magnitude.div (← powerOfTen places)
  | steps + 1, magnitude =>
    if magnitude.isZero then some magnitude
    else do scaleDownSteps places steps (← magnitude.div (← powerOfTen greatestScale))

/-- A magnitude divided by a power of ten, in steps of at most `greatestScale` places. -/
def scaleDown (magnitude : Binary64) (places : Nat) : Option Binary64 :=
  let steps := (places - 1) / greatestScale
  scaleDownSteps (places - greatestScale * steps) steps magnitude

/-- A magnitude multiplied by a power of ten. -/
def scaleUp (magnitude : Binary64) (places : Nat) : Option Binary64 :=
  if places ≤ greatestScale then do magnitude.mul (← powerOfTen places)
  else if magnitude.isZero then some magnitude
  else none

/-- The rounded value of a significand scaled by a power of ten. -/
def scaled (significand : Nat) (exponent : Int) : Option Binary64 := do
  let magnitude ← Binary64.ofNat significand
  if exponent < 0 then scaleDown magnitude exponent.natAbs else scaleUp magnitude exponent.natAbs

/-- Give a magnitude its sign. -/
def withSign (negative : Bool) (magnitude : Binary64) : Binary64 :=
  if negative then magnitude.neg else magnitude

/-- The number that a run of digits writes. -/
def digitsValue (digits : List Char) : Nat :=
  digits.foldl (fun value digit => value * 10 + digitValue digit) 0

/-- The greatest exponent that is taken as written. -/
def greatestExponent : Nat := 2 ^ 31 - 1

/-- The value of a significand, the power of ten that its digits already have, and the exponent. -/
def floatValue (negative : Bool) (significand : Nat) (shift : Int) :
    Option (Bool × List Char) → Option Binary64
  | none => (scaled significand shift).map (withSign negative)
  | some (lowers, digits) =>
    let exponent := digitsValue digits
    if greatestExponent < exponent then
      if significand ≠ 0 ∧ ¬ lowers then none else some (Binary64.zero negative)
    else
      (scaled significand (if lowers then shift - exponent else shift + exponent)).map
        (withSign negative)

/-- The value of an integer that fits in 64 bits. A negative zero and a negative number below the
signed range are floating-point numbers. -/
def wholeValue (negative : Bool) (magnitude : Nat) : Option Number :=
  if negative then
    if 0 < magnitude ∧ magnitude ≤ 2 ^ 63 then some (.int (-magnitude))
    else (Binary64.ofNat magnitude).map (fun x => .float x.neg)
  else some (.int magnitude)

/-- The value of a numeral, unless it is too large. -/
def value (numeral : Numeral) : Option Number :=
  let (significand, used) := appendDigits 0 numeral.whole
  let skipped := numeral.whole.length - used
  match numeral.fraction, numeral.exponent, skipped with
  | none, none, 0 => wholeValue numeral.negative significand
  | fraction, exponent, skipped =>
    let (significand, behindPoint) := appendDigits significand (fraction.getD [])
    (floatValue numeral.negative significand ((skipped : Int) - behindPoint) exponent).map .float

end Numeral

end Runbook
