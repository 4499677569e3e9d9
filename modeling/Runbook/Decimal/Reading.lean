import Runbook.Decimal.Binary64

/-!
# Reading decimal numbers

Unsigned integers that have to fit below a bound, and the double nearest to a number written with a
sign, a point and an exponent, all of which may be left out. The digits of a natural number are read
as that number (`Decimal.readNatural_toDigits`).
-/

namespace Runbook.Decimal

/-- The value of a decimal digit. -/
def digit? (c : Char) : Option Nat :=
  if '0' ≤ c ∧ c ≤ '9' then some (c.toNat - 48) else none

/-- The natural number up to `greatest` that a whole text writes, with or without a plus sign. -/
def readNatural (greatest : Nat) (chars : List Char) : Option Nat :=
  let digits := match chars with
    | '+' :: rest => rest
    | rest => rest
  if digits.isEmpty then none
  else
    (digits.foldlM (fun value c => (digit? c).map (value * 10 + ·)) 0).filter (· ≤ greatest)

theorem digit?_of_isDigit {c : Char} (digit : c.isDigit = true) :
    digit? c = some (c.toNat - '0'.toNat) := by
  have bounds : '0' ≤ c ∧ c ≤ '9' := by
    simpa [Char.isDigit, Char.le_def] using digit
  rw [digit?, if_pos bounds]
  rfl

/-- Digits are read one by one. -/
theorem foldlM_digit? {digits : List Char} (all : ∀ c ∈ digits, c.isDigit = true) (value : Nat) :
    digits.foldlM (fun value c => (digit? c).map (value * 10 + ·)) value =
      some (Nat.ofDigitChars 10 digits value) := by
  induction digits generalizing value with
  | nil => rfl
  | cons digit digits ih =>
      obtain ⟨first, rest⟩ := List.forall_mem_cons.mp all
      rw [List.foldlM_cons, digit?_of_isDigit first, Option.map_some, Option.bind_eq_bind,
        Option.bind_some, ih rest, Nat.ofDigitChars_cons, Nat.mul_comm]

theorem isDigit_of_mem_toDigits {n : Nat} {c : Char} (member : c ∈ Nat.toDigits 10 n) :
    c.isDigit = true :=
  Nat.isDigit_of_mem_toDigits (by decide) (by decide) member

/-- The digits of a number are read as that number. -/
theorem readNatural_toDigits {greatest n : Nat} (inside : n ≤ greatest) :
    readNatural greatest (Nat.toDigits 10 n) = some n := by
  have digits : ∀ c ∈ Nat.toDigits 10 n, c.isDigit = true := fun _ => isDigit_of_mem_toDigits
  have value := foldlM_digit? digits 0
  rw [Nat.ofDigitChars_ten_toDigits] at value
  unfold readNatural
  split
  · rename_i rest listed
    have sign := digits '+' (listed ▸ List.mem_cons_self)
    cases sign
  · have given : (Nat.toDigits 10 n).isEmpty = false :=
      List.isEmpty_eq_false_iff.mpr Nat.toDigits_ne_nil
    dsimp only
    rw [given, if_neg Bool.false_ne_true, value, Option.filter_some, decide_eq_true inside,
      if_pos rfl]

/-! ## Doubles -/

/-- The decimal digits. -/
def isDigit (c : Char) : Bool := '0' ≤ c && c ≤ '9'

/-- The number that a run of digits writes. -/
def digitsValue (digits : List Char) : Nat :=
  digits.foldl (fun value digit => value * 10 + (digit.toNat - 48)) 0

/-- Read a sign: whether it is a minus, and the text behind it. -/
def splitSign : List Char → Bool × List Char
  | '-' :: rest => (true, rest)
  | '+' :: rest => (false, rest)
  | rest => (false, rest)

/-- Read a whole text as an exponent, with its letter in front of it; the empty text stands for
0. -/
def readExponent : List Char → Option Int
  | [] => some 0
  | letter :: rest =>
    let (negative, digits) := splitSign rest
    if (letter == 'e' || letter == 'E') && !digits.isEmpty && digits.all isDigit then
      some (if negative then -(digitsValue digits : Int) else digitsValue digits)
    else none

/-- No double has digits beyond this many places before or behind the point that matter. -/
def outermostPlace : Int := 400

/-- The nearest number to `digits * 10 ^ exponent`, found without computing powers far out of
range. -/
def roundedScaled (negative : Bool) (digits : Nat) (exponent : Int) : Option Binary64 :=
  let leading := exponent + (Nat.toDigits 10 digits).length
  if digits = 0 ∨ leading < -outermostPlace then some (Binary64.zero negative)
  else if outermostPlace < leading then none
  else Binary64.ofDecimal negative digits exponent

/-- The double nearest to the number that a whole text writes, unless it is too large. -/
def readFloat (chars : List Char) : Option Binary64 :=
  let (negative, unsigned) := splitSign chars
  let whole := unsigned.takeWhile isDigit
  let rest := unsigned.dropWhile isDigit
  let (fraction, rest) := match rest with
    | '.' :: rest => (rest.takeWhile isDigit, rest.dropWhile isDigit)
    | rest => ([], rest)
  if whole.isEmpty && fraction.isEmpty then none
  else do
    let exponent ← readExponent rest
    roundedScaled negative (digitsValue (whole ++ fraction)) (exponent - fraction.length)

end Runbook.Decimal
