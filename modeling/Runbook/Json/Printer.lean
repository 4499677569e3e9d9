import Runbook.Decimal.Layout
import Runbook.Json.Basic

/-!
# Compact JSON text

One value has one text: no blanks, members in order of their names, and the fewest digits.
-/

namespace Runbook

namespace Json

/-- Numbers with a leading digit from the fifth decimal place to the sixteenth whole place are
written positionally, others with a signed exponent, and a point is always there. -/
def floatLayout : Decimal.Layout where
  leastPositional := -5
  greatestPositional := 15
  raised := "e+"
  lowered := "e-"
  whole := ".0"

/-- The two hexadecimal digits of a control character. -/
def hexPair (code : Nat) : List Char :=
  let digit (n : Nat) : Char := Char.ofNat (if n < 10 then 48 + n else 87 + n)
  [digit (code / 16 % 16), digit (code % 16)]

/-- How one character stands between quotes: quotes, backslashes and control characters are
escaped, and all else is written as it is. -/
def escapeChar (c : Char) : List Char :=
  if c = '"' then ['\\', '"']
  else if c = '\\' then ['\\', '\\']
  else if c = '\x08' then ['\\', 'b']
  else if c = '\x0c' then ['\\', 'f']
  else if c = '\n' then ['\\', 'n']
  else if c = '\r' then ['\\', 'r']
  else if c = '\t' then ['\\', 't']
  else if c.toNat < 0x20 then ['\\', 'u', '0', '0'] ++ hexPair c.toNat
  else [c]

/-- A text between quotes. -/
def quote (text : String) : List Char :=
  '"' :: (text.toList.flatMap escapeChar ++ ['"'])

/-- The text of an integer. -/
def intChars (n : Int) : List Char :=
  if n < 0 then '-' :: Nat.toDigits 10 n.natAbs else Nat.toDigits 10 n.natAbs

/-- The text of a number. -/
def numberChars : Number → List Char
  | .int n => intChars n
  | .float x => (floatLayout.text x).toList

mutual

/-- The characters of a value. -/
def chars : Json → List Char
  | .null => ['n', 'u', 'l', 'l']
  | .bool true => ['t', 'r', 'u', 'e']
  | .bool false => ['f', 'a', 'l', 's', 'e']
  | .number n => numberChars n
  | .string s => quote s
  | .array [] => ['[', ']']
  | .array (item :: items) => '[' :: (chars item ++ itemsChars items)
  | .object [] => ['\x7b', '\x7d']
  | .object ((name, value) :: members) =>
    '\x7b' :: (quote name ++ ':' :: (chars value ++ membersChars members))

/-- The characters from behind an item to the end of its array. -/
def itemsChars : List Json → List Char
  | [] => [']']
  | item :: items => ',' :: (chars item ++ itemsChars items)

/-- The characters from behind a member to the end of its object. -/
def membersChars : List (String × Json) → List Char
  | [] => ['\x7d']
  | (name, value) :: members =>
    ',' :: (quote name ++ ':' :: (chars value ++ membersChars members))

end

/-- The compact text of a value. -/
def text (value : Json) : String := String.ofList (chars value)

end Json

end Runbook
