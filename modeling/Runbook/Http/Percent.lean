import Runbook.Text.Utf8

/-!
# Percent encoding

Bytes written as a percent sign and two hexadecimal digits.
-/

namespace Runbook.Http.Percent

/-- The hexadecimal digit of a number below 16, in upper case. -/
def hexDigit (n : Nat) : Char := Char.ofNat (if n < 10 then 48 + n else 55 + n)

/-- The value of a hexadecimal digit of either case. -/
def hexValue (c : Char) : Option Nat :=
  if '0' ≤ c ∧ c ≤ '9' then some (c.toNat - 48)
  else if 'A' ≤ c ∧ c ≤ 'F' then some (c.toNat - 55)
  else if 'a' ≤ c ∧ c ≤ 'f' then some (c.toNat - 87)
  else none

/-- A byte in encoded form. -/
def encodeByte (byte : UInt8) : List Char :=
  ['%', hexDigit (byte.toNat / 16), hexDigit (byte.toNat % 16)]

/-- A character, encoded byte by byte if it is in a set. -/
def encodeChar (inSet : Char → Bool) (c : Char) : List Char :=
  if inSet c then (Text.Utf8.encodeChar c).flatMap encodeByte else [c]

/-- A text with the characters of a set encoded. -/
def encode (inSet : Char → Bool) (chars : List Char) : List Char :=
  chars.flatMap (encodeChar inSet)

/-- The bytes of a text, with what is encoded decoded. A percent sign without two digits stands for
itself. -/
def decode : List Char → List UInt8
  | [] => []
  | '%' :: high :: low :: rest =>
    match hexValue high, hexValue low with
    | some h, some l => (h * 16 + l).toUInt8 :: decode rest
    | _, _ => 0x25 :: decode (high :: low :: rest)
  | c :: rest => Text.Utf8.encodeChar c ++ decode rest

end Runbook.Http.Percent
