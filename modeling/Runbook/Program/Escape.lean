import Runbook.Decimal.Layout
import Runbook.Decimal.Reading
import Runbook.Http.Percent
import Runbook.Text.Utf8

/-!
# Backslash escapes

Characters that programs write as a backslash and a letter, or as a number in base 8 or 16.
-/

namespace Runbook.Program

/-- The value of a digit in base 8. -/
def octalDigit? (c : Char) : Option Nat := (Decimal.digit? c).filter (· < 8)

/-- Read up to `most` digits: their value, if there are any, and the rest. -/
def readDigits (digit? : Char → Option Nat) (base : Nat) :
    (most : Nat) → (value : Option Nat) → List Char → Option Nat × List Char
  | 0, value, rest => (value, rest)
  | _ + 1, value, [] => (value, [])
  | most + 1, value, c :: rest =>
    match digit? c with
    | some digit => readDigits digit? base most (some (value.getD 0 * base + digit)) rest
    | none => (value, c :: rest)

/-- The character that a letter stands for behind a backslash. -/
def escapedLetter? : Char → Option UInt8
  | 'a' => some 7
  | 'b' => some 8
  | 'e' => some 27
  | 'f' => some 12
  | 'n' => some 10
  | 'r' => some 13
  | 't' => some 9
  | 'v' => some 11
  | '\\' => some 92
  | _ => none

/-- Which escapes count besides those of the common letters. -/
structure EscapeRules where
  /-- A number in base 8 may have a zero in front of its three digits. -/
  zeroLeads : Bool
  /-- An `x` stands in front of a number in base 16. -/
  hex : Bool
  /-- A quote stands for itself. -/
  quotes : Bool
  /-- A `u` or a `U` stands in front of the number of a character, and digits in base 16 must not be
  left out. -/
  universal : Bool

/-- What is wrong with an escape. -/
inductive EscapeFault where
  | noDigits
  /-- A character that is not written in this way, by its letter and its number. -/
  | badCharacter (letter : Char) (code : Nat)
deriving DecidableEq, Repr, Inhabited

/-- How many digits the number of a character has behind a letter. -/
def universalLength (letter : Char) : Nat := if letter = 'u' then 4 else 8

/-- The digits of a number in base 16, filled up to a length. -/
def hexText (length n : Nat) : String :=
  let digits := String.ofList (Nat.toDigits 16 n)
  Decimal.zeros (length - digits.length) ++ digits

/-- The wording of a fault of an escape. -/
def EscapeFault.message : EscapeFault → String
  | .noDigits => "missing hexadecimal number in escape"
  | .badCharacter letter code =>
    "invalid universal character name \\" ++ String.ofList [letter]
      ++ hexText (universalLength letter) code

/-- What stands at the front of a text with escapes. -/
inductive EscapeFront where
  | bytes (bytes : List UInt8) (rest : List Char)
  /-- Nothing more is to be written. -/
  | stop
  | broken (fault : EscapeFault)

/-- How the writing of a text with escapes ends. -/
inductive EscapeEnd where
  | whole
  /-- Nothing more is to be written, not even behind the text. -/
  | stopped
  | broken (fault : EscapeFault)
deriving DecidableEq, Repr, Inhabited

/-- Whether writing goes on behind a text. -/
def EscapeEnd.goesOn (ending : EscapeEnd) : Bool := ending == .whole

/-- Read a number in base 8 that stands behind a backslash. -/
def readOctal (rules : EscapeRules) (chars : List Char) : Option UInt8 × List Char :=
  let (value, rest) := match chars with
    | '0' :: digits =>
      if rules.zeroLeads then readDigits octalDigit? 8 3 (some 0) digits
      else readDigits octalDigit? 8 3 none chars
    | _ => readDigits octalDigit? 8 3 none chars
  (value.map Nat.toUInt8, rest)

/-- Read the number of a character behind a letter. A character that is not one of ASCII is written
by its number. The common characters are not written in this way. -/
def readUniversal (letter : Char) (chars : List Char) : EscapeFront :=
  let digits := (chars.take (universalLength letter)).filterMap Http.Percent.hexValue
  if digits.length < universalLength letter then .broken .noDigits
  else
    let code := digits.foldl (fun value digit => value * 16 + digit) 0
    let rest := chars.drop digits.length
    if code = 0x24 ∨ code = 0x40 ∨ code = 0x60 then .bytes [code.toUInt8] rest
    else if code ≤ 0x9F ∨ (0xD800 ≤ code ∧ code ≤ 0xDFFF) then .broken (.badCharacter letter code)
    else
      let text := if code < 0x10000 then "\\u" ++ (hexText 4 code).toUpper
        else "\\U" ++ (hexText 8 code).toUpper
      .bytes (Text.Octets.toBytes text) rest

/-- Read what stands behind a backslash. What is no escape stands for itself. -/
def readEscape (rules : EscapeRules) (chars : List Char) : EscapeFront :=
  match chars with
  | [] => .bytes [92] []
  | 'c' :: _ => .stop
  | c :: rest =>
    match escapedLetter? c, readOctal rules chars with
    | some byte, _ => .bytes [byte] rest
    | none, (some byte, behind) => .bytes [byte] behind
    | none, (none, _) =>
      if c = '"' ∧ rules.quotes then .bytes [34] rest
      else if rules.universal && (c == 'u' || c == 'U') then readUniversal c rest
      else
        match c == 'x' && rules.hex, readDigits Http.Percent.hexValue 16 2 none rest with
        | true, (some value, behind) => .bytes [value.toUInt8] behind
        | true, (none, _) =>
          if rules.universal then .broken .noDigits else .bytes [92, Text.Octets.byte c] rest
        | _, _ => .bytes [92, Text.Octets.byte c] rest

/-- The bytes of a text with escapes, and how writing them ends. -/
def unescape (rules : EscapeRules) : (fuel : Nat) → List Char → List UInt8 × EscapeEnd
  | 0, _ => ([], .whole)
  | _ + 1, [] => ([], .whole)
  | fuel + 1, '\\' :: chars =>
    match readEscape rules chars with
    | .stop => ([], .stopped)
    | .broken fault => ([], .broken fault)
    | .bytes bytes rest =>
      let (later, ending) := unescape rules fuel rest
      (bytes ++ later, ending)
  | fuel + 1, c :: chars =>
    let (later, ending) := unescape rules fuel chars
    (Text.Octets.byte c :: later, ending)

/-- The bytes of a whole text with escapes, and how writing them ends. -/
def unescapeText (rules : EscapeRules) (text : String) : List UInt8 × EscapeEnd :=
  unescape rules (text.length + 1) text.toList

end Runbook.Program
