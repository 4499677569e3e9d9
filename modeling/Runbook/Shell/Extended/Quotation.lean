import Runbook.Program.Escape

/-!
# Escapes and quoted texts of the extended language

Backslashes in quotes behind a dollar sign, and in what the shell writes with escapes, and the forms
of a text in which a shell reads it as it stands.
-/

namespace Runbook.Shell.Extended

open Program (readDigits octalDigit? hexText)

/-- The digits that may stand in braces behind the letter for numbers in base 16, and the text
behind them. -/
def readHex (chars : List Char) : Option Nat × List Char :=
  readDigits Http.Percent.hexValue 16 2 none chars

/-- How the character with a number is written. One that is not of ASCII has no byte of its own, so
that its number is written. -/
def universalChars (code : Nat) : List Char :=
  if code < 128 then [Char.ofNat code]
  else if code < 0x10000 then '\\' :: 'u' :: (hexText 4 code).toUpper.toList
  else '\\' :: 'U' :: (hexText 8 code).toUpper.toList

/-- Read the escape behind a backslash in quotes behind a dollar sign: what it stands for, and the
text behind it. -/
def readQuotedEscape (chars : List Char) : List Char × List Char :=
  match chars with
  | [] => (['\\'], [])
  | c :: rest =>
    let single (n : Nat) : List Char × List Char := ([Char.ofNat n], rest)
    match c with
    | 'a' => single 7
    | 'b' => single 8
    | 'e' | 'E' => single 27
    | 'f' => single 12
    | 'n' => single 10
    | 'r' => single 13
    | 't' => single 9
    | 'v' => single 11
    | '\\' | '\'' | '"' | '?' => ([c], rest)
    | 'x' =>
      match readHex rest with
      | (some n, behind) => ([Char.ofNat n], behind)
      | (none, _) => (['\\', 'x'], rest)
    | 'u' | 'U' =>
      match readDigits Http.Percent.hexValue 16 (if c = 'u' then 4 else 8) none rest with
      | (some n, behind) => (universalChars n, behind)
      | (none, _) => (['\\', c], rest)
    | 'c' =>
      match rest with
      | [] => (['\\', 'c'], [])
      | key :: behind => ([Char.ofNat (key.toUpper.toNat ^^^ 64 &&& 127)], behind)
    | _ =>
      match readDigits octalDigit? 8 3 none chars with
      | (some n, behind) => ([Char.ofNat (n % 256)], behind)
      | (none, _) => (['\\', c], rest)

/-- The text of quotes behind a dollar sign. What stands behind a null byte does not count. -/
def unquoteEscapes : (fuel : Nat) → List Char → List Char
  | 0, _ | _ + 1, [] => []
  | fuel + 1, '\\' :: rest =>
    let (chars, behind) := readQuotedEscape rest
    if chars = ['\x00'] then [] else chars ++ unquoteEscapes fuel behind
  | fuel + 1, c :: rest => c :: unquoteEscapes fuel rest

end Runbook.Shell.Extended

/-! ## Quoted texts -/

namespace Runbook.Shell.Extended.Quotation

/-- Whether a character shows when it is written. -/
def shows (c : Char) : Bool := ' ' ≤ c && c ≤ '~'

/-- The letters of characters that do not show. -/
def letters : List (Char × Char) :=
  [('\x1b', 'E'), ('\x07', 'a'), ('\x08', 'b'), ('\t', 't'), ('\n', 'n'), ('\x0b', 'v'),
    ('\x0c', 'f'), ('\r', 'r'), ('\\', '\\'), ('\'', '\'')]

/-- A text between quotes behind a dollar sign. -/
def escaped (text : String) : String :=
  let inside := text.toList.flatMap fun c =>
    match letters.lookup c with
    | some letter => ['\\', letter]
    | none =>
      if shows c then [c]
      else '\\' :: [64, 8, 1].map fun weight => Char.ofNat (48 + c.toNat / weight % 8)
  "$'" ++ String.ofList inside ++ "'"

/-- Whether some character of a text does not show. -/
def hides (text : String) : Bool := text.toList.any (!shows ·)

/-- A text between apostrophes. -/
def single (text : String) : String :=
  if text = "'" then "\\'"
  else
    "'" ++ String.join (text.toList.map fun c => if c = '\'' then "'\\''" else String.ofList [c])
      ++ "'"

/-- A text between quotation marks. -/
def double (text : String) : String :=
  let inside := text.toList.flatMap fun c =>
    if "\"\\$\x60".toList.contains c then ['\\', c] else [c]
  "\"" ++ String.ofList inside ++ "\""

/-- A text with backslashes in front of the characters that mean something. -/
def backslashed (text : String) : String :=
  let marks := " !\"$&'()*,;<>?[\\]^\x60\x7b|\x7d".toList
  String.ofList (text.toList.zipIdx.flatMap fun (c, n) =>
    let before := if n = 0 then none else text.toList[n - 1]?
    let atFront := before.isNone ∧ (c = '~' ∨ c = '#')
    let behind := c = '~' ∧ (before = some '=' ∨ before = some ':')
    if marks.contains c ∨ atFront ∨ behind then ['\\', c] else [c])

/-- Whether some character of a text means something to a shell. -/
def hasMarks (text : String) : Bool :=
  let marks := " \t\n'\"\\|&;()<>!\x7b\x7d*[]?^$\x60".toList
  text.toList.zipIdx.any fun (c, n) =>
    let before := if n = 0 then none else text.toList[n - 1]?
    marks.contains c
      || (c == '~' && (before.isNone || before == some '=' || before == some ':'))
      || (c == '#' && (before.isNone || before == some ' ' || before == some '\t'))

/-- A text as a shell writes it to be read again. -/
def reusable (text : String) : String :=
  if text = "" then "''" else if hides text then escaped text else single text

/-- A text with as few marks as possible. -/
def short (text : String) : String :=
  if text = "" then "''" else if hides text then escaped text else backslashed text

/-- A text as it stands in a declaration. -/
def declared (text : String) : String := if hides text then escaped text else double text

/-- A text in quotes if it needs them. -/
def careful (text : String) : String :=
  if hides text then escaped text else if hasMarks text then single text else text

end Runbook.Shell.Extended.Quotation
