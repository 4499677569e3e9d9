import Runbook.Decimal.Layout
import Runbook.Http.Domain.Mapping
import Runbook.Http.Domain.Punycode
import Runbook.Http.Percent
import Runbook.Text.Composition
import Runbook.Text.Direction
import Runbook.Text.Utf8

/-!
# Hosts

The host of an address: a domain name, or a number of the fourth or the sixth version of the
internet protocol. Each is brought into one form.
-/

/-! ## Domain names

Names in the scripts of the world are brought into one form, checked, and written in ASCII. Labels
that are already written so are checked as well. -/

namespace Runbook.Http.Domain

open Text

/-- The ASCII characters that no name may hold. -/
def isForbidden (c : Char) : Bool :=
  c.toNat ≤ 0x20 || c == '#' || c == '/' || c == ':' || c == '<' || c == '>' || c == '?' || c == '@'
    || c == '[' || c == '\\' || c == ']' || c == '^' || c == '|' || c == '%' || c.toNat == 0x7F

/-- A part of a name between dots. -/
structure Label where
  /-- The characters that it stands for. -/
  chars : List Char
  /-- How it is written in ASCII. -/
  ascii : List Char
deriving DecidableEq, Repr, Inhabited

/-- What stands in front of a label that is written in ASCII. -/
def asciiMark : List Char := ['x', 'n', '-', '-']

/-- The invisible character that keeps letters from joining. -/
def nonJoiner : Char := '\u200C'

/-- The invisible character that joins letters. -/
def joiner : Char := '\u200D'

/-- Whether an invisible joiner may stand between two texts, of which the one in front is given in
reverse: behind a mark that silences a vowel, or, if it keeps letters apart, between letters that
would join. -/
def admitsJoiner (c : Char) (before behind : List Char) : Bool :=
  before.head?.any (combiningClass · == viramaClass)
    || (c == nonJoiner
      && ((before.dropWhile isTransparent).head?).any joinsAhead
      && ((behind.dropWhile isTransparent).head?).any joinsBack)

/-- Whether all invisible joiners stand where they may, behind a text that is given in reverse. -/
def joinersFit : (before : List Char) → List Char → Bool
  | _, [] => true
  | before, c :: rest =>
    (!(c == nonJoiner || c == joiner) || admitsJoiner c before rest)
      && joinersFit (c :: before) rest

/-- Whether the characters of a label may form one: it does not begin with a mark, and invisible
joiners fit. -/
def isWellFormed (chars : List Char) : Bool := !chars.head?.any isMark && joinersFit [] chars

/-- The length of the longest label that is read from ASCII, and of the longest one written so. -/
def longestRead : Nat := 2000

def longestWritten : Nat := 1000

/-- Whether a label is in the one form, and needs to be written in ASCII. -/
def isCanonical (chars : List Char) : Bool :=
  chars.all (fun c => mapChar c == some [c]) && compose chars == chars
    && !chars.all Punycode.isBasic

/-- Read a label of lower-case ASCII characters. -/
def Label.ofAscii (chars : List Char) : Option Label :=
  if asciiMark.isPrefixOf chars then do
    let written := chars.drop asciiMark.length
    if longestRead < written.length || written.getLast? == some '-' then none
    let meant ← Punycode.decode written
    if isCanonical meant && isWellFormed meant then return ⟨meant, chars⟩ else none
  else some ⟨chars, chars⟩

/-- Read a label that is in the one form. -/
def Label.ofMapped (chars : List Char) : Option Label :=
  if chars.any isForbidden then none
  else if chars.all Punycode.isBasic then Label.ofAscii chars
  else if asciiMark.isPrefixOf chars || !isWellFormed chars || longestWritten < chars.length then
    none
  else some ⟨chars, asciiMark ++ Punycode.encode chars⟩

/-- The characters of a name between two dots in the one form, which may hold further dots. -/
def mapChars (chars : List Char) : Option (List Char) :=
  if chars.all Punycode.isBasic then some (chars.map Char.toLower)
  else do return compose (← chars.mapM mapChar).flatten

/-- Whether directions may be mixed as they are in a label. One that is written to the right holds
no character of the other direction, and one that is written to the left no letter of the other one
and digits of one series only; each begins with a letter and ends with a letter or a digit. -/
def directionsFit (chars : List Char) : Bool :=
  let directions := chars.map direction
  let last := (directions.reverse.dropWhile (· == .mark)).head?
  match directions.head? with
  | none => true
  | some .rightward =>
    !directions.any (fun d => d == .leftward || d == .arabicDigit)
      && last.any fun d => d == .rightward || d == .europeanDigit
  | some .leftward =>
    !directions.contains .rightward
      && !(directions.contains .europeanDigit && directions.contains .arabicDigit)
      && last.any fun d => d == .leftward || d == .europeanDigit || d == .arabicDigit
  | some _ => false

/-- Whether a name has a part that is written to the left. -/
def isMixed (labels : List Label) : Bool :=
  labels.any fun label => label.chars.any fun c =>
    direction c == .leftward || direction c == .arabicDigit

/-- The labels of a name. -/
def labels (chars : List Char) : Option (List Label) := do
  let mapped ← (chars.splitOn '.').mapM mapChars
  let labels ← (mapped.flatMap (·.splitOn '.')).mapM Label.ofMapped
  if isMixed labels && !labels.all (directionsFit ·.chars) then none
  return labels

/-- A name written in ASCII. -/
def toAscii (chars : List Char) : Option (List Char) := do
  return ['.'].intercalate ((← labels chars).map (·.ascii))

end Runbook.Http.Domain

/-! ## Hosts -/

namespace Runbook.Http

namespace Host

/-- A number of a dotted address, in base 10, 8 or 16. -/
def dottedNumber (chars : List Char) : Option Nat :=
  let read (base : Nat) (digits : List Char) : Option Nat :=
    digits.foldlM (fun value c =>
      ((Percent.hexValue c).filter (· < base)).map (value * base + ·)) 0
  match chars with
  | [] => none
  | '0' :: 'x' :: digits | '0' :: 'X' :: digits => read 16 digits
  | '0' :: c :: digits => read 8 (c :: digits)
  | digits => read 10 digits

/-- The labels of a name, without an empty one behind a dot at the end. -/
def labels (chars : List Char) : List (List Char) :=
  match (chars.splitOn '.').reverse with
  | [] :: label :: rest => (label :: rest).reverse
  | rest => rest.reverse

/-- Whether the last label of a name makes it a dotted address. -/
def endsInNumber (chars : List Char) : Bool :=
  match (labels chars).getLast? with
  | none => false
  | some last =>
    (!last.isEmpty && last.all (fun c => '0' ≤ c && c ≤ '9'))
      || ((last.take 2 == ['0', 'x'] || last.take 2 == ['0', 'X']) && (dottedNumber last).isSome)

/-- The four bytes of an address, with dots between them. -/
def dottedText (address : Nat) : String :=
  let part (shift : Nat) : String := Decimal.digitText (address / 2 ^ shift % 256)
  part 24 ++ "." ++ part 16 ++ "." ++ part 8 ++ "." ++ part 0

/-- Read a dotted address. The last of up to four numbers fills the bytes that are left. -/
def readDotted (chars : List Char) : Option String := do
  let parts := labels chars
  if 4 < parts.length then none
  let numbers ← parts.mapM dottedNumber
  match numbers.reverse with
  | [] => none
  | last :: others =>
    if others.any (255 < ·) ∨ 256 ^ (4 - others.length) ≤ last then none
    let (address, _) := others.reverse.foldl (fun (sum, shift) n =>
      (sum + n * 2 ^ shift, shift - 8)) (last, 24)
    return dottedText address

/-- The two pieces that four numbers with dots between them write. -/
def dottedPieces (chars : List Char) : Option (List Nat) := do
  let bytes ← (chars.splitOn '.').mapM fun digits =>
    if digits.isEmpty || 3 < digits.length || !digits.all (fun c => '0' ≤ c && c ≤ '9')
        || (1 < digits.length && digits.head? == some '0') then none
    else (dottedNumber digits).filter (· ≤ 255)
  match bytes with
  | [a, b, c, d] => some [a * 256 + b, c * 256 + d]
  | _ => none

/-- The piece that up to four hexadecimal digits write. -/
def hexPiece (digits : List Char) : Option Nat :=
  if digits.isEmpty || 4 < digits.length then none
  else digits.foldlM (fun value c => (Percent.hexValue c).map (value * 16 + ·)) 0

/-- The pieces that parts between colons write. The last part of an address may have dots. -/
def readParts (atEnd : Bool) : List (List Char) → Option (List Nat)
  | [] => some []
  | [last] =>
    if last.contains '.' then if atEnd then dottedPieces last else none
    else (hexPiece last).map ([·])
  | part :: rest => do return (← hexPiece part) :: (← readParts atEnd rest)

/-- The 16-bit pieces that a text writes, which may be the end of an address. -/
def readPieces (atEnd : Bool) (chars : List Char) : Option (List Nat) :=
  if chars.isEmpty then some [] else readParts atEnd (chars.splitOn ':')

/-- The parts of a text before and behind the first pair of colons. -/
def splitGap : List Char → Option (List Char × List Char)
  | [] => none
  | ':' :: ':' :: rest => some ([], rest)
  | c :: rest => (splitGap rest).map (fun (before, behind) => (c :: before, behind))

/-- Read an address of eight pieces; a pair of colons stands for pieces that are zero. -/
def readColoned (chars : List Char) : Option (List Nat) := do
  match splitGap chars with
  | none => (readPieces true chars).filter (·.length = 8)
  | some (before, behind) =>
    let before ← readPieces false before
    let behind ← readPieces true behind
    let count := before.length + behind.length
    if 8 ≤ count then none
    return before ++ List.replicate (8 - count) 0 ++ behind

/-- The first of the longest runs of zero pieces, as its start and its length. -/
def longestZeros (pieces : List Nat) : Nat × Nat :=
  let runAt (start : Nat) : Nat := ((pieces.drop start).takeWhile (· == 0)).length
  (List.range pieces.length).foldl (fun best start =>
    if best.2 < runAt start then (start, runAt start) else best) (0, 0)

/-- An address of eight pieces in brackets, with the longest run of zeros left out. -/
def colonedText (pieces : List Nat) : String :=
  let write (pieces : List Nat) : String :=
    ":".intercalate (pieces.map fun piece => String.ofList (Nat.toDigits 16 piece))
  let (start, length) := longestZeros pieces
  if length < 2 then "[" ++ write pieces ++ "]"
  else
    "[" ++ write (pieces.take start) ++ "::" ++ write (pieces.drop (start + length)) ++ "]"

/-- Read the host of a web address: a domain name, or a dotted address if it ends in a number. -/
def readSpecial (chars : List Char) : Option String := do
  let name ← Domain.toAscii (← Text.Utf8.decodeChars (Percent.decode chars))
  if name.isEmpty then none
  if endsInNumber name then readDotted name else return String.ofList name

/-- The characters that no host may hold, whatever the scheme is. -/
def isReserved (c : Char) : Bool :=
  c == '\x00' || (Domain.isForbidden c && 0x20 ≤ c.toNat && c != '%' && c.toNat != 0x7F)

/-- Read the host of any other address, which is taken as it is. -/
def readOther (chars : List Char) : Option String :=
  if chars.any isReserved then none
  else some (String.ofList (Percent.encode (fun c => c.toNat < 0x20 || 0x7E < c.toNat) chars))

/-- Read a host; brackets stand around an address of eight pieces. -/
def read (special : Bool) (chars : List Char) : Option String :=
  match chars with
  | '[' :: rest =>
    if rest.getLast? = some ']' then (readColoned rest.dropLast).map colonedText else none
  | _ => if special then readSpecial chars else readOther chars

end Host

end Runbook.Http
