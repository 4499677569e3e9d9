import Runbook.Decimal.Layout
import Runbook.Decimal.Reading
import Runbook.Shell.Script

/-!
# Braces

A word with braces stands for many words: one for each of the texts that commas separate between
them, or one for each number or letter of a sequence.
-/

namespace Runbook.Shell.Extended

/-- The character of a piece that is one character without quotes. -/
def bareChar? : Piece → Option Char
  | .text false [c] => some c
  | _ => none

/-- Whether a piece is some character without quotes. -/
def isBare (c : Char) (piece : Piece) : Bool := bareChar? piece == some c

/-- Pieces that are divided so that each character without quotes stands in a piece of its own. -/
def singled (word : Word) : Word :=
  word.flatMap fun piece => match piece with
    | .text false chars => chars.map fun c => .text false [c]
    | piece => [piece]

/-- The pieces in front of the brace that closes one that has been opened, and behind it: commas
have to stand between them, or two dots. -/
def spanBraces : (depth : Nat) → (divided : Bool) → Word → Option (Word × Word)
  | _, _, [] => none
  | depth, divided, piece :: rest =>
    let goOn (depth : Nat) (divided : Bool) : Option (Word × Word) :=
      (spanBraces depth divided rest).map fun (inside, behind) => (piece :: inside, behind)
    match bareChar? piece with
    | some '\x7d' =>
      if depth = 0 then if divided then some ([], rest) else goOn 0 false
      else goOn (depth - 1) divided
    | some '\x7b' => goOn (depth + 1) divided
    | some ',' => goOn depth (divided || depth == 0)
    | some '.' =>
      let dots := rest.head?.any (isBare '.') && !rest.tail.head?.all (isBare '\x7d')
      goOn depth (divided || (depth == 0 && dots))
    | _ => goOn depth divided

/-- The pieces in front of the first braces that stand for many words, between them, and behind
them. -/
def findBraces : (atFront : Bool) → Word → Option (Word × Word × Word)
  | _, [] => none
  | atFront, piece :: rest =>
    let goOn (_ : Unit) : Option (Word × Word × Word) :=
      (findBraces false rest).map fun (front, inside, behind) => (piece :: front, inside, behind)
    if isBare '\x7b' piece && !(atFront && rest.head?.any (isBare '\x7d')) then
      match spanBraces 0 false rest with
      | some (inside, behind) => some ([], inside, behind)
      | none => goOn ()
    else goOn ()

/-- The parts of a word between commas that stand in no braces. -/
def splitCommas : (depth : Nat) → Word → List Word
  | _, [] => [[]]
  | depth, piece :: rest =>
    if isBare ',' piece && depth == 0 then [] :: splitCommas depth rest
    else
      let depth := if isBare '\x7b' piece then depth + 1
        else if isBare '\x7d' piece then depth - 1 else depth
      match splitCommas depth rest with
      | first :: others => (piece :: first) :: others
      | [] => [[piece]]

/-- A whole number with a sign, and what stands behind it. -/
def readSigned? (chars : List Char) : Option (Int × List Char) :=
  let (negative, digits) := match chars with
    | '-' :: rest => (true, rest)
    | '+' :: rest => (false, rest)
    | rest => (false, rest)
  let front := digits.takeWhile Char.isDigit
  (Decimal.readNatural (2 ^ 63 - 1) front).map fun n =>
    ((if negative then -(n : Int) else n), digits.drop front.length)

/-- The numbers from one to another in steps of some size, which has a sign of its own that does not
count. -/
def steps (first last : Int) (size : Nat) : List Int :=
  let size := max 1 size
  let count := (last - first).natAbs / size
  (List.range (count + 1)).map fun (n : Nat) =>
    if first ≤ last then first + (n : Int) * size else first - (n : Int) * size

/-- Whether a number is written with zeros in front of it. -/
def hasZeros (chars : List Char) : Bool :=
  match chars with
  | '0' :: _ :: _ | '-' :: '0' :: _ :: _ => true
  | _ => false

/-- A number with zeros in front of it, up to a width. -/
def padded (width : Nat) (n : Int) : String :=
  let digits := Decimal.digitText n.natAbs
  let sign := if n < 0 then "-" else ""
  sign ++ Decimal.zeros (width - sign.length - digits.length) ++ digits

/-- The size of the steps that a text behind the end of a sequence tells. -/
def stepSize? (chars : List Char) : Option Nat :=
  match chars with
  | [] => some 1
  | '.' :: '.' :: rest =>
    match readSigned? rest with
    | some (n, []) => some n.natAbs
    | _ => none
  | _ => none

/-- The words of a sequence: of numbers, or of letters. -/
def sequence? (chars : List Char) : Option (List Word) :=
  let (first, rest) := chars.span (· != '.')
  match rest with
  | '.' :: '.' :: last =>
    match readSigned? first, readSigned? last, first, last with
    | some (low, []), some (high, behind), _, _ =>
      let lastText := last.take (last.length - behind.length)
      let width := if hasZeros first || hasZeros lastText then max first.length lastText.length
        else 0
      (stepSize? behind).map fun size =>
        (steps low high size).map fun n => [.text false (padded width n).toList]
    | _, _, [low], high :: behind =>
      if low.isAlpha && high.isAlpha then
        (stepSize? behind).map fun size =>
          (steps low.toNat high.toNat size).map fun n => [.text true [Char.ofNat n.toNat]]
      else none
    | _, _, _, _ => none
  | _ => none

/-- The words that a word with braces stands for. -/
def expandBraces : (fuel : Nat) → Word → List Word
  | 0, word => [word]
  | fuel + 1, word =>
    match findBraces true word with
    | none => [word]
    | some (front, inside, behind) =>
      let parts? : Option (List Word) :=
        if inside.any (isBare ',') then
          some ((splitCommas 0 inside).flatMap (expandBraces fuel))
        else (Word.plain? inside).bind sequence?
      match parts? with
      | some parts =>
        let ends := expandBraces fuel behind
        parts.flatMap fun part => ends.map fun ending => front ++ part ++ ending
      | none =>
        let kept := front ++ [.text false ['\x7b']] ++ inside ++ [.text false ['\x7d']]
        (expandBraces fuel behind).map (kept ++ ·)

/-- The words that words with braces stand for. -/
def spread (words : List Word) : List Word :=
  words.flatMap fun word =>
    if word.any (isBare '\x7b') then
      let pieces := singled word
      expandBraces (pieces.length + 1) pieces
    else [word]

end Runbook.Shell.Extended
