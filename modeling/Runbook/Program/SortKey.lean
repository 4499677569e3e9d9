import Runbook.Program.Lines
import Runbook.Program.Numeral

/-!
# Keys of lines

The parts of lines by which they are put in order, and the ways to compare them.
-/

namespace Runbook.Program.SortKey

/-- How two texts are compared. -/
inductive Comparison where
  | text
  | number
  /-- Numbers with points and exponents. -/
  | general
  /-- Numbers with letters for their size. -/
  | human
  | month
  /-- Texts with numbers in them. -/
  | version
deriving DecidableEq, Repr, Inhabited

/-- What counts when texts are compared. -/
structure Manner where
  comparison : Comparison
  blanksAtStart : Bool
  blanksAtEnd : Bool
  /-- Only letters, digits and blanks count. -/
  dictionary : Bool
  /-- Only what shows counts. -/
  printing : Bool
  folded : Bool
  reversed : Bool
deriving DecidableEq, Repr, Inhabited

/-- The usual manner. -/
def Manner.usual : Manner := ⟨.text, false, false, false, false, false, false⟩

/-- Whether nothing is said about a manner. -/
def Manner.isUsual (manner : Manner) : Bool := manner == .usual

/-- A manner with what a letter says about it, if it says something. -/
def Manner.with? (manner : Manner) (atEnd : Bool) : Char → Option Manner
  | 'b' =>
    some (if atEnd then { manner with blanksAtEnd := true }
      else { manner with blanksAtStart := true })
  | 'd' => some { manner with dictionary := true }
  | 'f' => some { manner with folded := true }
  | 'g' => some { manner with comparison := .general }
  | 'h' => some { manner with comparison := .human }
  | 'i' => some { manner with printing := true }
  | 'M' => some { manner with comparison := .month }
  | 'n' => some { manner with comparison := .number }
  | 'r' => some { manner with reversed := true }
  | 'R' => some manner
  | 'V' => some { manner with comparison := .version }
  | _ => none

end SortKey

/-- A key: the field and the character where it begins, those where it ends, and how it is
compared. -/
structure SortKey where
  firstField : Nat
  firstChar : Nat
  /-- The number of whole fields in front of the end, and of characters behind them. -/
  last? : Option (Nat × Nat)
  manner : SortKey.Manner
deriving DecidableEq, Repr, Inhabited

namespace SortKey

/-- Whether a byte separates fields where no other one does. -/
def isBlank (byte : UInt8) : Bool := byte == 32 || byte == 9 || byte == 10

/-- The rest of a line behind some fields. -/
def behindFields (tab? : Option UInt8) : (count : Nat) → List UInt8 → List UInt8
  | 0, line => line
  | count + 1, line =>
    match tab? with
    | some tab => behindFields tab? count ((line.dropWhile (· != tab)).drop 1)
    | none => behindFields tab? count ((line.dropWhile isBlank).dropWhile (!isBlank ·))

/-- Where a key begins in a line. -/
def start (tab? : Option UInt8) (key : SortKey) (line : List UInt8) : Nat :=
  let rest := behindFields tab? key.firstField line
  let rest := if key.manner.blanksAtStart then rest.dropWhile isBlank else rest
  line.length - (rest.drop key.firstChar).length

/-- The rest of a line at the end of some fields. The mark behind the last of them still belongs to
the rest, unless characters are counted behind it. -/
def atFieldsEnd (tab? : Option UInt8) (chars : Nat) : (count : Nat) → List UInt8 → List UInt8
  | 0, line => line
  | count + 1, line =>
    match tab? with
    | some tab =>
      let rest := line.dropWhile (· != tab)
      atFieldsEnd tab? chars count (if count ≠ 0 ∨ chars ≠ 0 then rest.drop 1 else rest)
    | none => atFieldsEnd tab? chars count ((line.dropWhile isBlank).dropWhile (!isBlank ·))

/-- Where a key ends in a line. -/
def finish (tab? : Option UInt8) (key : SortKey) (line : List UInt8) : Nat :=
  match key.last? with
  | none => line.length
  | some (field, chars) =>
    let rest := atFieldsEnd tab? chars (if chars = 0 then field + 1 else field) line
    let rest := if chars ≠ 0 ∧ key.manner.blanksAtEnd then rest.dropWhile isBlank else rest
    line.length - (rest.drop chars).length

/-- The part of a line that a key stands for. -/
def part (tab? : Option UInt8) (key : SortKey) (line : List UInt8) : List UInt8 :=
  let first := key.start tab? line
  (line.take (max first (key.finish tab? line))).drop first

/-- The order of two rows of bytes. -/
def compareBytes : List UInt8 → List UInt8 → Ordering
  | [], [] => .eq
  | [], _ :: _ => .lt
  | _ :: _, [] => .gt
  | a :: left, b :: right => if a == b then compareBytes left right else compare a b

/-- Whether a byte is a digit. -/
def isDigit (byte : UInt8) : Bool := 48 ≤ byte && byte ≤ 57

/-- A number: whether it is negative, the digits in front of its point, and those behind it. Zeros
that say nothing are left out. -/
structure Decimals where
  negative : Bool
  whole : List UInt8
  behind : List UInt8

/-- The number at the front of a text, and the text behind it. -/
def Decimals.read (part : List UInt8) : Decimals × List UInt8 :=
  let part := part.dropWhile isBlank
  let (negative, part) := match part with
    | 45 :: rest => (true, rest)
    | rest => (false, rest)
  let whole := part.takeWhile isDigit
  let rest := part.drop whole.length
  let (behind, rest) := match rest with
    | 46 :: digits => (digits.takeWhile isDigit, digits.dropWhile isDigit)
    | rest => ([], rest)
  let behind := (behind.reverse.dropWhile (· == 48)).reverse
  let whole := whole.dropWhile (· == 48)
  (⟨negative && !(whole.isEmpty && behind.isEmpty), whole, behind⟩, rest)

/-- The order of two numbers. -/
def Decimals.compare (left right : Decimals) : Ordering :=
  let magnitude := ((Ord.compare left.whole.length right.whole.length).then
    (compareBytes left.whole right.whole)).then (compareBytes left.behind right.behind)
  match left.negative, right.negative with
  | true, false => .lt
  | false, true => .gt
  | true, true => magnitude.swap
  | false, false => magnitude

/-- The rank of the letter behind a number: letters for larger sizes rank higher, and those behind
negative numbers lower. -/
def unitRank (part : List UInt8) : Int :=
  let (decimals, rest) := Decimals.read part
  let letters := Text.Octets.toBytes "KMGTPEZYRQ"
  let rank : Int := match rest with
    | byte :: _ =>
      if byte == 107 then 1 else ((letters.idxOf? byte).map fun n => (n : Int) + 1).getD 0
    | [] => 0
  if decimals.whole.isEmpty ∧ decimals.behind.isEmpty then 0
  else if decimals.negative then -rank else rank

/-- The number of a month by the first letters of its name, or zero. -/
def monthOf (part : List UInt8) : Nat :=
  let upper (b : UInt8) : UInt8 := if 97 ≤ b && b ≤ 122 then b - 32 else b
  let name := Text.Octets.ofBytes (((part.dropWhile isBlank).take 3).map upper)
  let months := ["JAN", "FEB", "MAR", "APR", "MAY", "JUN", "JUL", "AUG", "SEP", "OCT", "NOV",
    "DEC"]
  ((months.idxOf? name).map (· + 1)).getD 0

/-- The rank of a number that need not be whole, among texts that are none: these come first, then
what is not a number, then numbers. -/
def compareGeneral (left right : List UInt8) : Ordering :=
  let read (part : List UInt8) : Option Numeral.Real :=
    (Numeral.readReal? (Text.Octets.chars part)).map (·.1)
  let rank (x : Option Numeral.Real) : Nat := match x with
    | none => 0
    | some (.notANumber _) => 1
    | some (.infinite true) => 2
    | some (.finite _ _) => 3
    | some (.infinite false) => 4
  let (x, y) := (read left, read right)
  match x, y with
  | some (.finite n a), some (.finite m b) =>
    let signed (negative : Bool) (n : Nat) : Int := if negative then -n else n
    compare (signed n (a.numerator * b.denominator)) (signed m (b.numerator * a.denominator))
  | _, _ => compare (rank x) (rank y)

/-- The rank of a byte in a text with numbers: a tilde comes before the end, digits and letters
follow, and then all other bytes. -/
def versionRank (byte : UInt8) : Int :=
  let isLetter := (65 ≤ byte && byte ≤ 90) || (97 ≤ byte && byte ≤ 122)
  if byte == 126 then -1 else if isDigit byte then 0
  else if isLetter then byte.toNat else byte.toNat + 256

/-- The order of two texts in which numbers count as such. -/
def compareVersions : (fuel : Nat) → List UInt8 → List UInt8 → Ordering
  | 0, _, _ => .eq
  | fuel + 1, left, right =>
    if left.isEmpty && right.isEmpty then .eq
    else
      let ended (part : List UInt8) : Bool := part.head?.all isDigit
      if !(ended left && ended right) then
        let rank (part : List UInt8) : Int := part.head?.elim 0 versionRank
        match compare (rank left) (rank right) with
        | .eq => compareVersions fuel left.tail right.tail
        | order => order
      else
        let (leftZeros, rightZeros) := (left.dropWhile (· == 48), right.dropWhile (· == 48))
        let (n, m) := (leftZeros.takeWhile isDigit, rightZeros.takeWhile isDigit)
        match (compare n.length m.length).then (compareBytes n m) with
        | .eq => compareVersions fuel (leftZeros.drop n.length) (rightZeros.drop m.length)
        | order => order

/-- Whether a text is a row of endings of a file's name: points with letters and digits behind
them. -/
def isEnding : (fuel : Nat) → List UInt8 → Bool
  | 0, _ => false
  | _ + 1, [] => true
  | fuel + 1, byte :: rest =>
    let isLetter (b : UInt8) : Bool := (65 ≤ b && b ≤ 90) || (97 ≤ b && b ≤ 122) || b == 126
    byte == 46 && rest.head?.any isLetter
      && isEnding fuel (rest.dropWhile fun b => isLetter b || isDigit b)

/-- The front of a name without its endings. -/
def withoutEnding (part : List UInt8) : List UInt8 :=
  let cuts := (List.range (part.length + 1)).filter fun n =>
    isEnding (part.length + 1) (part.drop n)
  part.take (cuts.headD part.length)

/-- The order of two names in which numbers count as such. Hidden names come first. -/
def compareNames (left right : List UInt8) : Ordering :=
  let fuel := 2 * (left.length + right.length) + 2
  if left == right then .eq
  else if left.isEmpty then .lt else if right.isEmpty then .gt
  else
    let hidden (part : List UInt8) : Bool := part.head? == some 46
    let special (part : List UInt8) : Nat :=
      if part == [46] then 0 else if part == [46, 46] then 1 else 2
    match hidden left, hidden right with
    | true, false => .lt
    | false, true => .gt
    | dots, _ =>
      let front := if dots then compare (special left) (special right) else .eq
      let (a, b) := if dots && special left == 2 then (left.tail, right.tail) else (left, right)
      front.then (((compareVersions fuel (withoutEnding a) (withoutEnding b))).then
        (compareVersions fuel a b))

/-- A text as it is compared. -/
def Manner.comparable (manner : Manner) (part : List UInt8) : List UInt8 :=
  let isAlnum (b : UInt8) : Bool :=
    isDigit b || (65 ≤ b && b ≤ 90) || (97 ≤ b && b ≤ 122)
  let part := if manner.dictionary then part.filter fun b => isAlnum b || isBlank b
    else if manner.printing then part.filter fun b => 32 ≤ b && b < 127 else part
  if manner.folded then part.map fun b => if 97 ≤ b && b ≤ 122 then b - 32 else b else part

/-- The order of two parts of lines. -/
def Manner.compare (manner : Manner) (left right : List UInt8) : Ordering :=
  let order := match manner.comparison with
    | .number => Decimals.compare (Decimals.read left).1 (Decimals.read right).1
    | .human =>
      (Ord.compare (unitRank left) (unitRank right)).then
        (Decimals.compare (Decimals.read left).1 (Decimals.read right).1)
    | .general => compareGeneral left right
    | .month => Ord.compare (monthOf left) (monthOf right)
    | .version => compareNames left right
    | .text => compareBytes (manner.comparable left) (manner.comparable right)
  if manner.reversed then order.swap else order

/-- The order of two lines by keys, the first of which counts most. -/
def compareLines (tab? : Option UInt8) (keys : List SortKey) (left right : List UInt8) :
    Ordering :=
  match keys with
  | [] => .eq
  | key :: keys =>
    (key.manner.compare (key.part tab? left) (key.part tab? right)).then
      (compareLines tab? keys left right)

/-! ## Reading keys -/

/-- Read the letters behind a place. -/
def readManner (atEnd : Bool) (manner : Manner) : List Char → Manner × List Char
  | [] => (manner, [])
  | c :: rest =>
    match manner.with? atEnd c with
    | some manner => readManner atEnd manner rest
    | none => (manner, c :: rest)

/-- Read digits. -/
def readCount? (chars : List Char) : Option (Nat × List Char) :=
  let digits := chars.takeWhile Char.isDigit
  (Decimal.readNatural (2 ^ 64) digits).map fun n => (n, chars.drop digits.length)

/-- Read a key. -/
def read (text : String) : Except String SortKey := do
  let invalid (why : String) : String :=
    why ++ ": invalid field specification " ++ Mention.marked text
  let noCount (what : String) (chars : List Char) : String :=
    "invalid number " ++ what ++ ": invalid count at start of "
      ++ Mention.marked (String.ofList chars)
  let chars := text.toList
  let some (field, rest) := readCount? chars | throw (noCount "at field start" chars)
  if field = 0 then throw (invalid "field number is zero")
  let (char, rest) ← match rest with
    | '.' :: rest =>
      match readCount? rest with
      | none => throw (noCount "after '.'" rest)
      | some (0, _) => throw (invalid "character offset is zero")
      | some (n, rest) => pure (n - 1, rest)
    | rest => pure (0, rest)
  let (manner, rest) := readManner false .usual rest
  match rest with
  | [] => return ⟨field - 1, char, none, manner⟩
  | ',' :: rest =>
    let some (lastField, behind) := readCount? rest | throw (noCount "after ','" rest)
    if lastField = 0 then throw (invalid "field number is zero")
    let (lastChar, behind) ← match behind with
      | '.' :: rest =>
        match readCount? rest with
        | none => throw (noCount "after '.'" rest)
        | some (n, rest) => pure (n, rest)
      | rest => pure (0, rest)
    let (manner, behind) := readManner true manner behind
    match behind with
    | [] => return ⟨field - 1, char, some (lastField - 1, lastChar), manner⟩
    | _ => throw (invalid "stray character in field spec")
  | _ => throw (invalid "stray character in field spec")

end SortKey

end Runbook.Program
