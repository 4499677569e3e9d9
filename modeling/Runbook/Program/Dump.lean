import Runbook.Program.Lines
import Runbook.Program.Numeral

/-!
# Bytes in figures

Programs that write bytes as figures or in a few characters, and read them back.
-/

namespace Runbook.Program.Tool

/-- Parts of a list that have a length, but for the last one. -/
def parts {α : Type} (length : Nat) : (fuel : Nat) → List α → List (List α)
  | 0, _ => []
  | _ + 1, [] => []
  | fuel + 1, items => items.take length :: parts length fuel (items.drop length)

/-- A number in a base with a fixed number of digits. -/
def figures (base width n : Nat) : String :=
  fillFront '0' width (String.ofList (Nat.toDigits base n))

/-- A kind of figures: how many bytes stand in one, how wide it is, and its text. -/
structure Figure where
  size : Nat
  width : Nat
  text : List UInt8 → String
  /-- The bytes are also written as characters behind each row. -/
  shown : Bool

namespace Figure

/-- The names of the bytes that do not show. -/
def controlNames : List String :=
  ["nul", "soh", "stx", "etx", "eot", "enq", "ack", "bel", "bs", "ht", "nl", "vt", "ff", "cr",
    "so", "si", "dle", "dc1", "dc2", "dc3", "dc4", "nak", "syn", "etb", "can", "em", "sub", "esc",
    "fs", "gs", "rs", "us", "sp"]

/-- A byte by its name. -/
def nameText (byte : UInt8) : String :=
  let n := byte.toNat % 128
  if n = 127 then "del"
  else (controlNames[n]?).getD (String.ofList [Char.ofNat n])

/-- A byte as a character, as a backslash escape, or as a number in base 8. -/
def charText (byte : UInt8) : String :=
  let escapes : List (UInt8 × String) :=
    [(0, "\\0"), (7, "\\a"), (8, "\\b"), (9, "\\t"), (10, "\\n"), (11, "\\v"), (12, "\\f"),
      (13, "\\r")]
  match escapes.lookup byte with
  | some text => text
  | none =>
    if 32 ≤ byte && byte < 127 then String.ofList [Text.Octets.char byte]
    else figures 8 3 byte.toNat

/-- The number that bytes stand for, the lowest one first. -/
def number (bytes : List UInt8) : Nat :=
  bytes.foldr (fun byte value => value * 256 + byte.toNat) 0

/-- The figures of a kind for numbers of some bytes. -/
def ofKind (kind : Char) (size : Nat) : Figure :=
  let width (widths : List (Nat × Nat)) : Nat := (widths.lookup size).getD 22
  let signed (bytes : List UInt8) : String :=
    let n := number bytes
    let half := 2 ^ (8 * size - 1)
    if n < half then Decimal.digitText n else "-" ++ Decimal.digitText (2 * half - n)
  match kind with
  | 'a' => ⟨1, 3, fun bytes => nameText (bytes.headD 0), false⟩
  | 'c' => ⟨1, 3, fun bytes => charText (bytes.headD 0), false⟩
  | 'd' => ⟨size, width [(1, 4), (2, 6), (4, 11), (8, 20)], signed, false⟩
  | 'u' =>
    ⟨size, width [(1, 3), (2, 5), (4, 10), (8, 20)],
      fun bytes => Decimal.digitText (number bytes), false⟩
  | 'x' => ⟨size, 2 * size, fun bytes => figures 16 (2 * size) (number bytes), false⟩
  | _ =>
    let width := width [(1, 3), (2, 6), (4, 11), (8, 22)]
    ⟨size, width, fun bytes => figures 8 width (number bytes), false⟩

/-- Read the figures that a text lists. -/
def readAll (whole : String) : (fuel : Nat) → List Char → Except String (List Figure)
  | 0, _ => .ok []
  | _ + 1, [] => .ok []
  | fuel + 1, kind :: rest => do
    let marked := Mention.marked whole
    let (figure, rest) ←
      if kind = 'a' ∨ kind = 'c' then pure (ofKind kind 1, rest)
      else if ['d', 'o', 'u', 'x'].contains kind then
        let letters : List (Char × Nat) := [('C', 1), ('S', 2), ('I', 4), ('L', 8)]
        match rest with
        | c :: behind =>
          match letters.lookup c with
          | some size => pure (ofKind kind size, behind)
          | none =>
            let digits := rest.takeWhile Char.isDigit
            match Decimal.readNatural (2 ^ 32) digits with
            | none => pure (ofKind kind 4, rest)
            | some size =>
              if [1, 2, 4, 8].contains size then pure (ofKind kind size, rest.drop digits.length)
              else
                throw ("invalid type string " ++ marked ++ ";\nthis system doesn't provide a "
                  ++ Decimal.digitText size ++ "-byte integral type")
        | [] => pure (ofKind kind 4, [])
      else
        throw ("invalid character '" ++ String.ofList [kind] ++ "' in type string " ++ marked)
    let (figure, rest) := match rest with
      | 'z' :: rest => ({ figure with shown := true }, rest)
      | rest => (figure, rest)
    return figure :: (← readAll whole fuel rest)

/-- A row of figures, spread evenly over the width of the row. Only so many figures are written as
there are bytes for. -/
def row (figure : Figure) (rowBytes rowWidth : Nat) (bytes : List UInt8) : String :=
  let fields := rowBytes / figure.size
  let pad := rowWidth - fields * figure.width
  let cells := (parts figure.size (bytes.length + 1) bytes).zipIdx.map fun (cell, index) =>
    let before := pad * (fields - index) / fields
    let behind := pad * (fields - index - 1) / fields
    let whole := cell ++ List.replicate (figure.size - cell.length) 0
    fillFront ' ' (before - behind + figure.width) (figure.text whole)
  let shown (byte : UInt8) : Char :=
    if 32 ≤ byte && byte < 127 then Text.Octets.char byte else '.'
  let missing := rowWidth * (fields - cells.length) / fields
  String.join cells ++ if figure.shown then
      String.ofList (List.replicate missing ' ') ++ "  >" ++ String.ofList (bytes.map shown) ++ "<"
    else ""

end Figure

/-- A place in a file with the digits that an option asks for. -/
def placeText (base : String) (place : Nat) : String :=
  match base with
  | "n" => ""
  | "d" => figures 10 7 place
  | "x" => figures 16 6 place
  | _ => figures 8 7 place

/-- Mark rows that are the same as the one before them, once for each run of them. -/
def foldRows (length : Nat) : (before? : Option (List UInt8)) → (marked : Bool) →
    List (Nat × List UInt8) → List (Nat × Option (List UInt8))
  | _, _, [] => []
  | before?, marked, (place, row) :: rows =>
    if before? = some row ∧ row.length = length ∧ !rows.isEmpty then
      if marked then foldRows length before? true rows
      else (place, none) :: foldRows length before? true rows
    else (place, some row) :: foldRows length (some row) false rows

/-- A number of bytes in base 8, 10 or 16, with a letter for a unit behind it. -/
def readOffset? (text : String) : Option Nat :=
  match Numeral.readNatural text.toList with
  | some (n, rest) => (sizeUnit? rest).map (n * ·)
  | none => none

/-- Write bytes in figures, some of them in a row. -/
def od : Tool := fun arguments supply =>
  let table := "j|skip-bytes: A|address-radix: N|read-bytes: t|format: v|output-duplicates
    w|width? S|strings? a b c d f h i l o s x |traditional |endian:"
  withOptions supply.name table arguments fun options =>
    let old : List (String × String) :=
      [("a", "a"), ("b", "o1"), ("c", "c"), ("d", "u2"), ("h", "x2"), ("i", "d4"), ("l", "d8"),
        ("o", "o2"), ("s", "d2"), ("x", "x2")]
    let types := options.given.filterMap fun (key, value?) =>
      if key == "t" then value? else old.lookup key
    let types := if types.isEmpty then ["o2"] else types
    let size (key : String) : Option (Option Nat) := (options.value? key).map readOffset?
    match types.mapM (fun text => Figure.readAll text (text.length + 1) text.toList),
      size "j", size "N" with
    | .error text, _, _ => fail 1 [] [supply.name ++ ": " ++ text]
    | _, some none, _ =>
      fail 1 []
        [supply.name ++ ": invalid -j argument " ++ Mention.marked ((options.value? "j").getD "")]
    | _, _, some none =>
      fail 1 []
        [supply.name ++ ": invalid -N argument " ++ Mention.marked ((options.value? "N").getD "")]
    | .ok figures, skip, most =>
      let figures := figures.flatten
      let skip := (skip.bind id).getD 0
      let pieces := readPieces (complainOf supply.name) supply options.operands
      let (bytes, complaints) := (pieces.content, pieces.complaints)
      if bytes.length < skip then
        fail 1 [] (complaints ++ [supply.name ++ ": cannot skip past end of combined input"])
      else
        let bytes := bytes.drop skip
        let bytes := match most.bind id with
          | some most => bytes.take most
          | none => bytes
        let largest := (figures.map (·.size)).foldl max 1
        let usual := (16 / largest) * largest
        let width := if options.has "w" then
            ((options.value? "w").bind readOffset?).getD 32
          else usual
        let width := if width = 0 ∨ width % largest ≠ 0 then largest else width
        let base := (options.value? "A").getD "o"
        let rowWidth := (figures.map fun figure => (figure.width + 1) * (width / figure.size)).foldl
          max 0
        let rows := (parts width (bytes.length + 1) bytes).zipIdx.map fun (row, index) =>
          (skip + width * index, row)
        let folded := if options.has "v" then rows.map fun (place, row) => (place, some row)
          else foldRows width none false rows
        let lines := folded.flatMap fun (place, row?) =>
          match row? with
          | none => ["*"]
          | some row =>
            let blank := String.ofList (List.replicate (placeText base 0).length ' ')
            figures.zipIdx.map fun (figure, index) =>
              (if index = 0 then placeText base place else blank)
                ++ figure.row width rowWidth row
        let last := if base = "n" then [] else [placeText base (skip + bytes.length)]
        (conclude 1 (joinLines ((lines ++ last).map Text.Octets.toBytes)) complaints).outputLast

/-! ## Bytes in a few characters -/

/-- A way to write bytes in characters: each character carries some bits, and groups of characters
are filled up with equality signs. -/
structure Alphabet where
  chars : List Char
  bits : Nat
  /-- How many characters stand in a group, and how many bytes that are. -/
  group : Nat
  groupBytes : Nat
  /-- The front of a group that is not as it should be counts. -/
  partly : Bool

/-- Sixty-four characters, four of which are three bytes. -/
def Alphabet.base64 : Alphabet where
  chars := "ABCDEFGHIJKLMNOPQRSTUVWXYZabcdefghijklmnopqrstuvwxyz0123456789+/".toList
  bits := 6
  group := 4
  groupBytes := 3
  partly := true

/-- Thirty-two characters, eight of which are five bytes. -/
def Alphabet.base32 : Alphabet where
  chars := "ABCDEFGHIJKLMNOPQRSTUVWXYZ234567".toList
  bits := 5
  group := 8
  groupBytes := 5
  partly := false

namespace Alphabet

/-- The characters of a group of bytes. -/
def encodeGroup (alphabet : Alphabet) (bytes : List UInt8) : List UInt8 :=
  let missing := alphabet.groupBytes - bytes.length
  let value := (bytes ++ List.replicate missing 0).foldl (fun (n : Nat) (byte : UInt8) =>
    n * 256 + byte.toNat) 0
  let count := (8 * bytes.length + alphabet.bits - 1) / alphabet.bits
  (List.range alphabet.group).map fun index =>
    if index < count then
      let shifted := value / 2 ^ (alphabet.bits * (alphabet.group - 1 - index))
      Text.Octets.byte (alphabet.chars.getD (shifted % 2 ^ alphabet.bits) '=')
    else 61

/-- The characters of bytes. -/
def encode (alphabet : Alphabet) (bytes : List UInt8) : List UInt8 :=
  (parts alphabet.groupBytes (bytes.length + 1) bytes).flatMap alphabet.encodeGroup

/-- The bytes of a group of characters, and whether the group is as it should be. Signs that fill it
up have to stand at its end. -/
def decodeGroup (alphabet : Alphabet) (group : List UInt8) : List UInt8 × Bool :=
  let values := group.map fun byte => alphabet.chars.idxOf? (Text.Octets.char byte)
  let front := values.takeWhile Option.isSome
  let value := (front.filterMap id).foldl (fun n digit => n * 2 ^ alphabet.bits + digit) 0
  let bits := alphabet.bits * front.length
  let count := bits / 8
  let whole := value / 2 ^ (bits - 8 * count)
  let bytes := (List.range count).map fun index =>
    (whole / 256 ^ (count - 1 - index) % 256).toUInt8
  let filled := (group.drop front.length).all (· == 61)
  let leftOver := bits - 8 * count
  (bytes, group.length == alphabet.group && filled && leftOver < alphabet.bits
    && 0 < count)

/-- The bytes that characters stand for, up to the first group that is not as it should be. -/
def decode (alphabet : Alphabet) : List (List UInt8) → List UInt8 × Bool
  | [] => ([], true)
  | group :: groups =>
    let (bytes, good) := alphabet.decodeGroup group
    if good then
      let (later, good) := decode alphabet groups
      (bytes ++ later, good)
    else (if alphabet.partly then bytes else [], false)

/-- Write bytes in characters, in lines of some length, or read them back. -/
def tool (alphabet : Alphabet) : Tool := fun arguments supply =>
  let name := supply.name
  withOptions name "d|decode i|ignore-garbage w|wrap:" arguments fun options =>
    match options.operands with
    | _ :: extra :: _ => refuse name (extraOperand extra)
    | paths =>
      let pieces := readPieces (complainOf name) supply paths
      let (bytes, complaints) := (pieces.content, pieces.complaints)
      if options.has "d" then
        let isKnown (byte : UInt8) : Bool :=
          byte == 61 || alphabet.chars.contains (Text.Octets.char byte)
        let kept := bytes.filter fun byte =>
          byte != 10 && (!options.has "i" || isKnown byte)
        let (decoded, good) := alphabet.decode (parts alphabet.group (kept.length + 1) kept)
        conclude 1 decoded (complaints ++ if good then [] else [name ++ ": invalid input"])
      else
        let text := (options.value? "w").getD "76"
        match Decimal.readNatural (2 ^ 63) text.toList with
        | none => fail 1 [] [name ++ ": invalid wrap size: " ++ Mention.marked text]
        | some width =>
          let encoded := alphabet.encode bytes
          conclude 1 (if width = 0 then encoded
            else joinLines (parts width (encoded.length + 1) encoded)) complaints

end Alphabet

end Runbook.Program.Tool
