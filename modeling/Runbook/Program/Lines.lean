import Runbook.Program.Options

/-!
# Lines and counts

The lines of files, and the program that counts them.
-/

namespace Runbook.Program.Tool

/-! ## Lines

The lines of files, and the words and columns in them. Programs may end lines with a byte of their
own instead of a line break. -/

/-- The records in front of the bytes that end them. The last record may have no such byte. -/
def bareRecords (mark : UInt8) (bytes : List UInt8) : List (List UInt8) :=
  let records := bytes.splitOn mark
  if records.getLast? = some [] then records.dropLast else records

/-- The lines of a text without the line breaks that end them. -/
def bareLines (bytes : List UInt8) : List (List UInt8) := bareRecords 10 bytes

/-- Records with the bytes that end them. -/
def splitRecords (mark : UInt8) (bytes : List UInt8) : List (List UInt8) :=
  let records := bytes.splitOn mark
  let ended := records.dropLast.map (· ++ [mark])
  match records.getLastD [] with
  | [] => ended
  | last => ended ++ [last]

/-- Lines with the line breaks that end them. -/
def splitLines (bytes : List UInt8) : List (List UInt8) := splitRecords 10 bytes

/-- Records, each with a byte behind it. -/
def joinRecords (mark : UInt8) (records : List (List UInt8)) : List UInt8 :=
  records.flatMap (· ++ [mark])

/-- The text of lines, each with a line break behind it. -/
def joinLines (lines : List (List UInt8)) : List UInt8 := joinRecords 10 lines

/-- The byte that ends records: a line break, or zero if an option says so. -/
def recordMark (options : Options) : UInt8 := if options.has "z" then 0 else 10

/-- A content with the byte that ends records behind its last record as well. -/
def endRecord (mark : UInt8) (content : List UInt8) : List UInt8 :=
  if content.isEmpty || content.getLast? == some mark then content else content ++ [mark]

/-- Files of which each ends with a whole record. -/
def Pieces.ended (mark : UInt8) (pieces : Pieces) : Pieces :=
  pieces.map (·.map (endRecord mark))

/-- A text filled up with a character in front of it. -/
def fillFront (fill : Char) (width : Nat) (text : String) : String :=
  String.ofList (List.replicate (width - text.length) fill) ++ text

/-- A number in a column of some width. -/
def column (width n : Nat) : String := fillFront ' ' width (Decimal.digitText n)

/-- A complaint about a file that cannot be read. -/
def complainOf (name path reason : String) : String :=
  name ++ ": " ++ Mention.shellWord path ++ ": " ++ reason

/-- A complaint about a file that cannot be read, by a program that opens its files first. -/
def complainOpening (name path why : String) : String :=
  if why = reason .isADirectory then
    name ++ ": error reading " ++ Mention.shellQuoted path ++ ": " ++ why
  else name ++ ": cannot open " ++ Mention.shellQuoted path ++ " for reading: " ++ why

/-- Whether a byte is white space. -/
def isWhite (byte : UInt8) : Bool := byte == 32 || (9 ≤ byte && byte ≤ 13)

/-- The weights of the letters behind a size, and of those that count in tens. -/
def sizeWeights : List (Char × Nat) :=
  [('k', 1), ('K', 1), ('M', 2), ('G', 3), ('T', 4), ('P', 5), ('E', 6), ('Z', 7), ('Y', 8)]

/-- How much the letters behind a size stand for. -/
def sizeUnit? : List Char → Option Nat
  | [] => some 1
  | ['b'] => some 512
  | [c] | [c, 'i', 'B'] => (sizeWeights.lookup c).map (1024 ^ ·)
  | [c, 'B'] => (sizeWeights.lookup c).map (1000 ^ ·)
  | _ => none

/-- Read a size: digits, and letters for a unit. -/
def readSize? (text : String) : Option Nat := do
  let chars := text.toList
  let digits := chars.takeWhile Char.isDigit
  let unit ← sizeUnit? (chars.drop digits.length)
  match Decimal.readNatural (2 ^ 64 - 1) digits with
  | some n => return n * unit
  | none => none

/-! ## Counts

The program that counts lines, words and bytes. -/

/-- What is counted in a file. -/
structure Counts where
  lines : Nat
  words : Nat
  bytes : Nat
  /-- The length of the longest line as it is shown. -/
  width : Nat
deriving Inhabited

namespace Counts

/-- Where counting is: the counts so far, whether a word has begun, and the length of the line. -/
structure Progress where
  counts : Counts
  inside : Bool
  length : Nat

/-- Count one byte more. -/
def Progress.add (progress : Progress) (byte : UInt8) : Progress :=
  let { counts, inside, length } := progress
  let counts := { counts with bytes := counts.bytes + 1 }
  let ended := { counts with width := max counts.width length }
  if byte == 10 then ⟨{ ended with lines := ended.lines + 1 }, false, 0⟩
  else if byte == 13 || byte == 12 then ⟨ended, false, 0⟩
  else if byte == 9 then ⟨counts, false, length + (8 - length % 8)⟩
  else if byte == 32 then ⟨counts, false, length + 1⟩
  else if byte == 11 then ⟨counts, false, length⟩
  else
    let length := if 32 < byte && byte < 127 then length + 1 else length
    if inside || byte < 32 || 127 ≤ byte then ⟨counts, inside, length⟩
    else ⟨{ counts with words := counts.words + 1 }, true, length⟩

/-- Count what is in a file. -/
def ofBytes (bytes : List UInt8) : Counts :=
  let progress := bytes.foldl Progress.add ⟨⟨0, 0, 0, 0⟩, false, 0⟩
  { progress.counts with width := max progress.counts.width progress.length }

/-- The counts of two files together. -/
def add (left right : Counts) : Counts :=
  ⟨left.lines + right.lines, left.words + right.words, left.bytes + right.bytes,
    max left.width right.width⟩

end Counts

/-- The width of the columns for some files. A single count needs none, and what is not a file has
an unknown length. -/
def countWidth (supply : Supply) (paths : List String) (columns : Nat) : Nat :=
  let sizes := (if paths.isEmpty then ["-"] else paths).map fun path =>
    if path = "-" then
      if supply.input.ofFile then (some supply.input.bytes.length, false) else (none, false)
    else
      match supply.around.tree.find supply.around.directory path with
      | .ok (_, .file content _) => (some content.length, false)
      | .ok _ => (none, false)
      | .error _ => (some 0, true)
  if (sizes.length = 1 ∧ columns = 1) ∨ sizes.head?.any (·.2) then 1
  else
    let total := (sizes.filterMap (·.1)).sum
    max (Decimal.digitText total).length (if sizes.any (·.1.isNone) then 7 else 1)

/-- Count lines, words and bytes of files, or of the input. -/
def wc : Tool := fun arguments supply =>
  let table := "c|bytes m|chars l|lines w|words |files0-from: L|max-line-length |total:"
  withOptions supply.name table arguments fun options =>
    let has (key : String) : Bool := options.has key
    let usual := !(["c", "m", "l", "w", "L"].any has)
    let columns (counts : Counts) : List Nat :=
      (if usual || has "l" then [counts.lines] else [])
        ++ (if usual || has "w" then [counts.words] else [])
        ++ (if has "m" then [counts.bytes] else [])
        ++ (if usual || has "c" then [counts.bytes] else [])
        ++ (if has "L" then [counts.width] else [])
    let width := countWidth supply options.operands (columns default).length
    let row (counts : Counts) (title : List String) : List UInt8 :=
      Text.Octets.toBytes (" ".intercalate ((columns counts).map (column width) ++ title) ++ "\n")
    let files := (suppliedAll supply options.operands).map fun (path, content) =>
      let title := if options.operands.isEmpty then [] else [path]
      match content with
      | .ok bytes =>
        let counts := Counts.ofBytes bytes
        (some counts, row counts title, none)
      | .error cause =>
        let complaint := supply.name ++ ": " ++ Mention.shellWord path ++ ": " ++ reason cause
        if cause = FileError.isADirectory then (some default, row default title, some complaint)
        else (none, [], some complaint)
    let total := (files.filterMap (·.1)).foldl Counts.add default
    let last := if 1 < files.length then row total ["total"] else []
    concludeWith 1 ((files.flatMap fun (_, line, complaint?) =>
      complaint?.toList.map told ++ [shown line]) ++ [shown last])

end Runbook.Program.Tool
