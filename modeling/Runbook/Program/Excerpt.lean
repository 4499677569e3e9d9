import Runbook.Program.Lines

/-!
# Files and their excerpts

Programs that write files one behind the other, with numbers in front of lines and marks for what
would not show, and programs that write the front or the end of files.
-/

namespace Runbook.Program.Tool

/-- How a byte is shown that would not show. Tabs are shown only if that is asked for. -/
def shownByte (tabs others : Bool) (byte : UInt8) : List UInt8 :=
  let plain (byte : UInt8) : List UInt8 :=
    if byte < 32 then [94, byte + 64] else if byte == 127 then [94, 63] else [byte]
  if byte == 9 then if tabs then [94, 73] else [9]
  else if byte == 10 || !others then [byte]
  else if byte < 128 then plain byte
  else [77, 45] ++ plain (byte - 128)

/-- Whether a line is empty but for its line break. -/
def isEmptyLine (line : List UInt8) : Bool := line == [10]

/-- One empty line in the place of each row of them. -/
def squeezeLines : (after : Bool) → List (List UInt8) → List (List UInt8)
  | _, [] => []
  | after, line :: lines =>
    if isEmptyLine line && after then squeezeLines true lines
    else line :: squeezeLines (isEmptyLine line) lines

/-- The numbers in front of lines. Empty lines may have none. -/
def lineFronts (countEmpty : Bool) : (number : Nat) → List (List UInt8) → List (List UInt8)
  | _, [] => []
  | number, line :: lines =>
    if isEmptyLine line && !countEmpty then [] :: lineFronts countEmpty number lines
    else Text.Octets.toBytes (column 6 number ++ "\t") :: lineFronts countEmpty (number + 1) lines

/-- Write files one behind the other, with numbers in front of the lines or marks in them. -/
def cat : Tool := fun arguments supply =>
  let table := "b|number-nonblank n|number s|squeeze-blank v|show-nonprinting E|show-ends
    T|show-tabs A|show-all e t u"
  withOptions supply.name table arguments fun options =>
    let pieces := readPieces (complainOf supply.name) supply options.operands
    let has (keys : List String) : Bool := keys.any options.has
    if !has ["b", "n", "s", "v", "E", "T", "A", "e", "t"] then
      concludeWith 1 (pieces.writeEach fun bytes => bytes)
    else
      let shown := shownByte (has ["A", "t", "T"]) (has ["A", "e", "t", "v"])
      let marked (line : List UInt8) : List UInt8 :=
        if line.getLast? = some 10 ∧ has ["A", "E", "e"] then
          let front := line.dropLast
          let front := if front.getLast? = some 13 then front.dropLast.flatMap shown ++ [94, 77]
            else front.flatMap shown
          front ++ [36, 10]
        else line.flatMap shown
      let rows (bytes : List UInt8) : List UInt8 :=
        let lines := splitLines bytes
        let lines := if options.has "s" then squeezeLines false lines else lines
        let fronts := if has ["b", "n"] then lineFronts (!options.has "b") 1 lines
          else lines.map fun _ => []
        (fronts.zip lines).flatMap fun (front, line) => front ++ marked line
      concludeWith 1 (pieces.writeJoined rows [] 0)

/-! ## Excerpts -/

/-- How much of a file is taken. -/
structure Amount where
  count : Nat
  /-- Bytes are counted, and not lines. -/
  ofBytes : Bool
  /-- The amount is counted from the other side. -/
  fromOther : Bool

/-- Read an amount. A sign tells from which side it is counted. -/
def readAmount? (otherSign : Char) (ofBytes : Bool) (text : String) : Option Amount :=
  let chars := text.toList
  let digits := if chars.head? = some '-' ∨ chars.head? = some '+' then chars.tail else chars
  (readSize? (String.ofList digits)).map fun n => ⟨n, ofBytes, chars.head? = some otherSign⟩

/-- An argument that begins with digits behind a sign, as options: a count, and the letters behind
it. A unit belongs to the count, and makes it one of bytes. -/
def expandCount? (sign : Char) (argument : String) : Option (List String) :=
  match argument.toList with
  | first :: c :: rest =>
    let digits := (c :: rest).takeWhile Char.isDigit
    if (first = '-' ∨ first = sign) ∧ c.isDigit then
      let letters := (c :: rest).drop digits.length
      let units := letters.takeWhile "bkm".toList.contains
      let others := letters.drop units.length
      let ofBytes := others.contains 'c' || !units.isEmpty
      let count := (if first = '+' then ['+'] else []) ++ digits ++ units
      let others := others.filter fun c => c != 'c' && c != 'l' && c != 'f'
      some ((if ofBytes then ["-c"] else ["-n"]) ++ [String.ofList count]
        ++ (if others.isEmpty then [] else [String.ofList ('-' :: others)]))
    else none
  | _ => none

/-- What is written of files, with empty lines between them if they have titles: what each shows, if
it shows something, and a complaint about it. -/
def excerptWritings (headed : Bool) :
    (first : Bool) → List (Option (List UInt8) × Option String) → Writings
  | _, [] => []
  | first, (none, complaint?) :: rest =>
    complaint?.toList.map told ++ excerptWritings headed first rest
  | first, (some bytes, complaint?) :: rest =>
    shown (if headed && !first then 10 :: bytes else bytes)
      :: (complaint?.toList.map told ++ excerptWritings headed false rest)

/-- Write an excerpt of each file, or of the input, with the names of the files if there are many. A
file is looked at as lines or as bytes. -/
def excerpt (otherSign : Char) (select : Amount → List UInt8 → List UInt8)
    (splitMark : UInt8 → List UInt8 → List (List UInt8))
    (selectLines : Amount → List (List UInt8) → List (List UInt8)) : Tool :=
  fun arguments supply =>
    let arguments := match arguments with
      | first :: rest => ((expandCount? otherSign first).map (· ++ rest)).getD arguments
      | [] => []
    let table := "c|bytes: n|lines: q|quiet q|silent v|verbose z|zero-terminated f|follow F s: "
      ++ "|presume-input-pipe"
    let name := supply.name
    withOptions name table arguments fun options =>
      let given := options.given.filter fun (key, _) => key == "n" || key == "c"
      let amounts := given.map fun (key, value?) =>
        (key, value?.getD "", readAmount? otherSign (key == "c") (value?.getD ""))
      match amounts.find? (·.2.2.isNone) with
      | some (key, text, _) =>
        let unit := if key = "c" then "bytes" else "lines"
        fail 1 [] [name ++ ": invalid number of " ++ unit ++ ": " ++ Mention.marked text]
      | none =>
        let amount := (amounts.getLast?.bind (·.2.2)).getD ⟨10, false, false⟩
        let files := suppliedAll supply options.operands
        let headed := match options.last? ["q", "v"] with
          | some "v" => true
          | some _ => false
          | none => 1 < files.length
        let parts := files.map fun (path, content) =>
          match content with
          | .ok bytes =>
            let bytes := if amount.ofBytes then select amount bytes
              else (selectLines amount (splitMark (recordMark options) bytes)).flatten
            let title := if path = "-" then "standard input" else path
            (if headed then Text.Octets.toBytes ("==> " ++ title ++ " <==\n") else [], bytes, none)
          | .error cause =>
            let isHeaded := headed && cause == FileError.isADirectory
            (if isHeaded then Text.Octets.toBytes ("==> " ++ path ++ " <==\n") else [], [],
              some (complainOpening name path (reason cause)))
        concludeWith 1 (excerptWritings headed true (parts.map fun (title, bytes, complaint?) =>
          (if complaint?.isSome && title.isEmpty then none else some (title ++ bytes), complaint?)))

/-- The front of a list, or all but its end. -/
def selectFront {α : Type} (amount : Amount) (items : List α) : List α :=
  items.take (if amount.fromOther then items.length - amount.count else amount.count)

/-- The end of a list, or all from a place on. -/
def selectEnd {α : Type} (amount : Amount) (items : List α) : List α :=
  items.drop (if amount.fromOther then amount.count - 1 else items.length - amount.count)

/-- Write the front of some files, or all but their end. A device may give zeros without an end. -/
def head : Tool := fun arguments supply =>
  let zeros (supply : Supply) : Supply :=
    if arguments.contains "/dev/zero" then
      let count := (arguments.filterMap fun text =>
        readSize? (String.ofList (text.toList.dropWhile (!·.isDigit)))).foldl max 0
      { supply with
        around.tree := supply.around.tree.put ["dev", "zero"] (.file (List.replicate count 0)) }
    else supply
  excerpt '-' selectFront splitRecords selectFront arguments (zeros supply)

/-- Write the end of some files, or all from a place on. -/
def tail : Tool := excerpt '+' selectEnd splitRecords selectEnd

/-- The pieces of a text that a mark ends, or that begin with a mark. -/
def splitAtMarks (before : Bool) (mark : List UInt8) : (fuel : Nat) → (piece : List UInt8) →
    List UInt8 → List (List UInt8)
  | 0, piece, rest => [piece.reverse ++ rest]
  | _ + 1, [], [] => []
  | _ + 1, piece, [] => [piece.reverse]
  | fuel + 1, piece, byte :: rest =>
    if !mark.isEmpty && mark.isPrefixOf (byte :: rest) then
      let behind := (byte :: rest).drop mark.length
      if before then
        (if piece.isEmpty then [] else [piece.reverse])
          ++ splitAtMarks before mark fuel mark.reverse behind
      else (piece.reverse ++ mark) :: splitAtMarks before mark fuel [] behind
    else splitAtMarks before mark fuel (byte :: piece) rest

/-- Write lines from the last to the first. -/
def tac : Tool := fun arguments supply =>
  withOptions supply.name "b|before r|regex s|separator:" arguments fun options =>
    let complain (path reason : String) : String :=
      supply.name ++ ": failed to open " ++ Mention.shellQuoted path ++ " for reading: " ++ reason
    let mark := ((options.value? "s").map Text.Octets.toBytes).getD [10]
    let parts := (suppliedAll supply options.operands).map fun (path, content) =>
      match content with
      | .ok bytes =>
        ((splitAtMarks (options.has "b") mark (bytes.length + 1) [] bytes).reverse.flatten, none)
      | .error .isADirectory =>
        ([], some (supply.name ++ ": " ++ path ++ ": read error: " ++ reason .isADirectory))
      | .error cause => ([], some (complain path (reason cause)))
    (conclude 1 (parts.flatMap (·.1)) (parts.filterMap (·.2))).outputLast

/-- Write each line from its last character to its first. -/
def rev : Tool := fun arguments supply =>
  let complain (path reason : String) : String := "rev: cannot open " ++ path ++ ": " ++ reason
  let reversed (bytes : List UInt8) : List UInt8 := (splitLines bytes).flatMap fun line =>
    if line.getLast? = some 10 then line.dropLast.reverse ++ [10] else line.reverse
  match Options.read [] (fun _ => false) (arguments.length + 1) arguments with
  | .error fault => fail 1 [] [supply.name ++ ": " ++ fault.message, helpHint "rev"]
  | .ok options =>
    (concludeWith 1 ((readPieces complain supply options.operands).writeEach reversed)).outputLast

end Runbook.Program.Tool
