import Runbook.Program.Escape
import Runbook.Program.Lines

/-!
# The layout of lines

Programs that break lines, put them beside each other, number them, or change their tabs.
-/

namespace Runbook.Program.Tool

/-- Whether a byte stands in a column of its own. A tab goes on to the next place for tabs. -/
def columnBehind (byBytes : Bool) (column : Nat) (byte : UInt8) : Nat :=
  if byBytes then column + 1
  else if byte == 8 then column - 1
  else if byte == 13 then 0
  else if byte == 9 then column + (8 - column % 8)
  else column + 1

/-- The column behind some bytes. -/
def columnOf (byBytes : Bool) (bytes : List UInt8) : Nat :=
  bytes.foldl (columnBehind byBytes) 0

/-- Break a line so that no part of it is wider than some width. Parts may end behind blanks. The
part that has been begun is in reverse. -/
def breakLine (byBytes atBlanks : Bool) (width : Nat) : (fuel : Nat) → (column : Nat) →
    (part : List UInt8) → List UInt8 → List (List UInt8)
  | 0, _, part, rest => [part.reverse ++ rest]
  | _ + 1, _, part, [] => [part.reverse]
  | fuel + 1, column, part, byte :: rest =>
    let next := columnBehind byBytes column byte
    if next ≤ width || part.isEmpty then
      breakLine byBytes atBlanks width fuel next (byte :: part) rest
    else
      let isBlank (b : UInt8) : Bool := b == 32 || b == 9
      let tail := part.takeWhile (!isBlank ·)
      if atBlanks && tail.length < part.length then
        let kept := part.drop tail.length
        kept.reverse :: breakLine byBytes atBlanks width fuel
          (columnOf byBytes tail.reverse) tail (byte :: rest)
      else part.reverse :: breakLine byBytes atBlanks width fuel 0 [] (byte :: rest)

/-- Arguments in which a number behind a dash stands for a value of an option. -/
def expandNumber (option : String) (arguments : List String) : List String :=
  arguments.map fun argument =>
    match argument.toList with
    | '-' :: c :: rest =>
      if (c :: rest).all Char.isDigit then option ++ String.ofList (c :: rest) else argument
    | _ => argument

/-- Break long lines. -/
def fold : Tool := fun arguments supply =>
  let table := "b|bytes s|spaces w|width:"
  withOptions supply.name table (expandNumber "-w" arguments) fun options =>
    let text := (options.value? "w").getD "80"
    match (Decimal.readNatural (2 ^ 63) text.toList).filter (0 < ·) with
    | none => fail 1 [] [supply.name ++ ": invalid number of columns: " ++ Mention.marked text]
    | some width =>
      let broken (bytes : List UInt8) : List UInt8 := (splitLines bytes).flatMap fun line =>
        let ended := line.getLast? == some 10
        let bare := if ended then line.dropLast else line
        let fuel := 3 * bare.length + 3
        let parts := breakLine (options.has "b") (options.has "s") width fuel 0 [] bare
        [10].intercalate parts ++ (if ended then [10] else [])
      concludeWith 1
        ((readPieces (complainOf supply.name) supply options.operands).writeEach broken)

/-! ## Tabs -/

/-- The places for tabs that a text lists: one distance for all, or the places themselves. -/
def readStops? (text : String) : Option (List Nat) :=
  (((text.toList.splitOnP fun c => c == ',' || c == ' ').filter (!·.isEmpty)).mapM fun chars =>
    Decimal.readNatural (2 ^ 32) chars).filter fun stops => !stops.isEmpty && stops.all (0 < ·)

/-- The next place for tabs behind a column. -/
def nextStop (stops : List Nat) (column : Nat) : Nat :=
  match stops with
  | [distance] => column + (distance - column % distance)
  | stops => (stops.find? (column < ·)).getD (column + 1)

/-- Put blanks in the place of tabs. -/
def expandTabs (stops : List Nat) (onlyFront : Bool) : (column : Nat) → (atFront : Bool) →
    List UInt8 → List UInt8
  | _, _, [] => []
  | column, atFront, byte :: rest =>
    if byte == 10 then 10 :: expandTabs stops onlyFront 0 true rest
    else if byte == 9 && (atFront || !onlyFront) then
      let next := nextStop stops column
      List.replicate (next - column) 32 ++ expandTabs stops onlyFront next atFront rest
    else if byte == 8 then 8 :: expandTabs stops onlyFront (column - 1) atFront rest
    else
      let front := atFront && (byte == 32 || byte == 9)
      byte :: expandTabs stops onlyFront (column + 1) front rest

/-- Write files with blanks in the place of tabs. -/
def expand : Tool := fun arguments supply =>
  withOptions supply.name "i|initial t|tabs:" (expandNumber "-t" arguments) fun options =>
    let text := (options.value? "t").getD "8"
    match readStops? text with
    | none =>
      fail 1 []
        [supply.name ++ ": tab size contains invalid character(s): " ++ Mention.marked text]
    | some stops =>
      let pieces := readPieces (complainOf supply.name) supply options.operands
      concludeWith 1 (pieces.writeJoined (expandTabs stops (options.has "i") 0 true) [] 0)

/-- Tabs in the place of blanks between two columns. A single blank stays. -/
def tabsBetween (stops : List Nat) : (fuel : Nat) → (first last : Nat) → List UInt8
  | 0, _, _ => []
  | fuel + 1, first, last =>
    let stop := nextStop stops first
    if last < stop then List.replicate (last - first) 32
    else if stop == first + 1 && last == stop then [32]
    else 9 :: tabsBetween stops fuel stop last

/-- Put tabs in the place of blanks in a line, at its front only or everywhere. -/
def unexpandLine (stops : List Nat) (all : Bool) : (fuel : Nat) → (column : Nat) →
    (atFront : Bool) → List UInt8 → List UInt8
  | 0, _, _, rest => rest
  | _ + 1, _, _, [] => []
  | fuel + 1, column, atFront, byte :: rest =>
    let isBlank (b : UInt8) : Bool := b == 32 || b == 9
    if isBlank byte && (all || atFront) then
      let blanks := (byte :: rest).takeWhile isBlank
      let last := blanks.foldl (fun column b =>
        if b == 9 then nextStop stops column else column + 1) column
      tabsBetween stops (last + 1) column last
        ++ unexpandLine stops all fuel last atFront ((byte :: rest).drop blanks.length)
    else byte :: unexpandLine stops all fuel (column + 1) false rest

/-- Write files with tabs in the place of blanks. -/
def unexpand : Tool := fun arguments supply =>
  withOptions supply.name "a|all |first-only t|tabs:" arguments fun options =>
    let text := (options.value? "t").getD "8"
    let all := (options.has "a" || options.has "t") && !options.has "first-only"
    match readStops? text with
    | none =>
      fail 1 []
        [supply.name ++ ": tab size contains invalid character(s): " ++ Mention.marked text]
    | some stops =>
      let pieces := readPieces (complainOf supply.name) supply options.operands
      let written (bytes : List UInt8) : List UInt8 := (splitLines bytes).flatMap fun line =>
        unexpandLine stops all (line.length + 1) 0 true line
      concludeWith 1 (pieces.writeJoined written [] 0)

/-! ## Lines beside each other -/

/-- Texts with delimiters between them, which are used in turn. -/
def joinInTurn (delimiters : List (List UInt8)) : (place : Nat) → List (List UInt8) → List UInt8
  | _, [] => []
  | _, [text] => text
  | place, text :: texts =>
    let delimiter := delimiters.getD (place % max delimiters.length 1) []
    text ++ delimiter ++ joinInTurn delimiters (place + 1) texts

/-- The delimiters that a text lists. -/
def readDelimiters (text : String) : List (List UInt8) :=
  let rec read : List Char → List (List UInt8)
    | [] => []
    | '\\' :: c :: rest =>
      let letters : List (Char × List UInt8) :=
        [('0', []), ('n', [10]), ('t', [9]), ('\\', [92]), ('b', [8]), ('f', [12]), ('r', [13]),
          ('v', [11])]
      ((letters.lookup c).getD [Text.Octets.byte c]) :: read rest
    | c :: rest => [Text.Octets.byte c] :: read rest
  read text.toList

/-- The files that an operand names; each dash takes the next line of the input in turn. -/
def shareInput (count index : Nat) (lines : List (List UInt8)) : List (List UInt8) :=
  (lines.zipIdx.filter fun (_, place) => place % max count 1 == index).map (·.1)

/-- Write the lines of files beside each other, or those of each file in one line. -/
def paste : Tool := fun arguments supply =>
  withOptions supply.name "d|delimiters: s|serial z|zero-terminated" arguments fun options =>
    let mark := recordMark options
    let delimiters := readDelimiters ((options.value? "d").getD "\t")
    let files := suppliedAll supply options.operands
    let complaints := files.filterMap fun (path, content) =>
      match content with
      | .ok _ => none
      | .error cause => some (complainOf supply.name path (reason cause))
    let contents := files.filterMap fun (path, content) =>
      content.toOption.map fun bytes => (path, bareRecords mark bytes)
    if options.has "s" then
      let row (bytes : List UInt8) : List UInt8 :=
        joinRecords mark [joinInTurn delimiters 0 (bareRecords mark bytes)]
      let pieces := readPieces (complainOf supply.name) supply options.operands
      concludeWith 1 (pieces.writeEach row)
    else if !complaints.isEmpty then fail 1 [] (complaints.take 1)
    else
      let dashes := contents.countP (·.1 == "-")
      let columns := (contents.foldl (fun (columns, index) (path, lines) =>
        if path == "-" then (columns ++ [(shareInput dashes index lines).toArray], index + 1)
        else (columns ++ [lines.toArray], index)) (([] : List (Array (List UInt8))), 0)).1
      let height := (columns.map Array.size).foldl max 0
      let rows := (List.range height).map fun row =>
        joinInTurn delimiters 0 (columns.map fun column => column.getD row [])
      succeed (joinRecords mark rows)

/-! ## Numbers in front of lines -/

/-- How lines are numbered. -/
structure Numbering where
  /-- Which lines of a section are numbered: all, those that are not empty, or none. -/
  styles : List (Char × String)
  first : Int
  step : Int
  width : Nat
  separator : String
  alignment : String
  /-- Empty lines in a row that count as one. -/
  joinBlank : Nat
  /-- Whether numbers go on in the next page. -/
  goesOn : Bool
  delimiter : String

/-- A number in front of a line. -/
def Numbering.front (numbering : Numbering) (n : Int) : String :=
  let digits := Decimal.digitText n.natAbs
  let sign := if n < 0 then "-" else ""
  match numbering.alignment with
  | "ln" =>
    let text := sign ++ digits
    text ++ String.ofList (List.replicate (numbering.width - text.length) ' ')
  | "rz" => sign ++ fillFront '0' (numbering.width - sign.length) digits
  | _ => fillFront ' ' numbering.width (sign ++ digits)

/-- The section that a line begins, if it does. -/
def Numbering.section? (numbering : Numbering) (line : List UInt8) : Option Char :=
  let delimiter := Text.Octets.toBytes numbering.delimiter
  if delimiter.isEmpty then none
  else if line == delimiter ++ delimiter ++ delimiter then some 'h'
  else if line == delimiter ++ delimiter then some 'b'
  else if line == delimiter then some 'f'
  else none

/-- Lines with their numbers, in a section, from a number on. -/
def Numbering.lines (numbering : Numbering) : (current : Char) → (next : Int) → (blanks : Nat) →
    List (List UInt8) → List (List UInt8)
  | _, _, _, [] => []
  | current, next, blanks, line :: lines =>
    match numbering.section? line with
    | some part =>
      let next := if numbering.goesOn then next
        else if part = 'h' ∨ (part = 'b' ∧ current ≠ 'h') then numbering.first else next
      [] :: numbering.lines part next 0 lines
    | none =>
      let style := (numbering.styles.lookup current).getD "n"
      let blanks := if line.isEmpty then blanks + 1 else 0
      let counts := match style with
        | "a" => !line.isEmpty || blanks % max numbering.joinBlank 1 == 0
        | "t" => !line.isEmpty
        | _ => false
      if counts then
        (Text.Octets.toBytes (numbering.front next ++ numbering.separator) ++ line)
          :: numbering.lines current (next + numbering.step) blanks lines
      else
        let width := numbering.width + numbering.separator.length
        (List.replicate width 32 ++ line) :: numbering.lines current next blanks lines

/-- Write lines with their numbers. -/
def nl : Tool := fun arguments supply =>
  let table := "h|header-numbering: b|body-numbering: f|footer-numbering: v|starting-line-number:
    i|line-increment: p|no-renumber l|join-blank-lines: s|number-separator: w|number-width:
    n|number-format: d|section-delimiter:"
  withOptions supply.name table arguments fun options =>
    let integer? (text : String) : Option Int :=
      match text.toList with
      | '-' :: digits => (Decimal.readNatural (2 ^ 63) digits).map fun n => -n
      | digits => (Decimal.readNatural (2 ^ 63) digits).map Int.ofNat
    let number (key : String) (usual : Int) : Option Int :=
      (options.value? key).elim (some usual) integer?
    let text (key usual : String) : String := (options.value? key).getD usual
    let delimiter := text "d" "\\:"
    let wrong (key what : String) : Run :=
      refuse supply.name ("invalid " ++ what ++ ": " ++ Mention.marked (text key ""))
    let (first?, step?, width?, blank?) := (number "v" 1, number "i" 1, number "w" 6, number "l" 1)
    match first?, step?, width?, blank? with
    | none, _, _, _ => wrong "v" "starting line number"
    | _, none, _, _ => wrong "i" "line number increment"
    | _, _, _, none => wrong "l" "line number of blank lines"
    | _, _, none, _ => wrong "w" "line number field width"
    | some first, some step, some width, some blank =>
      let badStyle? := [("b", "body"), ("h", "header"), ("f", "footer")].find? fun (key, _) =>
        !(["a", "t", "n"].contains (text key "n"))
      match badStyle? with
      | some (key, what) => wrong key (what ++ " numbering style")
      | none =>
        if !(["ln", "rn", "rz"].contains (text "n" "rn")) then wrong "n" "line numbering format"
        else if width ≤ 0 then wrong "w" "line number field width"
        else
          let numbering : Numbering :=
            { styles := [('b', text "b" "t"), ('h', text "h" "n"), ('f', text "f" "n")]
              first := first
              step := step
              width := width.toNat
              separator := text "s" "\t"
              alignment := text "n" "rn"
              joinBlank := blank.toNat
              goesOn := options.has "p"
              delimiter := if delimiter.length = 1 then delimiter ++ ":" else delimiter }
          let pieces := readPieces (complainOf supply.name) supply options.operands
          concludeWith 1 ((pieces.ended 10).writeJoined (fun bytes =>
            joinLines (numbering.lines 'b' first 0 (bareLines bytes))) [] 0)

end Runbook.Program.Tool
