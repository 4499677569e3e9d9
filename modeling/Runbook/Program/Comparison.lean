import Runbook.Program.Alignment
import Runbook.Program.PathName

/-!
# Comparisons and first differences

Programs that compare two files, line by line or byte for byte.
-/

/-! ## Comparisons

The program that writes where the lines of two files differ. Two directories are compared file by
file. -/

namespace Runbook.Program.Comparison

open Runbook.Program.Alignment (Change)

/-! ## Equal lines -/

/-- Which white space of a line does not count. -/
inductive BlankRule where
  | counts
  /-- White space at the end of a line is left out. -/
  | ending
  /-- White space at the end is left out, and elsewhere all white space is the same. -/
  | amount
  | all
deriving DecidableEq, Repr, Inhabited

/-- When lines are equal. -/
structure Equality where
  ignoresCase : Bool
  blanks : BlankRule
deriving DecidableEq, Repr, Inhabited

/-- A line with one blank for each row of white space in it. -/
def squeezeBlanks : (blank : Bool) → List UInt8 → List UInt8
  | _, [] => []
  | blank, byte :: rest =>
    if Tool.isWhite byte then (if blank then [] else [32]) ++ squeezeBlanks true rest
    else byte :: squeezeBlanks false rest

/-- A line without white space at its end. -/
def trimEnd (line : List UInt8) : List UInt8 := (line.reverse.dropWhile Tool.isWhite).reverse

/-- What has to be the same in two lines that are equal. -/
def Equality.key (equality : Equality) (line : List UInt8) : List UInt8 :=
  let line := match equality.blanks with
    | .counts => line
    | .ending => trimEnd line
    | .amount => squeezeBlanks false (trimEnd line)
    | .all => line.filter (!Tool.isWhite ·)
  if equality.ignoresCase then
    line.map fun byte => if 65 ≤ byte && byte ≤ 90 then byte + 32 else byte
  else line

/-! ## Forms -/

/-- The form in which differences are written. -/
inductive Form where
  | plain
  /-- Commands of an editor, the last lines first. -/
  | script
  /-- Both sides one behind the other, with some lines around them. -/
  | context (margin : Nat)
  /-- Both sides in one, with some lines around them. -/
  | unified (margin : Nat)
deriving DecidableEq, Repr, Inhabited

/-- How many lines stand around a difference. -/
def Form.margin : Form → Nat
  | .context n | .unified n => n
  | .plain | .script => 0

/-- The two files that are compared, as lines. -/
structure Sides where
  left : Array (List UInt8)
  right : Array (List UInt8)
deriving Inhabited

/-- The lines of two contents. In a form without remarks all lines end. -/
def Sides.ofContents (form : Form) (left right : List UInt8) : Sides :=
  let linesOf (content : List UInt8) : Array (List UInt8) :=
    (Tool.splitLines (if form = .script then Tool.endRecord 10 content else content)).toArray
  ⟨linesOf left, linesOf right⟩

/-- A range of lines by its first and its last number. Of no lines there is the number of the line
in front of them. -/
def spanText (first count : Nat) : String :=
  if count ≤ 1 then Decimal.digitText (first + count)
  else Decimal.digitText (first + 1) ++ "," ++ Decimal.digitText (first + count)

/-- A range of lines by its first number and how many they are. -/
def countText (first count : Nat) : String :=
  if count = 1 then Decimal.digitText (first + 1)
  else Decimal.digitText (if count = 0 then first else first + 1) ++ ","
    ++ Decimal.digitText count

/-- A line behind a mark. A remark follows it if it does not end. -/
def markedLine (mark : String) (line : List UInt8) : List UInt8 :=
  Text.Octets.toBytes mark ++ line
    ++ (if line.getLast? = some 10 then []
      else Text.Octets.toBytes "\n\\ No newline at end of file\n")

/-- Some lines behind a mark. -/
def markedLines (mark : String) (lines : Array (List UInt8)) (first count : Nat) : List UInt8 :=
  (lines.extract first (first + count)).toList.flatMap (markedLine mark)

/-- A line of text as bytes. -/
def textLine (text : String) : List UInt8 := Text.Octets.toBytes text ++ [10]

namespace Sides

/-- The letter of a difference: lines that are added, deleted or changed. -/
def letter (change : Change) : String :=
  if change.deleted = 0 then "a" else if change.inserted = 0 then "d" else "c"

/-- A difference with its lines behind angle brackets. -/
def plain (sides : Sides) (change : Change) : List UInt8 :=
  textLine (spanText change.left change.deleted ++ letter change
      ++ spanText change.right change.inserted)
    ++ markedLines "< " sides.left change.left change.deleted
    ++ (if letter change = "c" then textLine "---" else [])
    ++ markedLines "> " sides.right change.right change.inserted

/-- A difference as a command of an editor. -/
def script (sides : Sides) (change : Change) : List UInt8 :=
  textLine (spanText change.left change.deleted ++ letter change)
    ++ (if change.inserted = 0 then []
      else markedLines "" sides.right change.right change.inserted ++ textLine ".")

/-- Lines in a row that are written together: where they begin, and how many they are on each
side. -/
structure Extent where
  left : Nat
  leftCount : Nat
  right : Nat
  rightCount : Nat
deriving DecidableEq, Repr, Inhabited

/-- The lines of differences, with some lines around them. -/
def extent (sides : Sides) (margin : Nat) (first last : Change) : Extent :=
  let (left, right) := (first.left - margin, first.right - margin)
  ⟨left, min sides.left.size (last.left + last.deleted + margin) - left,
    right, min sides.right.size (last.right + last.inserted + margin) - right⟩

/-- Differences and the lines around them, of which only those in differences have a mark. -/
def unifiedRows (sides : Sides) (stop : Nat) : (place : Nat) → List Change → List UInt8
  | place, [] => markedLines " " sides.left place (stop - place)
  | place, change :: rest =>
    markedLines " " sides.left place (change.left - place)
      ++ markedLines "-" sides.left change.left change.deleted
      ++ markedLines "+" sides.right change.right change.inserted
      ++ unifiedRows sides stop (change.left + change.deleted) rest

/-- Differences and the lines around them, both sides in one. -/
def unified (sides : Sides) (margin : Nat) (first : Change) (others : List Change) : List UInt8 :=
  let extent := sides.extent margin first (others.getLastD first)
  textLine ("@@ -" ++ countText extent.left extent.leftCount ++ " +"
      ++ countText extent.right extent.rightCount ++ " @@")
    ++ sides.unifiedRows (extent.left + extent.leftCount) extent.left (first :: others)

/-- One side of differences and the lines around them: the places of the differences on this side,
each with its mark. -/
def contextRows (lines : Array (List UInt8)) (stop : Nat) :
    (place : Nat) → List (Nat × Nat × String) → List UInt8
  | place, [] => markedLines "  " lines place (stop - place)
  | place, (first, count, mark) :: rest =>
    markedLines "  " lines place (first - place) ++ markedLines mark lines first count
      ++ contextRows lines stop (first + count) rest

/-- Differences and the lines around them, one side behind the other. A side on which nothing is
different is left out. -/
def context (sides : Sides) (margin : Nat) (first : Change) (others : List Change) : List UInt8 :=
  let changes := first :: others
  let extent := sides.extent margin first (others.getLastD first)
  let markOf (change : Change) (alone : String) : String :=
    if letter change = "c" then "! " else alone
  let lefts := changes.map fun change => (change.left, change.deleted, markOf change "- ")
  let rights := changes.map fun change => (change.right, change.inserted, markOf change "+ ")
  textLine "***************"
    ++ textLine ("*** " ++ spanText extent.left extent.leftCount ++ " ****")
    ++ (if changes.all (·.deleted = 0) then []
      else contextRows sides.left (extent.left + extent.leftCount) extent.left lefts)
    ++ textLine ("--- " ++ spanText extent.right extent.rightCount ++ " ----")
    ++ (if changes.all (·.inserted = 0) then []
      else contextRows sides.right (extent.right + extent.rightCount) extent.right rights)

/-- Whether the lines of a difference are all empty. -/
def isEmpty (sides : Sides) (change : Change) : Bool :=
  ((sides.left.extract change.left (change.left + change.deleted)).all (· == [10]))
    && (sides.right.extract change.right (change.right + change.inserted)).all (· == [10])

end Sides

/-- Where the lines of two files differ. The search leaves out the lines at the front and at the end
that are the same byte for byte, but for those that are written with a difference. -/
def Equality.differences (equality : Equality) (margin : Nat) (sides : Sides) : List Change :=
  let (left, right) := (sides.left.toList, sides.right.toList)
  (Alignment.ofLists (left.map equality.key) (right.map equality.key)).differences
    (.ofLists margin left right)

/-- How files are compared, and what is written about them. -/
structure Settings where
  form : Form
  equality : Equality
  ignoresEmptyLines : Bool
  /-- Only whether files differ is written. -/
  isBrief : Bool
  /-- It is written as well if files are equal. -/
  tellsEqual : Bool
  /-- Files that are not text are compared as text. -/
  asText : Bool
  /-- Files that are missing count as empty. -/
  missingAsEmpty : Bool
  /-- Directories in directories are compared. -/
  recursive : Bool
  labels : List String
  /-- The name of the program, and how it was called. -/
  name : String
  command : String
deriving Inhabited

/-- A file that is compared. -/
structure Item where
  path : String
  content : List UInt8
deriving DecidableEq, Repr, Inhabited

/-- What a comparison writes, and with which code it ends. -/
structure Verdict where
  code : UInt8
  written : Writings
deriving Inhabited

/-- A comparison that writes a line. -/
def Verdict.line (code : UInt8) (text : String) : Verdict := ⟨code, [Tool.shown (textLine text)]⟩

/-- One comparison behind another one. The higher code counts. -/
def Verdict.append (first second : Verdict) : Verdict :=
  ⟨max first.code second.code, first.written ++ second.written⟩

namespace Settings

/-- Differences that stand so close together that they share the lines around them. Those of empty
lines, which do not count, have to stand closer. -/
def groups (settings : Settings) (sides : Sides) (changes : List Change) : List (List Change) :=
  let margin := settings.form.margin
  let ignored (change : Change) : Bool := settings.ignoresEmptyLines && sides.isEmpty change
  let near (change next : Change) : Bool :=
    let distance := next.left - (change.left + change.deleted)
    if ignored next then distance < margin else distance < 2 * margin + 1
  (changes.splitBy near).filter fun group => !group.all ignored

/-- The lines about the two files in front of their differences. -/
def heading (settings : Settings) (left right : Item) : List UInt8 :=
  let title (index : Nat) (item : Item) (time : String) : String :=
    (settings.labels[index]?).getD (item.path ++ "\t" ++ time)
  let titles (first second time : String) : List UInt8 :=
    textLine (first ++ title 0 left time) ++ textLine (second ++ title 1 right time)
  match settings.form with
  | .plain | .script => []
  | .context _ => titles "*** " "--- " "Thu Jan  1 00:00:00 1970"
  | .unified _ => titles "--- " "+++ " "1970-01-01 00:00:00.000000000 +0000"

/-- The differences of two files, in the form that is asked for. -/
def render (settings : Settings) (sides : Sides) (changes : List Change) : List UInt8 :=
  let groups := settings.groups sides changes
  let each (write : Change → List Change → List UInt8) : List UInt8 :=
    groups.flatMap fun
      | [] => []
      | first :: others => write first others
  match settings.form with
  | .plain => groups.flatten.flatMap sides.plain
  | .script => groups.flatten.reverse.flatMap sides.script
  | .context margin => each (sides.context margin)
  | .unified margin => each (sides.unified margin)

/-- Complaints about files of which the last line does not end. -/
def unended (settings : Settings) (items : List Item) : Writings :=
  (items.filter fun item => item.content != Tool.endRecord 10 item.content).map fun item =>
    Tool.told (settings.name ++ ": " ++ item.path ++ ": No newline at end of file")

/-- Compare two files. Of files that are not text only whether they differ is written. -/
def compareItems (settings : Settings) (nested : Bool) (left right : Item) : Verdict :=
  let names := left.path ++ " and " ++ right.path
  let equal : Verdict :=
    if settings.tellsEqual then .line 0 ("Files " ++ names ++ " are identical") else ⟨0, []⟩
  let isBinary := !settings.asText && (left.content.contains 0 || right.content.contains 0)
  if left.content = right.content then equal
  else if isBinary then
    if settings.isBrief then .line 1 ("Files " ++ names ++ " differ")
    else .line 2 ("Binary files " ++ names ++ " differ")
  else
    let sides := Sides.ofContents settings.form left.content right.content
    let changes := settings.equality.differences settings.form.margin sides
    let unended := if settings.form = .script then settings.unended [left, right] else []
    if (settings.groups sides changes).isEmpty then
      if unended.isEmpty then equal else ⟨2, unended⟩
    else if settings.isBrief then .line 1 ("Files " ++ names ++ " differ")
    else
      let title := if nested then
          textLine (settings.command ++ " " ++ Mention.shellWord left.path ++ " "
            ++ Mention.shellWord right.path)
        else []
      ⟨if unended.isEmpty then 1 else 2,
        Tool.shown (title ++ settings.heading left right ++ settings.render sides changes)
          :: unended⟩

end Settings

/-! ## Directories -/

/-- What a path leads to. -/
inductive Subject where
  | text (content : List UInt8)
  | device
  | directory
  | missing (cause : FileError)
deriving DecidableEq, Repr, Inhabited

/-- What a path leads to. A dash leads to the input. -/
def Subject.at (supply : Supply) (path : String) : Subject :=
  if path = "-" then .text supply.input.bytes
  else
    match supply.around.tree.find supply.around.directory path with
    | .ok (_, .directory) => .directory
    | .ok (_, .file content _) => .text content
    | .ok _ => .device
    | .error cause => .missing cause

/-- What a subject is called. -/
def Subject.kind : Subject → String
  | .text content => if content.isEmpty then "regular empty file" else "regular file"
  | .device => "character special file"
  | .directory => "directory"
  | .missing _ => "file"

/-- What is read from a subject. -/
def Subject.content : Subject → List UInt8
  | .text content => content
  | _ => []

/-- The path of a name in a directory. -/
def inside (directory name : String) : String :=
  if directory.endsWith "/" then directory ++ name else directory ++ "/" ++ name

/-- The names in a directory. -/
def namesIn (supply : Supply) (path : String) : List String :=
  (supply.around.tree.list supply.around.directory path).getD []

/-- A missing file as an empty one, or as an empty directory if there is one on the other side. -/
def Subject.orEmpty (other : Subject) : Subject → Subject
  | .missing _ => if other = .directory then .directory else .text []
  | subject => subject

/-- Compare what stands at two paths. A file is compared with the one of its name in a directory. -/
def comparePaths (settings : Settings) (supply : Supply) :
    (fuel : Nat) → (nested : Bool) → (left right : String) → Verdict
  | 0, _, _, _ => ⟨0, []⟩
  | fuel + 1, nested, left, right =>
    let (first, second) := (Subject.at supply left, Subject.at supply right)
    let spare := settings.missingAsEmpty
      && !(first matches .missing _ && second matches .missing _)
    let (first, second) :=
      if spare then (first.orEmpty second, second.orEmpty first) else (first, second)
    let complain (path : String) : Subject → Writings
      | .missing cause =>
        [Tool.told (supply.name ++ ": " ++ path ++ ": " ++ Tool.reason cause)]
      | _ => []
    let unlike : Verdict := .line 1 ("File " ++ left ++ " is a " ++ first.kind ++ " while file "
      ++ right ++ " is a " ++ second.kind)
    let noName : Verdict :=
      ⟨2, [Tool.told (supply.name ++ ": cannot compare '-' to a directory")]⟩
    let again (left right : String) : Verdict :=
      if nested then unlike
      else if left = "-" || right = "-" then noName
      else comparePaths settings supply fuel nested left right
    match first, second with
    | .missing _, _ | _, .missing _ => ⟨2, complain left first ++ complain right second⟩
    | .directory, .directory =>
      if supply.around.isSame left right then ⟨0, []⟩
      else if nested && !settings.recursive then
        .line 0 ("Common subdirectories: " ++ left ++ " and " ++ right)
      else
        let (lefts, rights) := (namesIn supply left, namesIn supply right)
        let names := (lefts ++ rights.filter (!lefts.contains ·)).mergeSort
        (names.map fun name =>
          if settings.missingAsEmpty || (lefts.contains name && rights.contains name) then
            comparePaths settings supply fuel true (inside left name) (inside right name)
          else
            .line 1 ("Only in " ++ (if lefts.contains name then left else right) ++ ": " ++ name)
          ).foldl Verdict.append ⟨0, []⟩
    | .directory, _ =>
      again (if right = "-" then right else inside left (Tool.lastName right)) right
    | _, .directory => again left (if left = "-" then left else inside right (Tool.lastName left))
    | _, _ => settings.compareItems nested ⟨left, first.content⟩ ⟨right, second.content⟩

/-! ## The program -/

/-- The options of the program that compares files. -/
def table : OptionTable := .ofText "a|text b|ignore-space-change B|ignore-blank-lines c C: context?
  d|minimal e|ed E|ignore-tab-expansion i|ignore-case L|label: N|new-file normal q|brief
  r|recursive s|report-identical-files u U: unified? w|ignore-all-space Z|ignore-trailing-space
  H|speed-large-files strip-trailing-cr color? horizon-lines: no-dereference"

/-- How many lines an option asks for around differences, if it does. -/
def marginOf? : String × Option String → Except String (Option Nat)
  | ("u", _) | ("c", _) | ("unified", none) | ("context", none) => .ok (some 3)
  | ("U", some text) | ("C", some text) | ("unified", some text) | ("context", some text) =>
    match Decimal.readNatural (10 ^ text.length) text.toList with
    | some n => .ok (some n)
    | none => .error ("invalid context length " ++ Mention.marked text)
  | _ => .ok none

/-- The form that options ask for. -/
def formOf (options : Options) : Except String Form := do
  let margins ← options.given.mapM marginOf?
  let margin := (margins.filterMap (·)).foldl max 0
  let has (keys : List String) : Bool := keys.any options.has
  match has ["u", "U", "unified"], has ["c", "C", "context"], has ["e"], has ["normal"] with
  | false, false, false, _ => return .plain
  | true, false, false, false => return .unified margin
  | false, true, false, false => return .context margin
  | false, false, true, false => return .script
  | _, _, _, _ => throw "conflicting output style options"

/-- How options ask for files to be compared. -/
def settingsOf (name : String) (arguments : List String) (options : Options) (form : Form) :
    Settings where
  form := form
  equality := ⟨options.has "i", if options.has "w" then .all else if options.has "b" then .amount
    else if options.has "Z" then .ending else .counts⟩
  ignoresEmptyLines := options.has "B"
  isBrief := options.has "q"
  tellsEqual := options.has "s"
  asText := options.has "a"
  missingAsEmpty := options.has "N"
  recursive := options.has "r"
  labels := options.values "L"
  name := name
  command := " ".intercalate (name :: (arguments.filter (!Options.isOperand ·)).map
    Mention.shellWord)

end Comparison

namespace Tool

/-- Refuse arguments with a complaint, and a hint that begins with the name of the program. -/
def refuseNamed (name complaint : String) : Run :=
  fail 2 [] [name ++ ": " ++ complaint, name ++ ": " ++ helpHint name]

/-- Write where the lines of two files differ. -/
def diff : Tool := fun arguments supply =>
  match Options.read Comparison.table (fun _ => false) (arguments.length + 1) arguments with
  | .error fault => refuseNamed supply.name fault.message
  | .ok options =>
    match Comparison.formOf options with
    | .error complaint => refuseNamed supply.name complaint
    | .ok form =>
      let settings := Comparison.settingsOf supply.name arguments options form
      match options.operands with
      | [left, right] =>
        let verdict := Comparison.comparePaths settings supply 64 false left right
        ⟨.exited verdict.code, verdict.written, some 0⟩
      | _ :: _ :: extra :: _ => refuseNamed supply.name (extraOperand extra)
      | operands =>
        refuseNamed supply.name ("missing operand after "
          ++ Mention.marked (operands.getLastD supply.name))

end Tool

end Runbook.Program

/-! ## First differences

The program that compares two files byte for byte. It writes where they begin to differ, or all
bytes that differ. -/

namespace Runbook.Program

namespace FirstDifference

/-- What is written about two files. -/
inductive Report where
  | first
  | every
  | nothing
deriving DecidableEq, Repr, Inhabited

/-- How files are compared: how much of each is left out, how much of them is looked at, what is
written, and whether bytes are shown as characters. -/
structure Settings where
  skipLeft : Nat
  skipRight : Nat
  most? : Option Nat
  report : Report
  showsBytes : Bool
deriving DecidableEq, Repr, Inhabited

/-- A byte in base 8, in three columns. -/
def octal (byte : UInt8) : String :=
  Tool.fillFront ' ' 3 (String.ofList (Nat.toDigits 8 byte.toNat))

/-- A byte as characters that can be seen. -/
def visible (byte : UInt8) : String :=
  let (front, low) := if 128 ≤ byte then ("M-", byte - 128) else ("", byte)
  front ++ (if low < 32 then String.ofList ['^', Char.ofNat (low.toNat + 64)]
    else if low = 127 then "^?" else String.ofList [Char.ofNat low.toNat])

/-- A text filled up with blanks behind it. -/
def fillBehind (width : Nat) (text : String) : String :=
  text ++ String.ofList (List.replicate (width - text.length) ' ')

/-- The bytes that differ, each with its place. -/
def differing (left right : List UInt8) : List (Nat × UInt8 × UInt8) :=
  ((left.zip right).zipIdx 1).filterMap fun ((a, b), place) =>
    if a = b then none else some (place, a, b)

/-- How many lines end in some bytes. -/
def lineEnds (bytes : List UInt8) : Nat := bytes.count 10

/-- The line about the first bytes that differ. -/
def firstLine (settings : Settings) (names : String × String) (content : List UInt8)
    (difference : Nat × UInt8 × UInt8) : String :=
  let (place, a, b) := difference
  let line := lineEnds (content.take (place - 1)) + 1
  names.1 ++ " " ++ names.2 ++ " differ: " ++ (if settings.showsBytes then "byte " else "char ")
    ++ Decimal.digitText place ++ ", line " ++ Decimal.digitText line
    ++ (if settings.showsBytes then
        " is " ++ octal a ++ " " ++ visible a ++ " " ++ octal b ++ " " ++ visible b
      else "")

/-- The line about bytes that differ, with their place in a column. -/
def eachLine (settings : Settings) (width : Nat) (difference : Nat × UInt8 × UInt8) : String :=
  let (place, a, b) := difference
  Tool.column width place ++ " " ++ octal a
    ++ (if settings.showsBytes then " " ++ fillBehind 4 (visible a) else "") ++ " " ++ octal b
    ++ (if settings.showsBytes then " " ++ visible b else "")

/-- The complaint that one file ends before the other one. -/
def endText (settings : Settings) (name : String) (content : List UInt8) : String :=
  let lines := lineEnds content
  "EOF on " ++ name
    ++ (if content.isEmpty then " which is empty"
      else
        " after byte " ++ Decimal.digitText content.length
          ++ (if settings.report = .every then ""
            else if content.getLast? = some 10 then ", line " ++ Decimal.digitText lines
            else ", in line " ++ Decimal.digitText (lines + 1)))

/-- Compare two files: their names, the lengths of those that are files on a disk, and their
contents. -/
def compare (settings : Settings) (program : String) (names : String × String)
    (sizes : List Nat) (left right : List UInt8) : Run :=
  let part (skipped : Nat) (content : List UInt8) : List UInt8 :=
    let rest := content.drop skipped
    (settings.most?.map rest.take).getD rest
  let (left, right) := (part settings.skipLeft left, part settings.skipRight right)
  let differences := differing left right
  let ending : Writings :=
    if left.length = right.length || settings.report = .nothing then []
    else if left.length < right.length then
      [Tool.told (program ++ ": " ++ endText settings names.1 left)]
    else [Tool.told (program ++ ": " ++ endText settings names.2 right)]
  let status : ExitStatus := .exited (if left = right then 0 else 1)
  let shown (text : String) : Channel × List UInt8 := Tool.shown (Text.Octets.toBytes (text ++ "\n"))
  match settings.report, differences with
  | .nothing, _ => ⟨status, [], some 0⟩
  | .first, difference :: _ => ⟨status, [shown (firstLine settings names left difference)], some 0⟩
  | .first, [] => ⟨status, ending, some 0⟩
  | .every, differences =>
    let longest := (sizes ++ settings.most?.toList).foldl min (2 ^ 63 - 1)
    let width := (Decimal.digitText longest).length
    ⟨status, differences.map (fun entry => shown (eachLine settings width entry)) ++ ending, some 0⟩

/-- Read the number of an option. -/
def number (option text : String) : Except String Nat :=
  match Tool.readSize? text with
  | some n => .ok n
  | none => .error ("invalid --" ++ option ++ " value " ++ Mention.marked text)

/-- Read how much of each file is left out: a number for both, or two with a colon between them. -/
def skipsOf (text : String) : Except String (Nat × Nat) := do
  let (front, back) := text.toList.span (· != ':')
  match Tool.readSize? (String.ofList front) with
  | none => throw ("invalid --ignore-initial value " ++ Mention.marked text)
  | some left =>
    if back.isEmpty then return (left, left)
    else return (left, ← number "ignore-initial" (String.ofList back.tail))

/-- How options and operands ask for files to be compared, or a complaint about a number. -/
def settingsOf (options : Options) (operands : List String) : Except String Settings := do
  let skips ← (options.values "i").mapM skipsOf
  let limits ← (options.values "n").mapM (number "bytes")
  let own ← (operands.take 2).mapM (number "ignore-initial")
  let report : Report := if options.has "s" then .nothing else if options.has "l" then .every
    else .first
  return ⟨(skips.map (·.1)).foldl max (own.getD 0 0), (skips.map (·.2)).foldl max (own.getD 1 0),
    limits.min?, report, options.has "b"⟩

end FirstDifference

namespace Tool

/-- Compare two files byte for byte. -/
def cmp : Tool := fun arguments supply =>
  let table : OptionTable :=
    .ofText "b|print-bytes i|ignore-initial: l|verbose n|bytes: s|quiet s|silent"
  match Options.read table (fun _ => false) (arguments.length + 1) arguments with
  | .error fault => refuseNamed supply.name fault.message
  | .ok options =>
    match options.operands with
    | [] => refuseNamed supply.name ("missing operand after " ++ Mention.marked supply.name)
    | _ :: _ :: _ :: _ :: extra :: _ => refuseNamed supply.name (extraOperand extra)
    | left :: others =>
      let right := others.headD "-"
      if options.has "l" && options.has "s" then
        refuseNamed supply.name "options -l and -s are incompatible"
      else
        match FirstDifference.settingsOf options (others.drop 1) with
        | .error complaint => refuseNamed supply.name complaint
        | .ok settings =>
          let subjects := [left, right].map fun path =>
            (path, Comparison.Subject.at supply path)
          let isMissing : String × Comparison.Subject → Bool := fun (_, subject) =>
            subject matches .missing _
          let isDirectory : String × Comparison.Subject → Bool := fun (_, subject) =>
            subject == .directory
          let isSame := (left == right || supply.around.isSame left right)
            && settings.skipLeft == settings.skipRight
          let refused? := (subjects.find? isMissing).orElse fun () =>
            if isSame then none else subjects.find? isDirectory
          match refused? with
          | some (path, subject) =>
            let cause := match subject with
              | .missing cause => cause
              | _ => .isADirectory
            fail 2 [] (if settings.report = .nothing then []
              else [supply.name ++ ": " ++ path ++ ": " ++ reason cause])
          | none =>
            if isSame then succeed []
            else
              let sizes := subjects.filterMap fun (path, subject) =>
                match subject with
                | .text content =>
                  if path = "-" && !supply.input.ofFile then none else some content.length
                | _ => none
              let contents := subjects.map fun (_, subject) => subject.content
              FirstDifference.compare settings supply.name (left, right)
                (sizes.zip [settings.skipLeft, settings.skipRight] |>.map fun (n, k) => n - k)
                (contents.headD []) (contents.getLastD [])

end Tool

end Runbook.Program
