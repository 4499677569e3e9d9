import Runbook.Program.Date
import Runbook.Program.Listing.Style
import Runbook.Program.Mode
import Runbook.Program.PathName
import Runbook.Program.SortKey

/-!
# Listings

The program that shows the names in directories, and the tables that it makes of them.
-/

/-! ## Tables of names

Entries in order, and the rows in which they are shown. -/

namespace Runbook.Program.Listing

/-- An entry to show. -/
structure Item where
  name : String
  place : FilePath
  entry : FileEntry
  /-- The target of a link is what is shown. -/
  isFollowed : Bool
deriving Inhabited

namespace Item

/-- Whether what an item shows is a directory. -/
def isDirectory (item : Item) : Bool := item.entry == .directory

/-- The size of an item in bytes. -/
def size (item : Item) : Nat :=
  match item.entry with
  | .file content _ => content.length
  | .directory => 4096
  | .device => 0
  | .link target => target.utf8ByteSize

/-- The size that an item takes on its disk, in bytes. -/
def blocks (item : Item) : Nat :=
  match item.entry with
  | .link _ => 0
  | _ => (item.size + 4095) / 4096 * 4096

/-- How many names an item has: for a directory, those in its own directories count. -/
def links (tree : FileTree) (item : Item) : Nat :=
  if item.isDirectory then
    (tree.filter fun (other, entry) => entry == .directory && !other.isEmpty
      && other.dropLast == item.place).length + 2
  else 1

/-- The mark that tells the kind of an item. -/
def mark (marks : Marks) (item : Item) : String :=
  match marks, item.entry with
  | .none, _ => ""
  | _, .directory => "/"
  | .slash, _ => ""
  | _, .link _ => "@"
  | .full, entry => if entry.isExecutable then "*" else ""
  | .kind, _ => ""

/-- The letter of the kind of an item. -/
def kindLetter (item : Item) : Char :=
  match item.entry with
  | .file _ _ => '-'
  | .directory => 'd'
  | .device => 'c'
  | .link _ => 'l'

/-- The mode of an item. -/
def mode (item : Item) : Nat := if item.place = ["tmp"] then 0o1777 else Mode.ofEntry item.entry

end Item

/-! ## Order -/

/-- The part of a name from its last dot on. -/
def nameEnding (name : String) : String :=
  let back := name.toList.reverse.takeWhile (· != '.')
  if back.length = name.length then "" else String.ofList ('.' :: back.reverse)

/-- The place of an entry among those that were written: later ones have higher numbers. -/
def rank (tree : FileTree) (item : Item) : Nat :=
  (tree.findIdx? (·.1 == item.place)).elim 0 (· + 1)

/-- Whether an item stands in front of another one. -/
def Style.before (style : Style) (tree : FileTree) (left right : Item) : Bool :=
  let byName := compareOfLessAndEq left.name right.name
  let order := match style.order with
    | .name | .none => byName
    | .size => (compare right.size left.size).then byName
    | .time => (compare (rank tree right) (rank tree left)).then byName
    | .ending =>
      (compareOfLessAndEq (nameEnding left.name) (nameEnding right.name)).then byName
    | .version =>
      (SortKey.compareNames (Text.Octets.toBytes left.name) (Text.Octets.toBytes right.name)).then
        byName
    | .width => (compare left.name.length right.name.length).then byName
  order != .gt

/-- Items in the order of a style. -/
def Style.sorted (style : Style) (tree : FileTree) (items : List Item) : List Item :=
  let ordered := if style.order = .none then items
    else
      let front := items.mergeSort (style.before tree)
      if style.isReversed then front.reverse else front
  if style.directoriesFirst then
    let (directories, others) := ordered.partition Item.isDirectory
    directories ++ others
  else ordered

/-! ## Rows -/

/-- A name as it is shown, with a mark behind it. -/
def Style.label (style : Style) (item : Item) : String :=
  style.quoting.text item.name ++ item.mark style.marks

/-- Texts filled up in front to the same width. -/
def alignedFront (texts : List String) : List String :=
  let width := (texts.map String.length).foldl max 0
  texts.map (Tool.fillFront ' ' width)

/-- Texts filled up behind to the same width. -/
def alignedBehind (texts : List String) : List String :=
  let width := (texts.map String.length).foldl max 0
  texts.map fun text => text ++ String.ofList (List.replicate (width - text.length) ' ')

/-- The columns in front of all names: numbers and sizes on the disk. -/
def Style.leading (style : Style) (tree : FileTree) (items : List Item) : List (List String) :=
  let blocks (item : Item) : String := match style.scale with
    | .short base => Scale.text (.short base) item.blocks
    | _ => Decimal.digitText (item.blocks / 1024)
  (if style.showsNumbers then [alignedFront (items.map fun item =>
      Decimal.digitText (1000000 + rank tree item))] else [])
    ++ (if style.showsBlocks then [alignedFront (items.map blocks)] else [])

/-- A point in time as it is shown. -/
def Style.time (style : Style) : String :=
  Date.text (.ofMoment Date.present ⟨"UTC", 0⟩) (style.timeForm.toOption.getD "")

/-- The name of an item in a row of its own, with the target of a link. -/
def Style.longLabel (style : Style) (item : Item) : String :=
  match item.entry with
  | .link target => style.quoting.text item.name ++ " -> " ++ style.quoting.text target
  | _ => style.label item

/-- Columns as rows, with blanks between the parts of a row. -/
def rowsOf (count : Nat) (columns : List (List String)) : List String :=
  (List.range count).map fun index =>
    " ".intercalate (columns.map fun column => column.getD index "")

/-- Rows with all that is known about items. -/
def Style.longRows (style : Style) (tree : FileTree) (items : List Item) : List String :=
  let owner := if style.numericOwners then "0" else "root"
  let owners (isShown : Bool) : List (List String) :=
    if isShown then [items.map fun _ => owner] else []
  let size (item : Item) : String :=
    if item.entry = .device then "1, 3" else style.scale.text item.size
  rowsOf items.length (style.leading tree items
    ++ [items.map (fun item => String.ofList [item.kindLetter] ++ Mode.letterText item.mode),
      alignedFront (items.map fun item => Decimal.digitText (item.links tree))]
    ++ owners style.showsOwner ++ owners style.showsGroup
    ++ [alignedFront (items.map size), items.map fun _ => style.time, items.map style.longLabel])

/-- Rows with the names of items, and what stands in front of them. -/
def Style.plainRows (style : Style) (tree : FileTree) (items : List Item) : List String :=
  rowsOf items.length (style.leading tree items ++ [items.map style.label])

/-! ## Columns -/

/-- Blanks from one place in a line to another one, with tabs where they fit. -/
def indent : (fuel : Nat) → (place goal : Nat) → List Char
  | 0, _, _ => []
  | fuel + 1, place, goal =>
    if goal ≤ place then []
    else if (place + 1) / 8 < goal / 8 then '\t' :: indent fuel (place + 8 - place % 8) goal
    else ' ' :: indent fuel (place + 1) goal

/-- The number of the column in which an item stands. -/
def columnOf (across : Bool) (count columns index : Nat) : Nat :=
  if across then index % columns else index / ((count + columns - 1) / columns)

/-- The widths of columns. All but the last one have two blanks behind them, and none is narrower
than a single character with these blanks. -/
def columnWidths (across : Bool) (columns : Nat) (lengths : List Nat) : List Nat :=
  (List.range columns).map fun column =>
    ((lengths.zipIdx.filter fun (_, index) =>
      columnOf across lengths.length columns index == column).map fun (length, _) =>
        length + (if column + 1 = columns then 0 else 2)).foldl max 3

/-- The number of columns: as many as have their place in a line. -/
def columnCount (across : Bool) (lineWidth : Nat) (lengths : List Nat) : Nat :=
  let most := min lengths.length (max 1 ((lineWidth + 2) / 3))
  (((List.range most).map (· + 1)).filter fun columns =>
    let widths := columnWidths across columns lengths
    widths.all (· == 3) || widths.sum < lineWidth).getLast?.getD 1

/-- A line of texts that begin at some places. -/
def placeTexts : (place : Nat) → List (Nat × String) → List Char
  | _, [] => []
  | place, (begin_, text) :: rest =>
    indent begin_ place begin_ ++ text.toList ++ placeTexts (begin_ + text.length) rest

/-- Texts in columns. -/
def inColumns (across : Bool) (lineWidth : Nat) (texts : List String) : List String :=
  let lengths := texts.map String.length
  let columns := if lineWidth = 0 then texts.length else columnCount across lineWidth lengths
  let widths := columnWidths across columns lengths
  let rows := (texts.length + columns - 1) / max 1 columns
  (List.range rows).map fun row =>
    let cells := (List.range columns).filterMap fun column =>
      let index := if across then row * columns + column else column * rows + row
      (texts[index]?).map ((widths.take column).sum, ·)
    String.ofList (placeTexts 0 cells)

/-- Texts in lines, with commas between them. -/
def withCommas (lineWidth : Nat) : (place : Nat) → List String → String
  | _, [] => ""
  | place, text :: rest =>
    let length := text.length + (if rest.isEmpty then 0 else 2)
    let fits := lineWidth = 0 || place + length < lineWidth
    if place = 0 then text ++ withCommas lineWidth text.length rest
    else if fits then ", " ++ text ++ withCommas lineWidth (place + 2 + text.length) rest
    else ",\n" ++ text ++ withCommas lineWidth text.length rest

/-- The text of items. -/
def Style.text (style : Style) (tree : FileTree) (items : List Item) : String :=
  let lines (rows : List String) : String := String.join (rows.map (· ++ style.ending))
  match style.shape with
  | .long => lines (style.longRows tree items)
  | .single => lines (style.plainRows tree items)
  | .across => lines (inColumns true style.lineWidth (style.plainRows tree items))
  | .columns => lines (inColumns false style.lineWidth (style.plainRows tree items))
  | .commas =>
    if items.isEmpty then ""
    else withCommas style.lineWidth 0 (style.plainRows tree items) ++ style.ending

/-- The line in front of the items of a directory, if sizes on the disk are shown. -/
def Style.totalLine (style : Style) (items : List Item) : String :=
  if style.shape = .long || style.showsBlocks then
    let total := (items.map Item.blocks).sum
    let text := match style.scale with
      | .short base => Scale.text (.short base) total
      | _ => Decimal.digitText (total / 1024)
    "total " ++ text ++ style.ending
  else ""

end Runbook.Program.Listing

/-! ## Listings

The program that shows the names in directories. -/

namespace Runbook.Program

namespace Listing

/-- Whether a name in a directory is shown. -/
def Style.shows (style : Style) (name : String) : Bool :=
  let covered (patterns : List Pattern) : Bool :=
    patterns.any fun pattern => Shell.PatternPart.covers pattern name.toList
  !covered style.ignored
    && (style.hidden != .none || !(name.startsWith "." || covered style.shy))

/-- What stands at a place, with a link followed if the style says so. -/
def Style.entryAt (style : Style) (tree : FileTree) (name : String) (place : FilePath) :
    Option Item := do
  let entry ← tree.entry? place
  match entry with
  | .link _ =>
    if !style.followsLinks then return ⟨name, place, entry, false⟩
    else
      match tree.find [] (Tool.pathText place) with
      | .ok (place, entry) => return ⟨name, place, entry, true⟩
      | .error _ => return ⟨name, place, entry, false⟩
  | entry => return ⟨name, place, entry, false⟩

/-- The items of a directory. -/
def Style.itemsOf (style : Style) (tree : FileTree) (place : FilePath) : List Item :=
  let names := ((tree.list [] (Tool.pathText place)).getD []).filter style.shows
  let dots : List (String × FilePath) :=
    if style.hidden = .all then [(".", place), ("..", place.dropLast)] else []
  let inner := names.map fun name => (name, place ++ [name])
  (dots ++ inner).filterMap fun (name, place) => style.entryAt tree name place

/-- The listing of a directory, and of those in it if the style says so. Each has its title. -/
def Style.blocks (style : Style) (tree : FileTree) :
    (fuel : Nat) → (title : String) → FilePath → List (String × String)
  | 0, _, _ => []
  | fuel + 1, title, place =>
    let items := style.sorted tree (style.itemsOf tree place)
    let text := style.totalLine items ++ style.text tree items
    let inner := if !style.isRecursive then []
      else items.filter fun item => item.isDirectory && item.name != "." && item.name != ".."
    let front := if title.endsWith "/" then title else title ++ "/"
    (title, text) :: inner.flatMap fun item =>
      style.blocks tree fuel (front ++ item.name) item.place

/-- What a path stands for: a link stays one if the style tells of links. -/
def Style.found (style : Style) (around : Condition.Surroundings) (path : String) :
    Except FileError Item :=
  let stays := !style.followsLinks
    && (style.asEntries || style.marks = .full || style.shape = .long)
  let whole := around.tree.find around.directory path
  let own := around.tree.findOwn around.directory path
  let chosen := if style.followsLinks then whole
    else if stays then own
    else
      match whole with
      | .error .notFound => own
      | whole => whole
  chosen.map fun (place, entry) => ⟨path, place, entry, false⟩

end Listing

/-- List files in a style, from which options depart. -/
def Tool.listBy (usual : Listing.Style) : Tool := fun arguments supply =>
  match Options.read Listing.table (fun _ => false) (arguments.length + 1) arguments with
  | .error fault => { refuse supply.name fault.message with status := .exited 2 }
  | .ok options =>
    match options.given.foldlM (Listing.give supply.name) usual with
    | .error (code, complaints) => fail code [] complaints
    | .ok style =>
      let (around, tree) := (supply.around, supply.around.tree)
      let paths := if options.operands.isEmpty then ["."] else options.operands
      let found := paths.map fun path => (path, style.found around path)
      let missing := found.filterMap fun (path, item) =>
        match item with
        | .ok _ => none
        | .error cause =>
          some (supply.name ++ ": cannot access " ++ Mention.shellQuoted path ++ ": "
            ++ reason cause)
      let items := style.sorted tree (found.filterMap fun (_, item) => item.toOption)
      let (directories, files) := items.partition fun item =>
        !style.asEntries && item.isDirectory
      let isTitled := style.isRecursive || 1 < paths.length
      let listed := directories.flatMap fun item => style.blocks tree 64 item.name item.place
      let texts := listed.map fun (title, text) =>
        if isTitled then style.quoting.text title ++ ":\n" ++ text else text
      let blocks := (if files.isEmpty then [] else [style.text tree files]) ++ texts
      match style.shape, style.timeForm with
      | .long, .error complaints => fail 2 [] complaints
      | _, _ => (conclude 2 (Text.Octets.toBytes ("\n".intercalate blocks)) missing).outputLast

/-- List files. -/
def Tool.list : Tool := listBy Listing.usual

/-- List files in columns. -/
def Tool.listColumns : Tool :=
  listBy { Listing.usual with shape := .columns, quoting := .escaped }

/-- List files with all that is known about them. -/
def Tool.listLong : Tool := listBy { Listing.usual with shape := .long, quoting := .escaped }

end Runbook.Program
