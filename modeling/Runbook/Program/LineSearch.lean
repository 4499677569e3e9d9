import Runbook.Program.Lines
import Runbook.Regex.Reader

/-!
# Searches for lines

Lines that regular expressions match, with the lines around them, or only the texts that are
matched.
-/

namespace Runbook.Program

namespace LineSearch

/-- The options of the program. -/
def table : String :=
  "E|extended-regexp F|fixed-strings G|basic-regexp P|perl-regexp e|regexp: f|file: "
    ++ "i|ignore-case y |no-ignore-case w|word-regexp x|line-regexp z|null-data s|no-messages "
    ++ "v|invert-match m|max-count: b|byte-offset n|line-number H|with-filename h|no-filename "
    ++ "|label: o|only-matching q|quiet |silent a|text I |binary-files: d|directories: D|devices: "
    ++ "r|recursive R|dereference-recursive |include: |exclude: |exclude-dir: |exclude-from: "
    ++ "L|files-without-match l|files-with-matches c|count T|initial-tab Z|null "
    ++ "B|before-context: A|after-context: C|context: |color? |colour? U|binary "
    ++ "u|unix-byte-offsets |line-buffered |group-separator: |no-group-separator N: V|version"

/-- How the program is used. -/
def usage : List String :=
  ["Usage: grep [OPTION]... PATTERNS [FILE]...",
    "Try 'grep --help' for more information."]

/-- The arguments with a number behind a dash in the form of an option. -/
def withNumbers (arguments : List String) : List String :=
  let (options, rest) := arguments.span (· != "--")
  options.map (fun argument => match argument.toList with
    | '-' :: c :: digits =>
      if (c :: digits).all Char.isDigit then String.ofList ('-' :: 'N' :: c :: digits) else argument
    | _ => argument) ++ rest

/-- What is wrong with a search. -/
inductive Fault where
  | options (fault : OptionFault)
  | noPattern
  | pattern (fault : Regex.Fault)
  | unreadable (path : String) (cause : FileError)
  | contextLength (text : String)
  | count
  | binaryKind
deriving DecidableEq, Repr, Inhabited

/-- The lines of a complaint. -/
def Fault.lines (name : String) : Fault → List String
  | .options fault => (name ++ ": " ++ fault.message) :: usage
  | .noPattern => usage
  | .pattern fault => [name ++ ": " ++ fault.message]
  | .unreadable path cause => [name ++ ": " ++ path ++ ": " ++ Tool.reason cause]
  | .contextLength text => [name ++ ": " ++ text ++ ": invalid context length argument"]
  | .count => [name ++ ": invalid max count"]
  | .binaryKind => [name ++ ": unknown binary-files type"]

/-! ## Patterns -/

/-- The text between two places as an expression that matches only that text. -/
def literal (ignoreCase : Bool) (text : List Char) : Regex :=
  text.foldr (fun c regex =>
    let set := CharSet.single c
    .seq (.one (if ignoreCase then set.ignoringCase else set)) regex) .empty

/-- A pattern that stands for classes of characters by letters behind backslashes, in the form
that extended expressions have. -/
def spellClasses : List Char → List Char
  | '\\' :: 'd' :: rest => "[0-9]".toList ++ spellClasses rest
  | '\\' :: 'D' :: rest => "[^0-9]".toList ++ spellClasses rest
  | '\\' :: c :: rest => '\\' :: c :: spellClasses rest
  | '(' :: '?' :: ':' :: rest => '(' :: spellClasses rest
  | c :: rest => c :: spellClasses rest
  | [] => []

/-- Read one pattern in the way that options say. -/
def readPattern (options : Options) (text : List Char) : Except Fault Regex :=
  let ignoreCase := options.last? ["i", "y", "no-ignore-case"] |>.any (· != "no-ignore-case")
  let kind := (options.last? ["E", "F", "G", "P"]).getD "G"
  let regex : Except Regex.Fault Regex :=
    if kind = "F" then .ok (literal ignoreCase text)
    else if kind = "P" then Regex.read ⟨true, true, ignoreCase, true, true⟩ (spellClasses text)
    else Regex.read ⟨kind == "E", true, ignoreCase, true, true⟩ text
  match regex with
  | .error fault => .error (.pattern fault)
  | .ok regex =>
    .ok (if options.has "x" then .seq (.edge .lineStart) (.seq regex (.edge .lineEnd))
      else if options.has "w" then .seq (.edge .noWordBefore) (.seq regex (.edge .noWordBehind))
      else regex)

/-- One expression for all patterns. Without patterns nothing matches. -/
def readPatterns (options : Options) (texts : List (List Char)) : Except Fault (Option Regex) := do
  let regexes ← texts.mapM (readPattern options)
  return match regexes with
    | [] => none
    | first :: rest => some (rest.foldl .either first)

/-- The patterns in a text, one in each line. -/
def patternLines (text : List Char) : List (List Char) := text.splitOn '\n'

/-- Operators that stand where an extended expression begins, in the order in which they come. -/
def leadingOperators : (opens : Bool) → List Char → List Char
  | _, [] => []
  | _, '\\' :: _ :: rest => leadingOperators false rest
  | opens, c :: rest =>
    if c = '(' ∨ c = '|' then leadingOperators true rest
    else if opens && "*+?".toList.contains c then c :: leadingOperators true rest
    else if c = '[' then leadingOperators false (rest.drop 1 |>.dropWhile (· != ']'))
    else leadingOperators false rest
termination_by _ chars => chars.length
decreasing_by
  all_goals simp_wf
  all_goals try omega
  have := (List.dropWhile_sublist (l := rest.drop 1) (p := (· != ']'))).length_le
  simp at this
  omega

/-! ## Selected lines -/

/-- A line of a file with its number and its place. -/
structure Row where
  number : Nat
  offset : Nat
  text : List UInt8
  isSelected : Bool
deriving Repr, Inhabited

/-- The lines of a file as rows, of which a test selects some. -/
def rowsOf (selects : List UInt8 → Bool) : (number offset : Nat) → List (List UInt8) → List Row
  | _, _, [] => []
  | number, offset, line :: lines =>
    ⟨number, offset, line, selects line⟩
      :: rowsOf selects (number + 1) (offset + line.length + 1) lines

/-- The rows up to a number of selected ones, and those behind them, of which none counts as
selected. -/
def limit : (most : Nat) → List Row → List Row × List Row
  | _, [] => ([], [])
  | 0, rows => ([], rows.map ({ · with isSelected := false }))
  | most + 1, row :: rows =>
    if row.isSelected then
      let (front, behind) := limit most rows
      (row :: front, behind)
    else
      let (front, behind) := limit (most + 1) rows
      (row :: front, behind)

/-- How lines are written. -/
structure Style where
  named : Bool
  numbered : Bool
  placed : Bool
  /-- The byte behind a line, and the byte behind a name, if that is not the usual one. -/
  mark : UInt8
  nameMark? : Option UInt8
  tabbed : Bool

/-- What stands in front of a line. -/
def Style.front (style : Style) (name : String) (sign : UInt8) (number offset : Nat) :
    List UInt8 :=
  let count (shown : Bool) (n : Nat) : List UInt8 :=
    if shown then
      let text := Decimal.digitText n
      Text.Octets.toBytes (if style.tabbed then Tool.fillFront ' ' 4 text else text) ++ [sign]
    else []
  let title := if style.named then Text.Octets.toBytes name ++ [style.nameMark?.getD sign] else []
  title ++ count style.numbered number ++ count style.placed offset

/-- A whole line. -/
def Style.row (style : Style) (name : String) (row : Row) : List UInt8 :=
  let sign : UInt8 := if row.isSelected then 58 else 45
  style.front name sign row.number row.offset ++ row.text ++ [style.mark]

/-- The texts in a line that an expression matches, each in a line of its own. -/
def Style.parts (style : Style) (name : String) (regex : Regex) (row : Row) : List UInt8 :=
  ((regex.matchesIn false (Text.Octets.chars row.text)).filter (!·.chars.isEmpty)).flatMap
    fun found =>
      style.front name 58 row.number (row.offset + found.first)
        ++ found.chars.map Text.Octets.byte ++ [style.mark]

/-- The rows that are written, and whether a gap is in front of each: those that are selected, and
some before and behind them. -/
def shown (before behind : Nat) (rows : List Row) : List (Bool × Row) :=
  let table := rows.toArray
  let near (index : Nat) : Bool :=
    (List.range (before + behind + 1)).any fun n =>
      -- the row that is `n - before` behind this one, seen from the first that may count
      index + before ≥ n && (table[index + before - n]?).any (·.isSelected)
  let kept := rows.zipIdx.filter fun (row, index) =>
    row.isSelected || (before + behind != 0 && near index)
  (kept.zip (none :: kept.map some)).map fun ((row, index), last?) =>
    (match last? with
      | some (_, last) => last + 1 != index
      | none => false, row)

/-- What is done with one file. -/
structure Job where
  options : Options
  regex? : Option Regex
  style : Style
  most : Option Nat
  before : Nat
  behind : Nat

/-- Whether a line is selected. -/
def Job.selects (job : Job) (line : List UInt8) : Bool :=
  (job.regex?.any (·.occursIn (Text.Octets.chars line))) != job.options.has "v"

/-- What a search makes of one file: whether it selects lines, what it writes, what it complains
about, and whether it has come to the end of the file. -/
structure Outcome where
  found : Bool
  bytes : List UInt8
  complaints : List String
  atEnd : Bool

/-- The line between groups of lines that are far from each other. -/
def Job.gap (job : Job) : List UInt8 :=
  if job.options.has "no-group-separator" then []
  else
    Text.Octets.toBytes ((job.options.value? "group-separator").getD "--") ++ [10]

/-- Search one file. A file with zeros in it is not written. -/
def Job.search (job : Job) (name : String) (bytes : List UInt8) : Outcome :=
  let options := job.options
  let mark : UInt8 := if options.has "z" then 0 else 10
  let kind := (options.last? ["a", "I", "binary-files"]).map fun key =>
    if key = "a" then "text" else if key = "I" then "without-match"
    else (options.value? "binary-files").getD "binary"
  let isBinary := bytes.contains 0 && kind != some "text" && !options.has "z"
  let all := rowsOf job.selects 1 0 (Tool.bareRecords mark bytes)
  let (rows, rest) := match job.most with
    | some most => limit most all
    | none => (all, [])
  let count := rows.countP (·.isSelected)
  let found := 0 < count && !(isBinary && kind == some "without-match")
  let stops := options.has "q" || options.has "silent" || options.has "l" || options.has "L"
  let atEnd := !(found && stops) && !(job.most.any (count = ·))
  let title := Text.Octets.toBytes name ++ [job.style.nameMark?.getD 10]
  if options.has "q" || options.has "silent" then ⟨found, [], [], atEnd⟩
  else if options.has "L" then ⟨found, if found then [] else title, [], atEnd⟩
  else if options.has "l" then ⟨found, if found then title else [], [], atEnd⟩
  else if options.has "c" then
    ⟨found, job.style.front name 58 0 0 ++ Text.Octets.toBytes (Decimal.digitText
      (if found then count else 0)) ++ [10], [], atEnd⟩
  else if isBinary then
    ⟨found, [], if found then [name ++ ": binary file matches"] else [], atEnd⟩
  else if options.has "o" then
    ⟨found, if options.has "v" then []
      else (rows.filter (·.isSelected)).flatMap fun row =>
        job.regex?.elim [] fun regex => job.style.parts name regex row, [], atEnd⟩
  else
    let bytes := (shown job.before job.behind (rows ++ rest.take job.behind)).flatMap
      fun (gap, row) =>
        (if gap && job.before + job.behind != 0 then job.gap else []) ++ job.style.row name row
    ⟨found, bytes, [], atEnd⟩

/-! ## Files -/

/-- The files below a directory, with their paths in text form. -/
def below (tree : FileTree) : (fuel : Nat) → (title : String) → FilePath → List String
  | 0, _, _ => []
  | fuel + 1, title, place =>
    let names := (tree.filterMap fun (other, entry) =>
      if other.dropLast = place then other.getLast?.map (·, entry) else none)
    let front := if title = "" ∨ title.endsWith "/" then title else title ++ "/"
    names.flatMap fun (name, entry) =>
      match entry with
      | .directory => below tree fuel (front ++ name) (place ++ [name])
      | .file _ _ => [front ++ name]
      | _ => []

/-- A file to search: its path, and whether it was named by an argument. -/
abbrev Target := String × Bool

/-- The files that are searched, with directories in the place of which those below them stand. -/
def targets (options : Options) (around : Condition.Surroundings) (paths : List String) :
    List Target :=
  let recursive := options.has "r" || options.has "R" || options.value? "d" == some "recurse"
  if !recursive then (if paths.isEmpty then ["-"] else paths).map (·, true)
  else
    (if paths.isEmpty then [""] else paths).flatMap fun path =>
      match around.tree.find around.directory (if path = "" then "." else path) with
      | .ok (place, .directory) => (below around.tree 64 path place).map (·, false)
      | _ => [(path, true)]

/-- How many lines stand before or behind those that are selected. -/
def context (options : Options) (key : String) : Except Fault Nat :=
  let text? := match options.last? [key, "C", "N"] with
    | some given => if (options.value? key).isSome then options.value? key else options.value? given
    | none => none
  match text? with
  | none => .ok 0
  | some text =>
    match Decimal.readNatural (2 ^ 62) text.toList with
    | some n => .ok n
    | none =>
      if !text.toList.isEmpty && text.toList.all Char.isDigit then .ok (2 ^ 62)
      else .error (.contextLength text)

/-- How many lines are selected at most. -/
def mostOf (options : Options) : Except Fault (Option Nat) :=
  match options.value? "m" with
  | none => .ok none
  | some text =>
    match text.toList with
    | '-' :: digits =>
      if (Decimal.readNatural (2 ^ 62) digits).isSome then .ok none else .error .count
    | digits =>
      match Decimal.readNatural (2 ^ 62) digits with
      | some n => .ok (some n)
      | none => .error .count

/-- The texts of all patterns, and the arguments that are files. -/
def patternTexts (options : Options) (supply : Supply) :
    Except Fault (List (List Char) × List String) := do
  let given ← (options.given.filterMap fun (key, value?) =>
    if key == "e" || key == "f" then value?.map (key, ·) else none).mapM fun (key, text) =>
      if key = "e" then .ok (patternLines text.toList)
      else
        match Tool.supplied supply text with
        | .ok bytes => .ok ((Tool.bareLines bytes).map Text.Octets.chars)
        | .error cause => .error (Fault.unreadable text cause)
  if options.has "e" || options.has "f" then return (given.flatten, options.operands)
  else
    match options.operands with
    | [] => throw .noPattern
    | text :: files => return (patternLines text.toList, files)

/-- Carry out a search. -/
def run (options : Options) (supply : Supply) : Except Fault Run := do
  let before ← context options "B"
  let behind ← context options "A"
  let most ← mostOf options
  match options.value? "binary-files" with
  | some kind =>
    if !(["binary", "text", "without-match"].contains kind) then throw .binaryKind
  | none => pure ()
  let (texts, files) ← patternTexts options supply
  let regex? ← readPatterns options texts
  let warnings := if (options.last? ["E", "F", "G", "P"]) != some "E" then []
    else texts.flatMap fun text => (leadingOperators true text).map fun c =>
      "warning: " ++ String.ofList [c] ++ " at start of expression"
  let all := targets options supply.around files
  let recursive := all.any (!·.2)
  let named := match options.last? ["H", "h"] with
    | some key => key == "H"
    | none => recursive || 1 < files.length
  let style : Style :=
    { named := named
      numbered := options.has "n" && !options.has "c"
      placed := options.has "b" && !options.has "c"
      mark := if options.has "z" then 0 else 10
      nameMark? := if options.has "Z" then some 0 else none
      tabbed := options.has "T" }
  let job : Job := ⟨options, regex?, style, most, before, behind⟩
  let quiet := options.has "q" || options.has "silent"
  let outcomes := all.map fun (path, _) =>
    let name := if path = "-" then (options.value? "label").getD "(standard input)" else path
    match Tool.supplied supply path with
    | .ok bytes => (false, path == "-", job.search name bytes)
    | .error cause =>
      let skipped := decide (cause = FileError.isADirectory) && options.value? "d" == some "skip"
      let why := if skipped || options.has "s" then []
        else [path ++ ": " ++ Tool.reason cause]
      (!skipped, false, ⟨false, [], why, true⟩)
  let found := outcomes.any fun (_, _, outcome) => outcome.found
  let failed := outcomes.any (·.1)
  let code : UInt8 := if found && (quiet || !failed) then 0 else if failed then 2 else 1
  let endless := supply.input.endless && outcomes.any fun (_, ofInput, outcome) =>
    ofInput && outcome.atEnd
  let tell (text : String) : Channel × List UInt8 := Tool.told (supply.name ++ ": " ++ text)
  return {
    status := .exited code
    written := warnings.map tell ++ outcomes.flatMap fun (_, _, outcome) =>
      Tool.shown outcome.bytes :: outcome.complaints.map tell
    milliseconds := if endless then none else some 0 }

end LineSearch

/-- Write the lines that expressions match. -/
def Tool.grep (kind : Option String) : Tool := fun arguments supply =>
  let supply := if kind.isSome then { supply with name := "grep" } else supply
  let arguments := LineSearch.withNumbers (kind.toList ++ arguments)
  let result := do
    let options ← (Options.read (.ofText LineSearch.table) (fun _ => false) (arguments.length + 1)
      arguments).mapError LineSearch.Fault.options
    LineSearch.run options supply
  match result with
  | .ok run => run
  | .error fault => fail 2 [] (fault.lines supply.name)

end Runbook.Program
