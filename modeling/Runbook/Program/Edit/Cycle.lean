import Runbook.Program.Edit.Script
import Runbook.Program.Lines

/-!
# Edits of lines

A cycle takes a line into the work space, carries out the commands that select it, and writes the
work space. A second space keeps what commands put there.
-/

namespace Runbook.Program.Edit

/-- A line that is read. -/
structure InputLine where
  text : List UInt8
  /-- Whether the byte that ends lines stands behind it. -/
  isEnded : Bool
  file : String
  isFirst : Bool
  /-- Whether no line comes behind it that counts. -/
  isLast : Bool
deriving DecidableEq, Repr, Inhabited

/-- The lines of a file. -/
def linesOf (mark : UInt8) (file : String) (bytes : List UInt8) : List InputLine :=
  (Tool.splitRecords mark bytes).zipIdx.map fun (record, index) =>
    let isEnded := record.getLast? == some mark
    ⟨if isEnded then record.dropLast else record, isEnded, file, index == 0, false⟩

/-- Lines of which the last one is marked as such. -/
def markLast : List InputLine → List InputLine
  | [] => []
  | [line] => [{ line with isLast := true }]
  | line :: lines => line :: markLast lines

/-- What was written to a place, the last bytes first. -/
structure Written where
  chunks : List (List UInt8)
  /-- Whether the last line has no end yet. -/
  isOpen : Bool
deriving DecidableEq, Repr, Inhabited

namespace Written

/-- Nothing. -/
def none : Written := ⟨[], false⟩

/-- All bytes. -/
def bytes (written : Written) : List UInt8 := written.chunks.reverse.flatten

/-- End the last line if it has no end. -/
def close (mark : UInt8) (written : Written) : Written :=
  if written.isOpen then ⟨[mark] :: written.chunks, false⟩ else written

/-- Add bytes. -/
def add (mark : UInt8) (more : List UInt8) (written : Written) : Written :=
  let closed := written.close mark
  { closed with chunks := more :: closed.chunks }

/-- Add a line, which may have no end. -/
def addLine (mark : UInt8) (text : List UInt8) (isEnded : Bool) (written : Written) : Written :=
  let added := written.add mark (if isEnded then text ++ [mark] else text)
  { added with isOpen := !isEnded }

end Written

/-- Where a command is in its range of lines. -/
inductive RangeState where
  | idle
  | inside (until? : Option Nat)
  /-- A range that begins with a number does not begin again. -/
  | over
deriving DecidableEq, Repr, Inhabited

/-- What is written behind the work space. -/
inductive Queued where
  | text (bytes : List UInt8)
  | line (bytes : List UInt8)
deriving DecidableEq, Repr, Inhabited

/-- A space for text, and whether a line end belongs behind it. -/
structure Space where
  text : List UInt8
  isEnded : Bool
deriving DecidableEq, Repr, Inhabited

/-- What an edit depends on. -/
structure Setting where
  script : Script
  mark : UInt8
  width : Nat
  /-- Whether files count as separate. -/
  separate : Bool
  /-- Whether what is written goes into the files that are read. -/
  inPlace : Bool
  /-- Whether the work space is lost if a command finds no more lines. -/
  losesLast : Bool
  readFile : String → List UInt8
  runScript : String → List UInt8

/-- The state of an edit. -/
structure State where
  lines : List InputLine
  line : InputLine
  number : Nat
  space : Space
  held : Space
  queue : List Queued
  ranges : Array RangeState
  lastPattern? : Option Pattern
  replaced : Bool
  outlets : List (String × Written)
  readers : List (String × List (List UInt8))

namespace State

/-- The place that the work space is written to: the output, or the file that is read. -/
def mainOutlet (setting : Setting) (state : State) : String :=
  if setting.inPlace then state.line.file else "/dev/stdout"

/-- Change what is written to a place. -/
def modify (path : String) (change : Written → Written) (state : State) : State :=
  { state with
    outlets := if (state.outlets.lookup path).isSome then
        state.outlets.map fun other => if other.1 = path then (path, change other.2) else other
      else state.outlets ++ [(path, change .none)] }

/-- Write bytes. -/
def emit (setting : Setting) (bytes : List UInt8) (state : State) : State :=
  state.modify (state.mainOutlet setting) (.add setting.mark bytes)

/-- Write a text as a line to a place. -/
def emitLine (setting : Setting) (path : String) (text : List UInt8) (state : State) : State :=
  state.modify path (.addLine setting.mark text state.space.isEnded)

/-- Write the work space. -/
def emitSpace (setting : Setting) (state : State) : State :=
  state.emitLine setting (state.mainOutlet setting) state.space.text

/-- Write what belongs behind the work space. -/
def emitQueue (setting : Setting) (state : State) : State :=
  let state := state.queue.foldl (fun state queued => match queued with
    | .text bytes => if bytes.isEmpty then state else state.emit setting bytes
    | .line bytes =>
      state.modify (state.mainOutlet setting) (.addLine setting.mark bytes true)) state
  { state with queue := [] }

/-- The ranges of a script in front of the first line. One that begins at line zero has begun. -/
def firstRanges (script : Script) : Array RangeState :=
  script.commands.map fun command =>
    match command.selection.first? with
    | some (.line 0) => .inside none
    | _ => .idle

/-- The state in front of the first line of a file that counts as separate. -/
def restart (setting : Setting) (state : State) : State :=
  { state with
    number := 0
    held := ⟨[], true⟩
    ranges := firstRanges setting.script
    readers := [] }

/-- The state with the next line as the one that counts, if there is one. -/
def advance? (setting : Setting) (state : State) : Option (State × InputLine) :=
  match state.lines with
  | [] => none
  | line :: lines =>
    let state := state.emitQueue setting
    let state := if setting.separate && line.isFirst then state.restart setting else state
    some ({ state with
      lines := lines
      line := line
      number := state.number + 1
      replaced := false }, line)

/-! ## Selection -/

/-- Whether a pattern is found in the work space; without a pattern, the one that was used last. -/
def finds (pattern? : Option Pattern) (state : State) : Option Bool × State :=
  match pattern?.orElse fun () => state.lastPattern? with
  | none => (none, state)
  | some pattern =>
    let chars := Text.Octets.chars state.space.text
    (some (pattern.regex.search? pattern.manyLines (.start chars)).isSome,
      { state with lastPattern? := some pattern })

/-- Whether an address is that of the line. -/
def meets (address : Address) (state : State) : Option Bool × State :=
  match address with
  | .line number => (some (state.number == number), state)
  | .every first step =>
    (some (first ≤ state.number && (state.number - first) % step == 0), state)
  | .last => (some state.line.isLast, state)
  | .pattern pattern? => state.finds pattern?

/-- Begin a range: whether the line is selected, and where the range is then. -/
def beginRange (isNumbered : Bool) (bound : Bound) (number : Nat) : Bool × RangeState :=
  let once : RangeState := if isNumbered then .over else .idle
  match bound with
  | .address (.line last) => if last ≤ number then (true, once) else (true, .inside (some last))
  | .more count => if count = 0 then (true, once) else (true, .inside (some (number + count)))
  | .multiple count =>
    if count = 0 ∨ number % count = 0 then (true, once)
    else (true, .inside (some ((number / count + 1) * count)))
  | .address _ => (true, .inside none)

/-- Whether a range selects the line. -/
def selectsRange (index : Nat) (first : Address) (bound : Bound) (state : State) :
    Option Bool × State :=
  let set (range : RangeState) (state : State) : State :=
    { state with ranges := state.ranges.setIfInBounds index range }
  let number := state.number
  match state.ranges.getD index .idle, first with
  | .inside (some last), _ =>
    (some (number ≤ last), if last ≤ number then set .over state else state)
  | .inside none, _ =>
    match bound with
    | .address address =>
      let (found?, state) := state.meets address
      (found?.map fun _ => true, if found? = some true then set .over state else state)
    | _ => (some true, state)
  | range, .line start =>
    if range = .over ∨ number < start then (some false, state)
    else
      match bound with
      | .address (.line last) =>
        if last ≤ number then (some (number == start || number == last), set .over state)
        else (some true, set (.inside (some last)) state)
      | bound =>
        let (selected, range) := beginRange true bound number
        (some selected, set range state)
  | _, first =>
    match state.meets first with
    | (some true, state) =>
      let (selected, range) := beginRange false bound number
      (some selected, set range state)
    | (found?, state) => (found?, state)

/-- Whether a command is carried out. There is no answer if a pattern is missing. -/
def selects (index : Nat) (selection : Selection) (state : State) : Option Bool × State :=
  let (found?, state) : Option Bool × State := match selection.first?, selection.bound? with
    | none, _ => (some true, state)
    | some address, none => state.meets address
    | some address, some bound => state.selectsRange index address bound
  (found?.map (· != selection.negated), state)

/-! ## Substitution -/

/-- Which letters are small and which are capital. -/
structure Casing where
  upper? : Option Bool
  once? : Option Bool

/-- Append characters with their letters as they should be. -/
def Casing.append (casing : Casing) (chars : List Char) : Casing × List Char :=
  let turn (upper? : Option Bool) (c : Char) : Char := match upper? with
    | some true => c.toUpper
    | some false => c.toLower
    | none => c
  match chars with
  | [] => (casing, [])
  | c :: rest =>
    let first := turn (casing.once?.orElse fun () => casing.upper?) c
    ({ casing with once? := none }, first :: rest.map (turn casing.upper?))

/-- The text in the place of a match. -/
def replacement (parts : List Part) (found : Regex.Match) : List Char :=
  (parts.foldl (fun ((casing, chars) : Casing × List (List Char)) part =>
    match part with
    | .text text =>
      let (casing, more) := casing.append text
      (casing, more :: chars)
    | .group number =>
      let (casing, more) := casing.append (found.group number)
      (casing, more :: chars)
    | .mark .lower => ({ casing with upper? := some false }, chars)
    | .mark .upper => ({ casing with upper? := some true }, chars)
    | .mark .lowerNext => ({ casing with once? := some false }, chars)
    | .mark .upperNext => ({ casing with once? := some true }, chars)
    | .mark .ending => (⟨none, none⟩, chars)) (⟨none, none⟩, [])).2.reverse.flatten

/-- A text with other texts in the place of matches. -/
def replaceMatches (parts : List Part) : (index : Nat) → List Char → List Regex.Match → List Char
  | _, chars, [] => chars
  | index, chars, found :: later =>
    let front := chars.take (found.first - index)
    let behind := chars.drop (found.first - index + found.chars.length)
    front ++ replacement parts found
      ++ replaceMatches parts (found.first + found.chars.length) behind later

/-- Carry out a substitution. -/
def substitute (setting : Setting) (substitution : Substitution) (state : State) :
    Option State :=
  match substitution.pattern?.orElse fun () => state.lastPattern? with
  | none => none
  | some pattern =>
    let state := { state with lastPattern? := some pattern }
    let chars := Text.Octets.chars state.space.text
    let all := pattern.regex.matchesIn pattern.manyLines chars
    let behind := all.drop (substitution.nth - 1)
    let chosen := if substitution.everywhere then behind else behind.take 1
    if chosen.isEmpty then some state
    else
      let text := (replaceMatches substitution.parts 0 chars chosen).map Text.Octets.byte
      let text := if substitution.runs then
          let written := setting.runScript (Text.Octets.ofBytes text)
          if written.getLast? = some setting.mark then written.dropLast else written
        else text
      let state := { state with space := { state.space with text := text }, replaced := true }
      let state := if substitution.prints then state.emitSpace setting else state
      some (match substitution.outlet? with
        | some path => state.emitLine setting path text
        | none => state)

/-! ## Listing -/

/-- The form in which a byte is listed. -/
def listedByte (byte : UInt8) : List Char :=
  match ([(7, 'a'), (8, 'b'), (9, 't'), (10, 'n'), (11, 'v'), (12, 'f'), (13, 'r'), (92, '\\')] :
    List (UInt8 × Char)).lookup byte with
  | some letter => ['\\', letter]
  | none =>
    if 32 ≤ byte && byte < 127 then [Char.ofNat byte.toNat]
    else '\\' :: [64, 8, 1].map fun weight => Char.ofNat (48 + byte.toNat / weight % 8)

/-- Put forms in rows of some width. A row that goes on ends with a backslash. -/
def listedRows (width : Nat) : (column : Nat) → List (List Char) → List Char
  | _, [] => ['$', '\n']
  | column, form :: forms =>
    if width != 0 && width - 1 < column + form.length then
      '\\' :: '\n' :: form ++ listedRows width form.length forms
    else form ++ listedRows width (column + form.length) forms

/-- The text in front of the first line break, and what stands behind that, if there is one. -/
def splitFirst (text : List UInt8) : List UInt8 × Option (List UInt8) :=
  match text.span (· != 10) with
  | (front, _ :: behind) => (front, some behind)
  | (front, []) => (front, none)

end State

/-! ## Cycles -/

/-- How a cycle ends. -/
inductive Ending where
  /-- The work space is written. -/
  | usual
  /-- The work space is not written. -/
  | dropped
  /-- The next cycle goes on with what is in the work space. -/
  | again
  /-- There are no more lines for a command. -/
  | atEnd
  | quit (code : UInt8) (prints : Bool)
  /-- A pattern is missing. -/
  | broken
  /-- Too many commands were carried out. -/
  | endless
deriving DecidableEq, Repr, Inhabited

/-- Carry out the commands from one on. -/
def runFrom (setting : Setting) : (fuel : Nat) → (index : Nat) → State → Ending × State × Nat
  | 0, _, state => (.endless, state, 0)
  | fuel + 1, index, state =>
    match setting.script.commands[index]? with
    | none => (.usual, state, fuel)
    | some command =>
      let goOn (state : State) : Ending × State × Nat := runFrom setting fuel (index + 1) state
      let putSpace (text : List UInt8) (state : State) : State :=
        { state with space := { state.space with text := text } }
      match state.selects index command.selection, command.action with
      | (none, state), _ => (.broken, state, fuel)
      | (some false, state), .block behind => runFrom setting fuel behind state
      | (some false, state), _ => goOn state
      | (some true, state), action =>
        let text := state.space.text
        match action with
        | .nothing | .block _ => goOn state
        | .tellNumber =>
          goOn (state.emit setting (Text.Octets.toBytes (Decimal.digitText state.number ++ "\n")))
        | .tellFile => goOn (state.emit setting (Text.Octets.toBytes (state.line.file ++ "\n")))
        | .append text => goOn { state with queue := state.queue ++ [.text text] }
        | .insert text => goOn (if text.isEmpty then state else state.emit setting text)
        | .change text =>
          let isInside := match state.ranges.getD index .idle with
            | .inside _ => command.selection.bound?.isSome && !command.selection.negated
            | _ => false
          (.dropped, if isInside || text.isEmpty then state else state.emit setting text, fuel)
        | .delete => (.dropped, state, fuel)
        | .deleteFirst =>
          match State.splitFirst text with
          | (_, some behind) => (.again, putSpace behind state, fuel)
          | (_, none) => (.dropped, state, fuel)
        | .get => goOn { state with space := state.held }
        | .getMore => goOn (putSpace (text ++ 10 :: state.held.text) state)
        | .hold => goOn { state with held := state.space }
        | .holdMore =>
          goOn { state with held := { state.held with text := state.held.text ++ 10 :: text } }
        | .exchange => goOn { state with space := state.held, held := state.space }
        | .list width? =>
          let rows := State.listedRows (width?.getD setting.width) 0 (text.map State.listedByte)
          goOn (state.emit setting (rows.map Text.Octets.byte))
        | .next =>
          if state.lines.isEmpty then (.atEnd, state, fuel)
          else
            let state := if setting.script.quiet then state else state.emitSpace setting
            match state.advance? setting with
            | some (state, line) => goOn { state with space := ⟨line.text, line.isEnded⟩ }
            | none => (.atEnd, state, fuel)
        | .nextMore =>
          match state.advance? setting with
          | some (state, line) =>
            goOn { state with space := ⟨text ++ setting.mark :: line.text, line.isEnded⟩ }
          | none => (.atEnd, state, fuel)
        | .print => goOn (state.emitSpace setting)
        | .printFirst =>
          let (front, _) := State.splitFirst text
          goOn (state.modify (state.mainOutlet setting) (.addLine setting.mark front true))
        | .quit code prints => (.quit code prints, state, fuel)
        | .readFile path =>
          goOn { state with queue := state.queue ++ [.text (setting.readFile path)] }
        | .readLine path =>
          let lines := (state.readers.lookup path).getD
            (Tool.bareRecords setting.mark (setting.readFile path))
          let queue := match lines with
            | line :: _ => state.queue ++ [.line line]
            | [] => state.queue
          goOn { state with
            queue := queue
            readers := (path, lines.tail) :: state.readers.filter (·.1 != path) }
        | .write path => goOn (state.emitLine setting path text)
        | .writeFirst path =>
          goOn (state.modify path (.addLine setting.mark (State.splitFirst text).1 true))
        | .substitute substitution =>
          match state.substitute setting substitution with
          | some state => goOn state
          | none => (.broken, state, fuel)
        | .translate pairs =>
          goOn (putSpace (text.map fun byte =>
            (pairs.lookup (Text.Octets.char byte)).elim byte Text.Octets.byte) state)
        | .branch rule label =>
          let taken := match rule with
            | .always => true
            | .replaced => state.replaced
            | .notReplaced => !state.replaced
          let state := if rule = .always then state else { state with replaced := false }
          if taken then
            let target := (setting.script.labels.lookup label).getD setting.script.commands.size
            runFrom setting fuel target state
          else goOn state
        | .clear => goOn (putSpace [] state)
        | .run script =>
          if script = "" then
            let written := setting.runScript (Text.Octets.ofBytes text)
            goOn (putSpace (if written.getLast? = some setting.mark then written.dropLast
              else written) state)
          else goOn (state.emit setting (setting.runScript script))

/-- Carry out cycles up to the last line. The result tells the code at the end, unless a pattern is
missing or there is no end. -/
def runCycles (setting : Setting) : (fuel : Nat) → (again : Bool) → State → Ending × State
  | 0, _, state => (.endless, state)
  | fuel + 1, again, state =>
    let begun? := if again then some state
      else (state.advance? setting).map fun (state, line) =>
        { state with space := ⟨line.text, line.isEnded⟩ }
    match begun? with
    | none => (.quit 0 false, state)
    | some begun =>
      let (ending, state, left) := runFrom setting fuel 0 begun
      let printed (prints : Bool) : State :=
        let state := if prints && !setting.script.quiet then state.emitSpace setting else state
        state.emitQueue setting
      match ending with
      | .usual => runCycles setting (min left fuel) false (printed true)
      | .dropped => runCycles setting (min left fuel) false (printed false)
      | .again => runCycles setting (min left fuel) true (printed false)
      | .atEnd => (.quit 0 false, printed !setting.losesLast)
      | .quit code prints =>
        if prints then (.quit code true, printed true) else (.quit code true, state)
      | .broken => (.broken, state)
      | .endless => (.endless, state)
termination_by fuel => fuel

/-- How many commands are carried out at most. -/
def mostCommands : Nat := 3000000

/-- Edit lines. -/
def run (setting : Setting) (lines : List InputLine) : Ending × State :=
  runCycles setting mostCommands false
    { lines := lines, line := lines.headD default, number := 0, space := ⟨[], true⟩,
      held := ⟨[], true⟩, queue := [],
      ranges := State.firstRanges setting.script, lastPattern? := none,
      replaced := false, outlets := [], readers := [] }

end Runbook.Program.Edit
