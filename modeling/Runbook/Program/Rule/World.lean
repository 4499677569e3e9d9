import Runbook.Program.Lines
import Runbook.Program.Rule.Reader
import Runbook.Program.Tool
import Std.Data.HashMap

/-!
# What rules work on

The variables and arrays of a script, the record with its fields, and what is read and written.
-/

namespace Runbook.Program.Rule

/-! ## Arrays -/

/-- An element of an array: its value, and when it was last asked for by a text. -/
structure Element where
  value : Value
  touch? : Option Nat
deriving Inhabited

/-- An array. Its elements stand in buckets, whose number grows with the number of elements. -/
structure Table where
  elements : Std.HashMap String Element
  buckets : Nat
  clock : Nat
deriving Inhabited

namespace Table

/-- An array without elements. -/
def empty : Table := ⟨∅, 64, 0⟩

/-- How many buckets so many elements need. There are at most two elements for each bucket. -/
def bucketsFor (size : Nat) : (fuel : Nat) → (buckets : Nat) → Nat
  | 0, buckets => buckets
  | fuel + 1, buckets => if size ≤ 2 * buckets then buckets else bucketsFor size fuel (2 * buckets)

/-- The number that spreads texts over buckets. -/
def spreadOf (text : String) : UInt32 :=
  text.toList.foldl (fun hash c => (hash ^^^ c.toNat.toUInt32) * 16777619) 2166136261

/-- Put a value in the place of an element. -/
def insert (key : String) (isText : Bool) (value : Value) (table : Table) : Table :=
  let before? := (table.elements[key]?).bind (·.touch?)
  let touch? := if isText then some table.clock else before?
  let elements := table.elements.insert key ⟨value, touch?⟩
  ⟨elements, bucketsFor elements.size 40 table.buckets, table.clock + 1⟩

/-- The keys in the order in which loops come to them: by buckets, and what was asked for last
first. -/
def keys (table : Table) : List String :=
  let entries := table.elements.toList.map fun (key, element) =>
    let bucket := (spreadOf key).toNat % table.buckets
    let age : Int := match element.touch? with
      | some touch => -(touch : Int)
      | none =>
        let place := integerOf (-2 ^ 31) (2 ^ 31) (numberOf key) % table.buckets
        0 - (table.clock + 1 + place)
    (bucket, age, key)
  (entries.mergeSort fun left right =>
    left.1 < right.1 || (left.1 == right.1 && left.2.1 ≤ right.2.1)).map (·.2.2)

end Table

/-! ## Records -/

/-- A record, with its fields if it is divided. -/
structure Record where
  text : String
  fields? : Option (Array Value)
  /-- What separates its fields. -/
  separator : String
deriving Inhabited

/-- What separates the fields of a text. -/
inductive Separator where
  | blanks
  | nothing
  | char (c : Char)
  | pattern (regex : Regex)
deriving Inhabited

/-- The parts of a text between matches of a pattern that are not empty. -/
def splitPattern (regex : Regex) (text : String) : List String :=
  let chars := text.toList
  let found := (regex.matchesIn false chars).filter (!·.chars.isEmpty)
  let (parts, index) := found.foldl (fun (parts, index) (found : Regex.Match) =>
    (String.ofList ((chars.drop index).take (found.first - index)) :: parts,
      found.first + found.chars.length)) (([] : List String), 0)
  (String.ofList (chars.drop index) :: parts).reverse

/-- The parts of a text. An empty text has none. -/
def Separator.split (separator : Separator) (text : String) : List String :=
  if text = "" then []
  else
    match separator with
    | .blanks =>
      ((text.toList.splitOnP fun c => c == ' ' || c == '\t' || c == '\n').filter
        (!·.isEmpty)).map String.ofList
    | .nothing => text.toList.map fun c => String.ofList [c]
    | .char mark => (text.toList.splitOn mark).map String.ofList
    | .pattern regex => splitPattern regex text

/-! ## The state -/

/-- The content of a variable of a function. -/
inductive Slot where
  | value (value : Value)
  | table (number : Nat)
deriving Inhabited

/-- Something that output goes to, with what was written, the last bytes first. -/
structure Outlet where
  name : String
  isCommand : Bool
  chunks : List (List UInt8)
deriving Inhabited

/-- Something that records are read from: what is left of it, whether more would come, and the
status of the command that has written it. -/
structure Inlet where
  name : String
  isCommand : Bool
  rest : List Char
  isEndless : Bool
  status : Nat
deriving Inhabited

/-- Where the records of the rules come from. -/
inductive Source where
  /-- Nothing was read yet. The number is that of the next operand. -/
  | waiting (operand : Nat)
  | reading (operand : Nat) (inlet : Inlet)
  | over
deriving Inhabited

/-- Why rules are not carried out to their end. -/
inductive Stop where
  /-- The script ends itself. -/
  | left
  | fault (text : String)
  | crashed
  | endless
deriving DecidableEq, Repr, Inhabited

/-- The state of a script, on a machine with states of some type. -/
structure World (σ : Type) where
  /-- The name of the program. -/
  name : String
  host : Host σ
  state : σ
  input : Input
  globals : Std.HashMap String Value
  tables : Std.HashMap Nat Table
  tableNumbers : Std.HashMap String Nat
  tableCount : Nat
  own : Array Slot
  record : Record
  /-- What was written, and what still waits to be written, the last bytes first. -/
  written : Writings
  waiting : List (List UInt8)
  outlets : List Outlet
  inlets : List Inlet
  source : Source
  ranges : Array Bool
  separators : Std.HashMap String Separator
  patterns : Std.HashMap String Regex
  seed : Float
  random : Nat
  status : UInt8
  steps : Nat
  /-- How many values wait in expressions and calls. -/
  depth : Nat
  calls : Nat
  milliseconds : Nat

/-- A step of a script. -/
abbrev Step (σ : Type) := ExceptT Stop (StateM (World σ))

/-- How many statements are carried out at most. -/
def mostSteps : Nat := 20000000

/-- How many values may wait. -/
def mostValues : Nat := 1007

/-- How many functions may run, each called by the one before. -/
def mostCalls : Nat := 4000

namespace Step

variable {σ : Type}

/-- Count one statement more. -/
def count : Step σ Unit := do
  let world ← get
  if world.steps = 0 then throw .endless
  set { world with steps := world.steps - 1 }

/-! ## Variables -/

/-- A variable of the script, as it was set. -/
def known (name : String) : Step σ Value := return ((← get).globals[name]?).getD .missing

/-- The text of a variable that the program reads itself. -/
def setting (name : String) : Step σ String := do
  return (← known name).toText "%.6g"

/-- The format of numbers that become texts. -/
def format : Step σ String := setting "CONVFMT"

/-- The text of a value. -/
def textOf (value : Value) : Step σ String := do
  match value with
  | .number x => return numberText (← format) x
  | .text text | .input text => return text
  | .missing => return ""

/-- Stop with a complaint. -/
def fail {α : Type} (text : String) : Step σ α := do
  throw (.fault ((← get).name ++ ": " ++ text))

/-- Stop with a complaint about what was found while the script runs. -/
def failRunning {α : Type} (text : String) : Step σ α := do
  let show? (name : String) : Step σ String := do return (← known name).toText "%.6g"
  fail ("run time error: " ++ text ++ "\n\tFILENAME=\"" ++ (← show? "FILENAME") ++ "\" FNR="
    ++ Decimal.digitText (integerOf 0 (2 ^ 62) (← known "FNR").toNumber).toNat ++ " NR="
    ++ Decimal.digitText (integerOf 0 (2 ^ 62) (← known "NR").toNumber).toNat)

/-! ## Patterns -/

/-- The pattern that a text writes. -/
def patternOf (text : String) : Step σ Regex := do
  match (← get).patterns[text]? with
  | some regex => return regex
  | none =>
    match Reading.regexOf text.toList with
    | .error complaint => fail ("line 1: " ++ complaint)
    | .ok regex =>
      modify fun world => { world with patterns := world.patterns.insert text regex }
      return regex

/-- What a text separates fields by. -/
def separatorOf (text : String) : Step σ Separator := do
  match (← get).separators[text]? with
  | some separator => return separator
  | none =>
    let separator ← match text.toList with
      | [] => pure .nothing
      | [' '] => pure .blanks
      | [c] => pure (.char c)
      | _ => pure (.pattern (← patternOf text))
    modify fun world => { world with separators := world.separators.insert text separator }
    return separator

/-! ## Fields -/

/-- The fields of the record. -/
def fields : Step σ (Array Value) := do
  let record := (← get).record
  match record.fields? with
  | some fields => return fields
  | none =>
    let parts := (← separatorOf record.separator).split record.text
    let fields := (parts.map Value.input).toArray
    modify fun world => { world with record := { world.record with fields? := some fields } }
    return fields

/-- Take a text as the record. -/
def setRecord (text : String) : Step σ Unit := do
  let separator ← setting "FS"
  modify fun world => { world with record := ⟨text, none, separator⟩ }

/-- Take fields as those of the record, whose text changes with them. -/
def setFields (fields : Array Value) : Step σ Unit := do
  let joint ← setting "OFS"
  let texts ← fields.toList.mapM textOf
  modify fun world => { world with
    record := { world.record with text := joint.intercalate texts, fields? := some fields } }

/-- Fields of which there are so many. -/
def resized (count : Nat) (fields : Array Value) : Array Value :=
  fields.take count ++ Array.replicate (count - fields.size) (.input "")

/-- The field with a number. Number zero is the record. -/
def field (index : Float) : Step σ Value := do
  match integerOf (-2 ^ 31) (2 ^ 31) index with
  | .ofNat 0 => return .input (← get).record.text
  | .ofNat (n + 1) => return ((← fields)[n]?).getD .missing
  | .negSucc n =>
    failRunning ("negative field index $-" ++ Decimal.digitText (n + 1))

/-- Give a value to the field with a number. -/
def setField (index : Float) (value : Value) : Step σ Unit := do
  match integerOf (-2 ^ 31) 32767 index with
  | .ofNat 0 => setRecord (← textOf value)
  | .ofNat (n + 1) =>
    let before ← fields
    setFields ((resized (max before.size (n + 1)) before).setIfInBounds n value)
  | .negSucc n =>
    failRunning ("negative field index $-" ++ Decimal.digitText (n + 1))

/-! ## Names -/

/-- The number of the array of a name of the whole script. -/
def sharedTable (name : String) : Step σ Nat := do
  let world ← get
  match world.tableNumbers[name]? with
  | some number => return number
  | none =>
    set { world with
      tableNumbers := world.tableNumbers.insert name world.tableCount
      tables := world.tables.insert world.tableCount .empty
      tableCount := world.tableCount + 1 }
    return world.tableCount

/-- Make a new array. -/
def newTable : Step σ Nat := do
  let world ← get
  set { world with
    tables := world.tables.insert world.tableCount .empty
    tableCount := world.tableCount + 1 }
  return world.tableCount

/-- The number of the array of a name. -/
def tableOf : Name → Step σ Nat
  | .shared name => sharedTable name
  | .own index => do
    match (← get).own[index]? with
    | some (.table number) => return number
    | _ =>
      let number ← newTable
      modify fun world => { world with own := world.own.setIfInBounds index (.table number) }
      return number

/-- The array with a number. -/
def table (number : Nat) : Step σ Table := return ((← get).tables[number]?).getD .empty

/-- Change the array with a number. -/
def modifyTable (number : Nat) (change : Table → Table) : Step σ Unit :=
  modify fun world => { world with
    tables := world.tables.insert number (change ((world.tables[number]?).getD .empty)) }

/-- The value of a name. -/
def value : Name → Step σ Value
  | .own index => do
    match (← get).own[index]? with
    | some (.value value) => return value
    | _ => return .missing
  | .shared "NF" => return .number (Float.ofNat (← fields).size)
  | .shared name => known name

/-- Give a name a value. -/
def setValue (name : Name) (value : Value) : Step σ Unit := do
  match name with
  | .own index =>
    modify fun world => { world with own := world.own.setIfInBounds index (.value value) }
  | .shared "NF" =>
    let count := integerOf (-2 ^ 31) 32767 value.toNumber
    if count < 0 then failRunning "negative value assigned to NF"
    setFields (resized count.toNat (← fields))
  | .shared name =>
    modify fun world => { world with globals := world.globals.insert name value }

/-- The value of an element, which there is from then on. -/
def element (number : Nat) (key : String) (isText : Bool) : Step σ Value := do
  match (← table number).elements[key]? with
  | some element =>
    if isText then modifyTable number (·.insert key true element.value)
    return element.value
  | none =>
    modifyTable number (·.insert key isText .missing)
    return .missing

/-! ## Output -/

/-- Let all output go where it belongs that has waited. -/
def flush : Step σ Unit := do
  modify fun world => { world with
    written := world.waiting.map Tool.shown ++ world.written
    waiting := [] }
  let world ← get
  let state := world.outlets.foldl (fun state outlet =>
    if outlet.isCommand then state
    else (world.host.write outlet.name outlet.chunks.reverse.flatten state).toOption.getD state)
    world.state
  set { world with state := state }

/-- Take in what a program has done. Its output goes behind what was written. -/
def takeRun (run : Run) (takesOutput : Bool) : Step σ Unit := do
  modify fun world => { world with
    written := (run.written.filter fun (channel, _) =>
      takesOutput || channel == .complaints).reverse ++ world.written
    milliseconds := world.milliseconds + run.milliseconds.getD 0 }
  if run.milliseconds.isNone then throw .endless

/-- Run a command with some input. -/
def runCommand (command : String) (input : Input) : Step σ Run := do
  let world ← get
  let (result, state) := world.host.start world.state input "/bin/sh" ["-c", command]
  set { world with state := state }
  match result with
  | .ok run => return run
  | .error _ => return Tool.fail 127 [] []

/-- The status of a run, as a number. -/
def statusOf (run : Run) : Nat :=
  match run.status with
  | .exited code => code.toNat
  | .killed signal => 256 + signal

/-- Close something that output goes to. The result is the status of a command. -/
def closeOutlet (outlet : Outlet) : Step σ Nat := do
  let bytes := outlet.chunks.reverse.flatten
  let world ← get
  set { world with outlets := world.outlets.filter fun other => other.name != outlet.name }
  if outlet.isCommand then
    let run ← runCommand outlet.name (.ofBytes bytes)
    takeRun run true
    return statusOf run
  else
    let world ← get
    set { world with
      state := (world.host.write outlet.name bytes world.state).toOption.getD world.state }
    return 0

/-- Write bytes to something that has a name. -/
def writeTo (kind : OutletKind) (name : String) (bytes : List UInt8) : Step σ Unit := do
  let world ← get
  if kind != .command && (name == "/dev/stdout" || name == "-") then
    set { world with waiting := bytes :: world.waiting }
  else if kind != .command && name == "/dev/stderr" then
    set { world with written := (.complaints, bytes) :: world.written }
  else
    match world.outlets.find? fun outlet => outlet.name == name with
    | some _ =>
      set { world with
        outlets := world.outlets.map fun (outlet : Outlet) =>
          if outlet.name = name then { outlet with chunks := bytes :: outlet.chunks } else outlet }
    | none =>
      if kind = .command then
        flush
        modify fun world => { world with outlets := ⟨name, true, [bytes]⟩ :: world.outlets }
      else
        let kept := if kind = .behindFile then
            (Tool.supplied (world.host.supply world.name .none world.state) name).toOption.getD []
          else []
        match world.host.write name kept world.state with
        | .error cause =>
          fail ("cannot open \"" ++ name ++ "\" for output (" ++ Tool.reason cause ++ ")")
        | .ok state =>
          set { world with
            state := state
            outlets := ⟨name, false, [bytes, kept]⟩ :: world.outlets }

/-- Write bytes. -/
def write (bytes : List UInt8) : Step σ Unit :=
  modify fun world => { world with waiting := bytes :: world.waiting }

/-! ## Input -/

/-- The record at the front of a text, and what stands behind it, given what ends records. -/
def cutRecord (mark : String) (chars : List Char) : Step σ (Option (String × List Char)) := do
  match mark.toList with
  | [c] =>
    if chars.isEmpty then return none
    let front := chars.takeWhile (· != c)
    return some (String.ofList front, (chars.drop front.length).drop 1)
  | [] =>
    let chars := chars.dropWhile (· == '\n')
    if chars.isEmpty then return none
    let lines := chars.splitOn '\n'
    let front := lines.takeWhile (!·.isEmpty)
    let text := ['\n'].intercalate front
    return some (String.ofList text, (chars.drop text.length).dropWhile (· == '\n'))
  | _ =>
    if chars.isEmpty then return none
    let regex ← patternOf mark
    match (regex.matchesIn false chars).find? (!·.chars.isEmpty) with
    | some found =>
      return some (String.ofList (chars.take found.first),
        chars.drop (found.first + found.chars.length))
    | none =>
      let chars := if chars.getLast? = some '\n' then chars.dropLast else chars
      return some (String.ofList chars, [])

/-- The next record of something, and what is left of that. -/
def nextOf (inlet : Inlet) : Step σ (Option String × Inlet) := do
  match ← cutRecord (← setting "RS") inlet.rest with
  | some (text, rest) =>
    if rest.isEmpty && inlet.isEndless then throw .endless
    return (some text, { inlet with rest := rest })
  | none =>
    if inlet.isEndless then throw .endless
    return (none, inlet)

/-- Whether an operand gives a variable a value; if so, the name and the value. -/
def assignmentOf? (operand : String) : Option (String × String) :=
  let chars := operand.toList
  let name := chars.takeWhile fun c => c.isAlphanum || c == '_'
  match chars.drop name.length with
  | '=' :: value =>
    if name.head?.any fun c => c.isAlpha || c == '_' then
      some (String.ofList name, String.ofList (unescape (value.length + 1) value))
    else none
  | _ => none

/-- Give a variable the value that an operand says. -/
def assignOperand (name text : String) : Step σ Unit := setValue (.shared name) (.input text)

/-- Open the next file among the operands, or the input if there are none. -/
def openNext : (fuel : Nat) → (operand : Nat) → (any : Bool) → Step σ (Option (Nat × Inlet))
  | 0, _, _ => return none
  | fuel + 1, operand, any => do
    let count := (← known "ARGC").toNumber
    let world ← get
    let input : Inlet := ⟨"-", false, Text.Octets.chars world.input.bytes, world.input.endless, 0⟩
    if count ≤ Float.ofNat operand then
      if any then return none
      setValue (.shared "FILENAME") (.text "-")
      return some (operand, input)
    let arguments ← table (← sharedTable "ARGV")
    let text ← match arguments.elements[Decimal.digitText operand]? with
      | some element => textOf element.value
      | none => pure ""
    if text = "" then openNext fuel (operand + 1) any
    else
      match assignmentOf? text with
      | some (name, value) =>
        assignOperand name value
        openNext fuel (operand + 1) any
      | none =>
        setValue (.shared "FILENAME") (.text text)
        setValue (.shared "FNR") (.number 0.0)
        if text = "-" ∨ text = "/dev/stdin" then return some (operand + 1, input)
        match Tool.supplied (world.host.supply world.name world.input world.state) text with
        | .ok bytes => return some (operand + 1, ⟨text, false, Text.Octets.chars bytes, false, 0⟩)
        | .error .isADirectory => fail "read error (Is a directory)"
        | .error cause => fail ("cannot open " ++ text ++ " (" ++ Tool.reason cause ++ ")")

/-- The next record for the rules. -/
def nextRecord : (fuel : Nat) → Step σ (Option String)
  | 0 => return none
  | fuel + 1 => do
    match (← get).source with
    | .over => return none
    | .waiting operand =>
      match ← openNext 65536 operand false with
      | some (operand, inlet) =>
        modify fun world => { world with source := .reading operand inlet }
        nextRecord fuel
      | none =>
        modify fun world => { world with source := .over }
        return none
    | .reading operand inlet =>
      match ← nextOf inlet with
      | (some text, inlet) =>
        modify fun world => { world with source := .reading operand inlet }
        let up (name : String) : Step σ Unit := do
          setValue (.shared name) (.number ((← known name).toNumber + 1.0))
        up "NR"
        up "FNR"
        return some text
      | (none, _) =>
        match ← openNext 65536 operand true with
        | some (operand, inlet) =>
          modify fun world => { world with source := .reading operand inlet }
          nextRecord fuel
        | none =>
          modify fun world => { world with source := .over }
          return none

/-- Go on with the next file. -/
def leaveFile : Step σ Unit :=
  modify fun world => { world with
    source := match world.source with
      | .reading operand inlet => .reading operand { inlet with rest := [], isEndless := false }
      | source => source }

/-- The next record of a file or of what a command writes. The result is negative if there is no
such file. -/
def readFrom (isCommand : Bool) (name : String) : Step σ (Int × String) := do
  let world ← get
  let inlet? ← match world.inlets.find? fun inlet => inlet.name == name with
    | some inlet => pure (some inlet)
    | none =>
      if isCommand then
        flush
        let run ← runCommand name .none
        takeRun run false
        pure (some ⟨name, true, Text.Octets.chars run.stdout, false, statusOf run⟩)
      else if name = "-" ∨ name = "/dev/stdin" then
        pure (some ⟨name, false, Text.Octets.chars world.input.bytes, world.input.endless, 0⟩)
      else
        match Tool.supplied (world.host.supply world.name world.input world.state) name with
        | .ok bytes => pure (some ⟨name, false, Text.Octets.chars bytes, false, 0⟩)
        | .error _ => pure none
  match inlet? with
  | none => return (-1, "")
  | some inlet =>
    let (text?, inlet) ← nextOf inlet
    modify fun world => { world with
      inlets := inlet :: world.inlets.filter fun other => other.name != name }
    match text? with
    | some text => return (1, text)
    | none => return (0, "")

end Step

end Runbook.Program.Rule
