import Runbook.Program.Tools
import Runbook.Shell.Arithmetic
import Runbook.Shell.Child
import Runbook.Shell.Extended.Table
import Runbook.Shell.Pattern
import Runbook.Shell.Reader

/-!
# Sessions

The state of a shell: its variables and arguments, the files around it, and where its streams lead.
-/

namespace Runbook.Shell

/-- How a script goes on. -/
inductive Flow where
  | on
  /-- The shell ends. -/
  | ended
  /-- A signal ended the shell. -/
  | killed (signal : Nat)
  /-- A function returns. -/
  | returned
  /-- Loops are left, as many as are counted. -/
  | leaving (loops : Nat)
  /-- The next round begins of a loop that stands around others. -/
  | skipping (loops : Nat)
  /-- The rest of the line is left out. -/
  | dropped
  /-- The shell never goes on. -/
  | stuck
deriving DecidableEq, Repr, Inhabited

/-- The options of a shell that are on, by their letters. -/
abbrev Switches := List Char

namespace Switches

/-- The names and the letters of all options. Those that have none have a character behind all
bytes. -/
def named : List (String × Char) :=
  [("errexit", 'e'), ("noglob", 'f'), ("ignoreeof", 'I'), ("interactive", 'i'), ("monitor", 'm'),
    ("noexec", 'n'), ("stdin", 's'), ("xtrace", 'x'), ("verbose", 'v'), ("vi", 'V'),
    ("emacs", 'E'), ("noclobber", 'C'), ("allexport", 'a'), ("notify", 'b'), ("nounset", 'u'),
    ("privileged", 'p'), ("nolog", Char.ofNat 256), ("debug", Char.ofNat 257)]

/-- Whether the shell ends when a command fails. -/
def strict (switches : Switches) : Bool := switches.contains 'e'

/-- Whether the shell ends when a variable has no value. -/
def demanding (switches : Switches) : Bool := switches.contains 'u'

/-- Whether commands are written before they run. -/
def traced (switches : Switches) : Bool := switches.contains 'x'

/-- Whether patterns in words stand for themselves. -/
def literal (switches : Switches) : Bool := switches.contains 'f'

/-- Whether output does not go to files that are there already. -/
def careful (switches : Switches) : Bool := switches.contains 'C'

/-- Turn options on or off. The result may be a letter that belongs to none. -/
def turn (switches : Switches) (on : Bool) : (letters : List Char) → Except Char Switches
  | [] => .ok switches
  | letter :: letters =>
    if named.any (·.2 == letter) then
      turn (if on then letter :: switches else switches.filter (· != letter)) on letters
    else .error letter

/-- The letters of the options in the extended language, in order. -/
def extendedLetters : List Char := "abefhkmnptuvxBCEHPT".toList

/-- The text of the letters in the extended language. -/
def extendedText (switches : Switches) : String :=
  String.ofList (extendedLetters.filter switches.contains)

/-- The text of the letters. -/
def text (switches : Switches) : String :=
  String.ofList ((named.map (·.2)).reverse.filter fun c => c.toNat < 256 && switches.contains c)

end Switches

/-- What belongs to the name of a variable. -/
structure Kept where
  name : String
  value? : Option String
  table? : Option Extended.Table
  traits : List Char
  isExported : Bool
  isFixed : Bool
deriving DecidableEq, Repr, Inhabited

/-- A function that runs, or a script that is read: its name, where it comes from, and the line on
which it was asked for. -/
structure Frame where
  name : String
  origin : String
  line : Nat
deriving DecidableEq, Repr, Inhabited

/-- The state of a shell. -/
structure Session where
  dialect : Dialect
  /-- The name in front of complaints. -/
  name : String
  /-- The line of the command that runs. -/
  line : Nat
  /-- The command that is at work, as it stands in front of complaints about what it runs. -/
  caller : String
  arguments : List String
  bindings : Variables
  /-- The variables that programs see. -/
  exported : List String
  /-- The variables that programs see if another program has changed them. -/
  environment? : Option Variables
  /-- The variables that keep their values. -/
  fixed : List String
  /-- The variables that are arrays. -/
  tables : List (String × Extended.Table)
  /-- What variables make of the values that they are given, by letters. -/
  traits : List (String × Char)
  /-- The statuses of the last commands of which each read what the one before it wrote. -/
  pipeline : List Nat
  /-- Where the commands that run come from, as it stands in front of complaints of the extended
  language. -/
  origin : String
  /-- Where functions come from. -/
  origins : List (String × String)
  /-- The functions that run, the last one first. -/
  frames : List Frame
  /-- Whether the shell was given its script as a text. -/
  isText : Bool
  /-- How many shells of its own stand around the command that runs, one inside the other. -/
  subshells : Nat
  /-- How many scripts are read, each by a command of the one before, for commands that are
  traced. -/
  nesting : Nat
  /-- Whether the program that runs next takes the place of the shell. -/
  replaces : Bool
  /-- Files that stand only for what a script writes or reads, each with the script that reads it
  and its line. -/
  passages : List (FilePath × Option (Nat × List Char))
  /-- The directories that are remembered, as texts. -/
  pile : List String
  /-- The options that are on and have only names. -/
  extras : List String
  /-- The last word of the last command. -/
  lastWord : String
  functions : List (String × Command)
  /-- The words that stand for other texts. -/
  aliases : List (String × String)
  /-- The argument that the search for options comes to next, counted from one, and how far the one
  before it is read, if letters are left in it. -/
  walk : Nat × Option Nat
  /-- The variables of the function that runs, with their values outside of it. -/
  locals? : Option (List Kept)
  /-- What is run for signals, and for the end of the shell. -/
  traps : List (Nat × String)
  /-- The status of the last command. -/
  status : Nat
  /-- The status of the last script of which the output was put into a word. -/
  answer : Nat
  /-- What was written so far, to each place that can be written to. -/
  places : Array (Array Chunk)
  /-- How many chunks were written. -/
  turns : Nat
  /-- The places that streams lead to, by the numbers of the streams. -/
  streams : List (Nat × Nat)
  input : Program.Input
  /-- What can be read from other streams than the first one, by their numbers. -/
  inputs : List (Nat × Program.Input)
  /-- The stream of which the input was taken, if it was taken from another one. -/
  lender? : Option Nat
  tree : FileTree
  directory : FilePath
  /-- The path on which the shell came to its directory, with the links on it. -/
  way : FilePath
  /-- The permissions that new files do not have. -/
  mask : Nat
  /-- The files that were written, and their places. -/
  opened : List (FilePath × Nat)
  milliseconds : Nat
  /-- The number of the process that runs. -/
  process : Nat
  /-- What was begun in the background, by this process or another one, the last one first. -/
  children : List Child
  flow : Flow
  /-- How many loops stand around the command that runs. -/
  loops : Nat
  /-- How many functions run, each called by the one before. -/
  calls : Nat
  /-- How many scripts run, each read by a command of the one before. -/
  scripts : Nat
  /-- How many commands may still run before the shell counts as one that never ends. -/
  steps : Nat
  switches : Switches
  /-- Whether the failure of a command is looked at. -/
  guarded : Bool
  /-- Whether a command that is special does not end the shell when it fails. -/
  mild : Bool

namespace Session

/-- The places of the output, of the complaints, and of what nobody reads. -/
def outputPlace : Nat := 0

def complaintPlace : Nat := 1

def nowhere : Nat := 2

/-- The text in quotes, in which a shell reads it as it stands. Apostrophes stand between quotation
marks. -/
def quotedText (text : String) : String :=
  let groups := text.toList.splitBy fun a b => (a == '\'') == (b == '\'')
  let part (group : List Char) : List Char :=
    if group.head? = some '\'' then '"' :: (group ++ ['"']) else '\'' :: (group ++ ['\''])
  let front := if groups.head?.all (·.head? == some '\'') then ['\'', '\''] else []
  String.ofList (front ++ groups.flatMap part)

/-- How many commands a shell may run before it counts as one that never ends. -/
def mostSteps : Nat := 1000000

/-- The variables of a shell that begins. -/
def usualBindings : Variables :=
  [("IFS", " \t\n"), ("OPTIND", "1"), ("PPID", Decimal.digitText (Child.outerNumber 0 - 1)),
    ("PS1", "# "), ("PS2", "> "), ("PS4", "+ ")]

/-- A shell that begins. -/
def start (name : String) (arguments : List String) : Session where
  dialect := .plain
  name := name
  line := 1
  caller := ""
  arguments := arguments
  bindings := usualBindings
  exported := []
  environment? := none
  fixed := []
  tables := []
  traits := []
  pipeline := []
  origin := name
  origins := []
  frames := []
  isText := false
  subshells := 0
  nesting := 0
  replaces := false
  passages := []
  pile := []
  extras := []
  lastWord := ""
  functions := []
  aliases := []
  walk := (1, none)
  locals? := none
  traps := []
  status := 0
  answer := 0
  places := #[#[], #[], #[]]
  turns := 0
  streams := [(1, outputPlace), (2, complaintPlace)]
  input := .none
  inputs := []
  lender? := none
  tree := Program.Tool.installed
  directory := Program.Tool.workplace
  way := Program.Tool.workplace
  mask := 0o022
  opened := []
  milliseconds := 0
  process := 0
  children := []
  flow := .on
  loops := 0
  calls := 0
  scripts := 0
  steps := mostSteps
  switches := []
  guarded := false
  mild := false

/-- Write bytes to a place. -/
def writeTo (session : Session) (place : Nat) (bytes : List UInt8) : Session :=
  if bytes.isEmpty || place == nowhere then session
  else
    let places := session.places
    let chunk : Chunk := ⟨session.milliseconds, session.turns, session.process, bytes⟩
    { session with
      places := places.modify place (·.push chunk)
      turns := session.turns + 1 }

/-- The place that a stream leads to. -/
def outlet (session : Session) (stream : Nat) : Nat :=
  (session.streams.lookup stream).getD nowhere

/-- Lead a stream to a place. -/
def lead (session : Session) (stream place : Nat) : Session :=
  { session with
    streams := (stream, place) :: session.streams.filter (·.1 != stream) }

/-- Write bytes to the output. -/
def write (session : Session) (bytes : List UInt8) : Session :=
  session.writeTo (session.outlet 1) bytes

/-- Write bytes to where complaints go. -/
def writeComplaint (session : Session) (bytes : List UInt8) : Session :=
  session.writeTo (session.outlet 2) bytes

/-- Whether the shell reads the language with arrays. -/
def isExtended (session : Session) : Bool := session.dialect == .extended

/-- What stands in front of complaints. -/
def front (session : Session) : String :=
  if session.isExtended then session.origin else session.name

/-- Write a complaint about a line. -/
def complainAt (session : Session) (line : Nat) (text : String) : Session :=
  let number := (if session.isExtended then "line " else "") ++ Decimal.digitText line
  session.writeComplaint (Text.Octets.toBytes
    (session.front ++ ": " ++ number ++ ": " ++ text ++ "\n"))

/-- Write a complaint. -/
def complain (session : Session) (text : String) : Session :=
  session.complainAt session.line text

/-- Whether the next command runs. -/
def isOn (session : Session) : Bool := session.flow == .on

/-- Count one command more, unless that are too many. -/
def step (session : Session) : Session :=
  if session.steps = 0 then { session with flow := .stuck }
  else { session with steps := session.steps - 1 }

/-- The session after a command with a status, unless the shell is to go somewhere else. -/
def finish (session : Session) (status : Nat) : Session :=
  if session.isOn then { session with status := status } else session

/-- End the shell with a complaint. -/
def giveUp (session : Session) (status : Nat) (text : String) : Session :=
  { session.complain text with status := status, flow := .ended }

/-- End the shell because a script cannot be read. -/
def giveUpReading (session : Session) (fault : ScriptFault) : Session :=
  { session.complainAt fault.line (session.caller ++ fault.cause.message) with
    status := 2
    flow := .ended }

/-- What a place holds. -/
def placeBytes (session : Session) (place : Nat) : List UInt8 :=
  Chunk.merge (session.places.getD place #[]).toList

/-- What two places hold, one for output and one for complaints. -/
def writings (session : Session) (output complaints : Nat) : Program.Writings :=
  let chunks (place : Nat) : List Chunk := (session.places.getD place #[]).toList
  Chunk.interleave (chunks output) (chunks complaints)

/-- The commands of the shell itself that keep the variables that are given with them, and that end
the shell when they fail. -/
def specialNames : List String :=
  [":", ".", "break", "continue", "eval", "exec", "exit", "export", "readonly", "return", "set",
    "shift", "times", "trap", "unset"]

/-- Let a command of the shell itself fail with a complaint. -/
def refuse (session : Session) (name text : String) : Session :=
  let complaint := name ++ ": " ++ text
  if specialNames.contains name && !session.mild then session.giveUp 2 complaint
  else (session.complain complaint).finish 2

/-- Begin the search for options anew if the variable that counts it is given a value. -/
def resetWalk (session : Session) (name value : String) : Session :=
  if name = "OPTIND" then
    { session with walk := (max 1 ((Decimal.readNatural (2 ^ 31) value.toList).getD 1), none) }
  else session

/-- Leave out the rest of the line after a complaint. -/
def drop (session : Session) (text : String) : Session :=
  { session.complain text with status := 1, flow := .dropped }

/-- Put a table in the place of one that a variable has. -/
def putTable (session : Session) (name : String) (table : Extended.Table) : Session :=
  { session with
    tables := (name, table) :: session.tables.filter (·.1 != name)
    traits := session.traits.filter (· != (name, '?'))
    bindings := session.bindings.filter (·.1 != name) }

/-- Whether a variable does something with the values that it is given. -/
def hasTrait (session : Session) (name : String) (letter : Char) : Bool :=
  session.traits.contains (name, letter)

/-- The value that a variable takes if it is given one. -/
def traited (session : Session) (name value : String) : String :=
  if session.traits.isEmpty then value
  else if session.hasTrait name 'u' then String.ofList (value.toList.map Char.toUpper)
  else if session.hasTrait name 'l' then String.ofList (value.toList.map Char.toLower)
  else value

/-- Give a variable a value, whether it keeps the one that it has or not. -/
def store (session : Session) (name value : String) : Session :=
  let session := session.resetWalk name value
  let value := session.traited name value
  match session.tables.lookup name with
  | some (.indexed elements) =>
    session.putTable name (.indexed (Extended.Table.putAt 0 value elements))
  | some (.keyed elements) =>
    session.putTable name (.keyed (Extended.Table.putUnder "0" value elements))
  | none =>
    { session with
      bindings := session.bindings.insert name value
      exported := if session.switches.contains 'a' then name :: session.exported
        else session.exported }

/-- Give a value to an element of a variable, whether it keeps its values or not. -/
def storeAt (session : Session) (name : String) (place : Nat ⊕ String) (value : String) :
    Session :=
  let value := session.traited name value
  match place, session.tables.lookup name with
  | .inr key, some (.keyed elements) =>
    session.putTable name (.keyed (Extended.Table.putUnder key value elements))
  | .inr key, _ => session.putTable name (.keyed [(key, value)])
  | .inl n, some (.indexed elements) =>
    session.putTable name (.indexed (Extended.Table.putAt n value elements))
  | .inl n, some (.keyed elements) =>
    session.putTable name (.keyed (Extended.Table.putUnder (toString n) value elements))
  | .inl n, none =>
    let single := (session.bindings.get? name).toList.map (0, ·)
    session.putTable name (.indexed (Extended.Table.putAt n value single))

/-- Give a variable a value, if it does not keep the one that it has. -/
def assign (session : Session) (name value : String) : Session :=
  if session.fixed.contains name then
    if session.isExtended then session.drop (name ++ ": readonly variable")
    else session.giveUp 2 (session.caller ++ name ++ ": is read only")
  else session.store name value

/-- What belongs to a name. -/
def kept (session : Session) (name : String) : Kept where
  name := name
  value? := session.bindings.get? name
  table? := session.tables.lookup name
  traits := (session.traits.filter (·.1 == name)).map (·.2)
  isExported := session.exported.contains name
  isFixed := session.fixed.contains name

/-- Bring back what belongs to names. -/
def restore (session : Session) (kept : List Kept) : Session :=
  kept.foldl (fun session kept =>
    let name := kept.name
    let others := session.bindings.filter (·.1 != name)
    let session := kept.value?.elim session (session.resetWalk name ·)
    let mark (isMarked : Bool) (names : List String) : List String :=
      if isMarked then name :: names.filter (· != name) else names.filter (· != name)
    { session with
      bindings := kept.value?.elim others (Dictionary.insert name · others)
      tables := (kept.table?.map fun table => (name, table)).toList
        ++ session.tables.filter (·.1 != name)
      traits := kept.traits.map (name, ·) ++ session.traits.filter (·.1 != name)
      exported := mark kept.isExported session.exported
      fixed := mark kept.isFixed session.fixed }) session

/-- The characters that separate fields. -/
def separators (session : Session) : List Char :=
  match session.bindings.get? "IFS" with
  | some text => text.toList
  | none => [' ', '\t', '\n']

/-- What stands between arguments that are joined. -/
def joint (session : Session) : List Char := session.separators.take 1

/-- The names of the functions that run. A script alone has none. -/
def functionNames (session : Session) : List String :=
  if session.frames.all (·.name == "main") then [] else session.frames.map (·.name)

/-- The value of a variable of the extended language. The value of an array is its first one. -/
def extendedValue? (session : Session) (name : String) : Option String :=
  match name with
  | "LINENO" => some (Decimal.digitText session.line)
  | "_" => some session.lastWord
  | "FUNCNAME" => session.functionNames.head?
  | "BASH_SOURCE" => session.frames.head?.map (·.origin)
  | "BASH_LINENO" => session.frames.head?.map fun frame => Decimal.digitText frame.line
  | "PIPESTATUS" => session.pipeline.head?.map Decimal.digitText
  | "SHELLOPTS" =>
    some (":".intercalate (Extended.OptionName.settingsOn session.switches session.extras))
  | "BASHOPTS" =>
    some (":".intercalate (Extended.OptionName.manners.filter session.extras.contains))
  | "RANDOM" => some (Decimal.digitText (session.steps * 1103515245 / 65536 % 32768))
  | "EPOCHSECONDS" => some (toString Program.Date.present.seconds)
  | "SECONDS" => some (Decimal.digitText (session.milliseconds / 1000))
  | "BASHPID" => some (Decimal.digitText (Child.outerNumber session.process))
  | "DIRSTACK" => some (Program.Tool.pathText session.way)
  | "BASH_VERSINFO" => some "5"
  | "GROUPS" => some "0"
  | "BASH_SUBSHELL" => some (Decimal.digitText session.subshells)
  | _ =>
    match session.tables.lookup name with
    | some table => (table.getAt? 0)
    | none => session.bindings.get? name

/-- The letter of the way on which the shell came to its script. -/
def sourceMark (session : Session) : String :=
  if session.isText then "c" else if session.frames.isEmpty then "s" else ""

/-- The value of a variable or of an argument. -/
def value? (session : Session) (name : String) : Option String :=
  match name with
  | "#" => some (Decimal.digitText session.arguments.length)
  | "?" => some (Decimal.digitText session.status)
  | "$" => some (Decimal.digitText (Child.outerNumber 0))
  | "!" =>
    (session.children.find? (·.parent == session.process)).map fun child =>
      Decimal.digitText (Child.outerNumber child.number)
  | "-" =>
    some (if session.isExtended then session.switches.extendedText ++ session.sourceMark
      else session.switches.text)
  | "0" => some session.name
  | "@" => if session.arguments.isEmpty then none else some (" ".intercalate session.arguments)
  | "*" =>
    if session.arguments.isEmpty then none
    else some ((String.ofList session.joint).intercalate session.arguments)
  | _ =>
    match Decimal.readNatural (2 ^ 31) name.toList with
    | some n => if n = 0 then some session.name else session.arguments[n - 1]?
    | none =>
      if session.isExtended then session.extendedValue? name else session.bindings.get? name

/-- Bring back what belongs to the shell around a part that ran on its own. -/
def leavePart (outer inner : Session) : Session :=
  { outer with
    status := inner.status
    places := inner.places
    turns := inner.turns
    tree := inner.tree
    opened := inner.opened
    milliseconds := inner.milliseconds
    children := inner.children
    input := inner.input
    steps := inner.steps
    flow := match inner.flow with
      | .killed signal => .killed signal
      | .stuck => .stuck
      | _ => outer.flow }

/-! ## Children -/

/-- Go on when a child has ended. -/
def waitFor (session : Session) (child : Child) : Session :=
  match child.finish with
  | some time => { session with milliseconds := max session.milliseconds time }
  | none => { session with flow := .stuck }

/-- Go on when nothing writes any more to some place, of the children behind the first ones. -/
def waitForPlace (session : Session) (first place : Nat) : Session :=
  (session.children.filter fun child =>
    first < child.number && child.places.contains place).foldl (fun session child =>
      session.waitFor { child with finish := child.release }) session

/-- The child with a number that other programs know. -/
def child? (session : Session) (outerNumber : Nat) : Option Child :=
  session.children.find? fun child => Child.outerNumber child.number == outerNumber

/-- Begin a command in the background, a millisecond later than what comes behind it. The streams
of the command show what it writes to. -/
def begin (session : Session) (single : Bool) (streams : List (Nat × Nat))
    (run : Session → Session) : Session :=
  let number := session.children.length + 1
  let child : Child := ⟨number, session.process, single, none, none, streams.map (·.2), 0, none⟩
  let inner := run { session with
    input := .none
    traps := []
    process := number
    children := child :: session.children
    milliseconds := session.milliseconds + 1 }
  let finish := if inner.flow = .stuck then none else some inner.milliseconds
  let ended : Child := { child with finish := finish, release := finish, status := inner.status }
  let done := session.leavePart
    { inner with flow := if inner.flow = .stuck then .on else inner.flow }
  { done with
    input := session.input
    status := 0
    milliseconds := session.milliseconds
    children := done.children.map fun other => if other.number = number then ended else other }

/-- Send a signal to a child. What it would have written later is never written. -/
def hitChild (session : Session) (signal : Nat) (child : Child) : Session :=
  let now := session.milliseconds
  { session with
    places := session.places.map fun chunks => chunks.filter fun chunk =>
      chunk.writer != child.number || chunk.milliseconds ≤ now
    children := session.children.map fun other =>
      if other.number = child.number then other.hit signal now else other }

/-- Take in what a program did. -/
def takeRun (session : Session) (run : Program.Run) : Session :=
  let session := run.written.foldl (fun session (channel, bytes) =>
    match channel with
    | .output => session.write bytes
    | .complaints => session.writeComplaint bytes) session
  let status := match run.status with
    | .exited code => code.toNat
    | .killed signal => 128 + signal
  match run.milliseconds with
  | some time => { session with status := status, milliseconds := session.milliseconds + time }
  | none => { session with flow := .stuck }

/-- Write lines to where complaints go. -/
def writeNotes (session : Session) (notes : List String) : Session :=
  session.writeComplaint (notes.flatMap fun note => Text.Octets.toBytes (note ++ "\n"))

/-- Run something for some time at most. What it would have written later is never written. -/
def limited (session : Session) (limit : Program.TimeLimit) (run : Session → Session) : Session :=
  let number := session.children.length + 1
  let child : Child := ⟨number, number, true, some 0, some 0, [], 0, none⟩
  let inner := run { session with process := number, children := child :: session.children }
  let time := session.milliseconds + limit.milliseconds
  let inner := { inner with process := session.process }
  if inner.flow != .stuck && inner.milliseconds < time then inner
  else if limit.isHarmless then { inner with status := 124 }
  else
    let places := inner.places.map fun chunks =>
      chunks.filter fun chunk => chunk.writer != number || chunk.milliseconds ≤ time
    let ended := { inner with
      places := places
      flow := .on
      milliseconds := time
      status := limit.status
      steps := session.steps }
    (ended.writeNotes limit.notes).writeNotes (if limit.signal = 9 then ["Killed"] else [])

/-! ## Files -/

/-- The mode of a file, or of a new one that the shell makes. -/
def modeOf (session : Session) (path : FilePath) : Nat :=
  match session.tree.entry? path with
  | some (.file _ mode) => mode
  | _ => 0o666 &&& (0o777 ^^^ session.mask)

/-- The files around a session, with what was written to them. -/
def around (session : Session) : Program.Condition.Surroundings :=
  ⟨session.opened.foldl (fun tree (path, place) =>
    tree.put path (.file (session.placeBytes place) (session.modeOf path))) session.tree,
    session.directory⟩

/-- The place of a new file at a path in text form: its directory has to exist. -/
def newPath? (session : Session) (text : String) : Option FilePath :=
  match (FileTree.splitPath text).reverse with
  | [] => none
  | name :: names =>
    let front := (if names.isEmpty then "." else "/".intercalate names.reverse) ++ "/"
    let around := session.around
    match around.tree.find? around.directory front, around.tree.find around.directory front with
    | some .directory, .ok (place, _) => some (place ++ [name])
    | _, _ => none

/-- The place of output for a file: what was written to it before stays there if it is kept. -/
def openFile (session : Session) (path : FilePath) (kept : List UInt8) : Session × Nat :=
  let chunks : Array Chunk := #[⟨0, 0, 0, kept⟩]
  match session.opened.lookup path with
  | some place =>
    ({ session with places := session.places.setIfInBounds place chunks }, place)
  | none =>
    let place := session.places.size
    ({ session with
      places := session.places.push chunks
      tree := session.tree.put path (.file [] (session.modeOf path))
      opened := (path, place) :: session.opened }, place)

/-- Put a file or a directory at a path. -/
def putEntry (session : Session) (path : FilePath) (entry : FileEntry) : Session :=
  match session.opened.lookup path, entry with
  | some place, .file content _ =>
    { session with
      places := session.places.setIfInBounds place #[⟨0, 0, 0, content⟩]
      tree := session.tree.put path entry }
  | _, entry => { session with tree := session.tree.put path entry }

/-- Take away what stands at a path, and what stands below it. -/
def removeEntry (session : Session) (path : FilePath) : Session :=
  { session with
    tree := session.tree.filter fun other => !path.isPrefixOf other.1
    opened := session.opened.filter fun other => !path.isPrefixOf other.1 }

/-- The wording of the reason why a file cannot be opened. -/
def openReason (missing : String) (cause : FileError) : String :=
  match cause with
  | .notFound | .notADirectory => missing
  | cause => Program.Tool.reason cause

/-- The wording of the reason why a file cannot be written, or read. -/
def fileComplaint (session : Session) (verb missing target : String) (cause : FileError) : String :=
  if session.isExtended then target ++ ": " ++ Program.Tool.reason cause
  else verb ++ " " ++ target ++ ": " ++ openReason missing cause

/-- Lead a stream into a file. What stands in it stays there if output goes behind it, and a file
that is there already is only written to with `force` if the shell is careful. -/
def redirectToFile (session : Session) (stream : Nat) (mode : RedirectMode) (target : String) :
    Except String Session :=
  let around := session.around
  let keeps := mode = .append ∨ mode = .appendBoth
  let complaint (cause : FileError) : Except String Session :=
    .error (session.fileComplaint "cannot create" "Directory nonexistent" target cause)
  match around.tree.find around.directory target with
  | .ok (_, .directory) => complaint .isADirectory
  | .ok (_, .device) => .ok (session.lead stream nowhere)
  | .ok (path, .file content _) =>
    if (mode = .write ∨ mode = .both) ∧ session.switches.careful then
      .error (if session.isExtended then target ++ ": cannot overwrite existing file"
        else "cannot create " ++ target ++ ": File exists")
    else
      let (session, place) := session.openFile path (if keeps then content else [])
      .ok (session.lead stream place)
  | .error .notFound =>
    match session.newPath? target with
    | some path =>
      if target = "" then complaint .notFound
      else
        let (session, place) := session.openFile path []
        .ok (session.lead stream place)
    | none => complaint .notFound
  | .error cause => complaint cause
  | .ok (_, .link _) => complaint .tooManyLinks

/-- Let something be read from a stream. -/
def feed (session : Session) (stream : Nat) (input : Program.Input) : Session :=
  if stream = 0 then { session with input := input, lender? := none }
  else { session with inputs := (stream, input) :: session.inputs.filter (·.1 != stream) }

/-- Read from a file. -/
def redirectFromFile (session : Session) (stream : Nat) (target : String) :
    Except String Session :=
  let around := session.around
  match around.tree.find around.directory target with
  | .ok (_, .file content _) => .ok (session.feed stream ⟨content, false, true⟩)
  | .ok _ => .ok (session.feed stream .none)
  | .error cause => .error (session.fileComplaint "cannot open" "No such file" target cause)

/-- Lead a stream to where another one leads. -/
def redirectToStream (session : Session) (stream : Nat) (target : String) :
    Except String Session :=
  if target = "-" then
    .ok { session with
      streams := session.streams.filter (·.1 != stream)
      inputs := session.inputs.filter (·.1 != stream) }
  else
    match Decimal.readNatural 99 target.toList with
    | none =>
      .error (if session.isExtended then target ++ ": ambiguous redirect"
        else "Syntax error: Bad fd number")
    | some 0 =>
      .ok (if stream = 0 then session
        else (session.lead stream nowhere).feed stream session.input)
    | some other =>
      match session.streams.lookup other, session.inputs.lookup other with
      | some place, _ => .ok (session.lead stream place)
      | none, some input =>
        let fed := session.feed stream input
        .ok (if stream = 0 then { fed with lender? := some other } else fed)
      | none, none => .error (target ++ ": Bad file descriptor")

/-- Lead the streams where redirections say, for a target in plain text. -/
def redirect (session : Session) (stream : Nat) (mode : RedirectMode) (target : String) :
    Except String Session :=
  let intoFile (session : Session) : Except String Session :=
    if target = "/dev/stdout" then .ok (session.lead stream (session.outlet 1))
    else if target = "/dev/stderr" then .ok (session.lead stream (session.outlet 2))
    else session.redirectToFile stream mode target
  match mode with
  | .duplicate => session.redirectToStream stream target
  | .read => session.redirectFromFile stream target
  | .document => .ok (session.feed stream (.ofBytes (Text.Octets.toBytes target)))
  | .line => .ok (session.feed stream (.ofBytes (Text.Octets.toBytes (target ++ "\n"))))
  | .write | .force | .append => intoFile session
  | .both | .appendBoth => do
    let led ← intoFile session
    return led.lead 2 (led.outlet 1)

end Session

end Runbook.Shell
