import Runbook.Program.Deputy
import Runbook.Program.Lines
import Runbook.Program.Tool

/-!
# Arguments from input

A program that divides its input into items and starts another program with them, once or many
times. The input is first read as marks, the marks are then put into batches, and the batches are
run one after the other.
-/

namespace Runbook.Program

namespace ArgumentFeed

/-! ## Reading the input -/

/-- What the input says, one after the other. -/
inductive Mark where
  | item (text : String)
  /-- A line is over that does not go on in the next one. -/
  | lineEnd
  /-- The input cannot be read on. -/
  | broken (complaint : String)
deriving DecidableEq, Repr, Inhabited

/-- How the input is divided. -/
structure Division where
  /-- The byte that stands between items, if there are no quotes. -/
  delimiter? : Option UInt8
  /-- The item that ends the input. -/
  last? : Option String
  /-- Items are whole lines, without the blanks in front of them. -/
  byLines : Bool
deriving DecidableEq, Repr, Inhabited

/-- Where a reader of quoted items stands. -/
inductive Stance where
  | between
  | inside
  | quoted (mark : Char)
  | escaped
  | over
deriving DecidableEq, Repr, Inhabited

/-- A reader of quoted items: the item that it reads, with its last character first, and the marks
behind it, with the last one first. -/
structure Scan where
  stance : Stance
  item : List Char
  previous? : Option Char
  marks : List Mark
deriving DecidableEq, Repr, Inhabited

namespace Scan

/-- A reader in front of the input. -/
def start : Scan := ⟨.between, [], none, []⟩

/-- Whether a character ends an item. -/
def isGap (c : Char) : Bool := c == ' ' || c == '\t'

/-- The text of the item, which a null byte ends early. -/
def text (scan : Scan) : String := String.ofList (scan.item.reverse.takeWhile (· != '\x00'))

/-- The item is over, and perhaps the input with it. -/
def endItem (division : Division) (scan : Scan) : Scan :=
  if division.last? = some scan.text then { scan with stance := .over }
  else { scan with stance := .between, item := [], marks := .item scan.text :: scan.marks }

/-- The line is over, unless a blank stands at its end. -/
def endLine (scan : Scan) : Scan :=
  if scan.previous?.any isGap || scan.stance = .over then scan
  else { scan with marks := .lineEnd :: scan.marks }

/-- The quote is not closed. -/
def breakOff (mark : Char) (scan : Scan) : Scan :=
  let complaint := "unmatched " ++ (if mark = '"' then "double" else "single")
    ++ " quote; by default quotes are special to xargs unless you use the -0 option"
  { scan with stance := .over, marks := .broken complaint :: scan.marks }

/-- Put a character behind the item. -/
def push (c : Char) (scan : Scan) : Scan := { scan with item := c :: scan.item }

/-- Read a character of an item that stands in no quotes. -/
def readInside (division : Division) (c : Char) (scan : Scan) : Scan :=
  if c = '\n' then (scan.endItem division).endLine
  else if isGap c && !division.byLines then scan.endItem division
  else if c = '\\' then { scan with stance := .escaped }
  else if c = '"' ∨ c = '\'' then { scan with stance := .quoted c }
  else { scan.push c with stance := .inside }

/-- Read a character. -/
def step (division : Division) (scan : Scan) (c : Char) : Scan :=
  let scan := match scan.stance with
    | .between => if Numeral.isBlank c then scan else scan.readInside division c
    | .inside => scan.readInside division c
    | .quoted mark =>
      if c = '\n' then scan.breakOff mark
      else if c = mark then { scan with stance := .inside }
      else scan.push c
    | .escaped => { scan.push c with stance := .inside }
    | .over => scan
  { scan with previous? := some c }

/-- The input is over. An item without characters does not count here. -/
def finish (division : Division) (scan : Scan) : Scan :=
  match scan.stance, scan.item with
  | .over, _ | _, [] => scan
  | .quoted mark, _ => scan.breakOff mark
  | _, _ => scan.endItem division

end Scan

/-- The marks of an input. More of an endless one would come, and so its last item is not over. -/
def Division.marks (division : Division) (bytes : List UInt8) (endless : Bool) : List Mark :=
  match division.delimiter? with
  | some delimiter =>
    let records := Tool.bareRecords delimiter bytes
    (if endless then records.dropLast else records).flatMap fun record =>
      [.item (Text.Octets.ofBytes record), .lineEnd]
  | none =>
    let scan := (Text.Octets.chars bytes).foldl (Scan.step division) Scan.start
    (if endless then scan else scan.finish division).marks.reverse

/-! ## Batches -/

/-- What is to be done: run a program with some items, or give up. -/
inductive Batch where
  | items (texts : List String)
  | failure (complaint : String)
deriving DecidableEq, Repr, Inhabited

/-- How large batches may become. -/
structure Bounds where
  itemsEach? : Option Nat
  linesEach? : Option Nat
  /-- How long a command line may be, with a byte behind each of its words. -/
  length : Nat
  /-- A batch that is cut short by its length is a failure. -/
  exact : Bool
deriving DecidableEq, Repr, Inhabited

/-- The length of some words, with a byte behind each. -/
def lengthOf (words : List String) : Nat := (words.map fun word => word.length + 1).sum

/-- A batch that is filled, with its last item first, and the batches before it, with the last one
first. -/
structure Filling where
  waiting : List String
  /-- The length of the command line so far. -/
  length : Nat
  lines : Nat
  batches : List Batch
  isOver : Bool
deriving DecidableEq, Repr, Inhabited

namespace Filling

/-- The batch is over, if there is something in it. -/
def close (own : Nat) (filling : Filling) : Filling :=
  if filling.waiting.isEmpty then filling
  else { filling with
    waiting := []
    length := own
    batches := .items filling.waiting.reverse :: filling.batches }

/-- Nothing more can be done. -/
def giveUp (complaint : String) (filling : Filling) : Filling :=
  { filling with waiting := [], batches := .failure complaint :: filling.batches, isOver := true }

/-- Nothing more can be read, and what was read is used if it may be cut short. -/
def breakOff (bounds : Bounds) (own : Nat) (complaint : String) (filling : Filling) : Filling :=
  (if bounds.exact then filling else filling.close own).giveUp complaint

/-- Put an item into the batch, and close it if it is full. -/
def push (bounds : Bounds) (own : Nat) (text : String) (filling : Filling) : Filling :=
  let filling := { filling with
    waiting := text :: filling.waiting
    length := filling.length + text.length + 1 }
  if bounds.itemsEach? = some filling.waiting.length then filling.close own else filling

/-- Go on with a mark, given the length of the command line without items. -/
def step (bounds : Bounds) (own : Nat) (filling : Filling) (mark : Mark) : Filling :=
  if filling.isOver then filling
  else
    match mark with
    | .item text =>
      if bounds.length < own + text.length + 1 then
        filling.breakOff bounds own "argument line too long"
      else if filling.length + text.length + 1 ≤ bounds.length then
        filling.push bounds own text
      else if bounds.exact && (bounds.itemsEach?.isSome || bounds.linesEach?.isSome) then
        filling.giveUp "argument list too long"
      else (filling.close own).push bounds own text
    | .lineEnd =>
      let lines := filling.lines + 1
      if bounds.linesEach?.any (· ≤ lines) then { filling.close own with lines := 0 }
      else { filling with lines := lines }
    | .broken complaint => filling.breakOff bounds own complaint

end Filling

/-- The batches of some marks. -/
def Bounds.batches (bounds : Bounds) (own : Nat) (marks : List Mark) : List Batch :=
  if bounds.length < own then
    [.failure "can not fit single argument within argument list size limit"]
  else
    let filling := marks.foldl (Filling.step bounds own) ⟨[], own, 0, [], false⟩
    (filling.close own).batches.reverse

/-- A text with an item in all places where some other text stands. -/
def replaceIn (place item : String) (text : String) : String :=
  if place = "" then text
  else
    let replaced := text.replace place item
    String.ofList (replaced.toList.takeWhile (· != '\x00'))

/-! ## The plan -/

/-- What is to be done with the input. -/
structure Plan where
  division : Division
  bounds : Bounds
  /-- The text in whose places the item of a line stands. -/
  replace? : Option String
  /-- The program runs even if there are no items. -/
  runsEmpty : Bool
  /-- Each command line is told. -/
  tells : Bool
  file? : Option String
  warnings : List String
deriving Repr, Inhabited

namespace Plan

/-- A plan without options. -/
def usual : Plan where
  division := ⟨none, none, false⟩
  bounds := ⟨none, none, 131072, false⟩
  replace? := none
  runsEmpty := true
  tells := false
  file? := none
  warnings := []

/-- What is wrong with the value of an option. -/
structure Fault where
  complaint : String
  /-- The help is mentioned as well. -/
  pointsToHelp : Bool
deriving DecidableEq, Repr, Inhabited

/-- The number behind an option. -/
def readNumber (key text : String) : Except Fault Int :=
  let (negative, digits) := Numeral.splitSign (text.toList.dropWhile Numeral.isBlank)
  match Numeral.readRun Decimal.digit? 10 digits with
  | some (n, _, []) => return (if negative then -(n : Int) else n)
  | _ =>
    throw ⟨"invalid number \"" ++ text ++ "\" for -" ++ key ++ " option", true⟩

/-- The complaint about a number that is too small. -/
def tooSmall (key text : String) (least : Nat) : String :=
  "value " ++ text ++ " for -" ++ key ++ " option should be >= " ++ Decimal.digitText least

/-- The number behind an option, which must not be smaller than some other. -/
def readNumberFrom (least : Nat) (key text : String) : Except Fault Nat := do
  let n ← readNumber key text
  if n < least then throw ⟨tooSmall key text least, true⟩
  return n.toNat

/-- What is wrong with an escape as a delimiter, without its wording so far. -/
def escapeFault (text why : String) : Fault :=
  ⟨"Invalid escape sequence " ++ text ++ " in input delimiter specification" ++ why ++ ".", false⟩

/-- The byte that a number in an escape stands for. -/
def readEscapedNumber (digit? : Char → Option Nat) (base : Nat) (greatest text : String)
    (digits : List Char) : Except Fault UInt8 :=
  let (value?, rest) := readDigits digit? base digits.length none digits
  let value := value?.getD 0
  if 255 < value then
    throw (escapeFault text ("; character values must not exceed " ++ greatest))
  else if rest.isEmpty then return value.toUInt8
  else
    throw (escapeFault text
      ("; trailing characters " ++ String.ofList rest ++ " not recognised"))

/-- The byte that a text names as a delimiter. -/
def readDelimiter (text : String) : Except Fault UInt8 :=
  match text.toList with
  | [c] => return Text.Octets.byte c
  | '\\' :: 'x' :: digits => readEscapedNumber Http.Percent.hexValue 16 "ff" text digits
  | '\\' :: c :: rest =>
    if c.isDigit then readEscapedNumber octalDigit? 8 "377" text (c :: rest)
    else
      match if c = 'e' then none else escapedLetter? c with
      | some byte => return byte
      | none => throw (escapeFault text "")
  | _ =>
    throw ⟨"Invalid input delimiter specification " ++ text ++ ": the delimiter must be either "
      ++ "a single character or an escape sequence starting with \\.", false⟩

/-- Warn if an option before rules out what comes now. -/
def warn (isGiven : Bool) (before now : String) (plan : Plan) : Plan :=
  if isGiven then
    { plan with warnings := plan.warnings ++ ["warning: options --" ++ before ++ " and " ++ now
      ++ " are mutually exclusive, ignoring previous --" ++ before ++ " value"] }
  else plan

/-- Replace a text by lines. -/
def replacing (place : String) (plan : Plan) : Plan :=
  let now := "--replace/-I/-i"
  let plan := (plan.warn plan.bounds.itemsEach?.isSome "max-args" now).warn
    plan.bounds.linesEach?.isSome "max-lines" now
  { plan with
    replace? := some place
    bounds := { plan.bounds with itemsEach? := none, linesEach? := none } }

/-- Take some lines at once. -/
def withLines (now : String) (lines : Nat) (plan : Plan) : Plan :=
  let plan := (plan.warn plan.bounds.itemsEach?.isSome "max-args" now).warn
    plan.replace?.isSome "replace" now
  { plan with
    replace? := none
    bounds := { plan.bounds with itemsEach? := none, linesEach? := some lines } }

/-- Take some items at once. A single one is no contradiction to a text that it replaces. -/
def withItems (items : Nat) (plan : Plan) : Plan :=
  if items = 1 && plan.replace?.isSome then plan
  else
    let now := "--max-args/-n"
    let plan := (plan.warn plan.bounds.linesEach?.isSome "max-lines" now).warn
      plan.replace?.isSome "replace" now
    { plan with
      replace? := none
      bounds := { plan.bounds with itemsEach? := some items, linesEach? := none } }

/-- Limit the length of a command line. -/
def withLength (text : String) (plan : Plan) : Except Fault Plan := do
  let n ← readNumber "s" text
  let plan := if n < 1 then { plan with warnings := plan.warnings ++ [tooSmall "s" text 1] }
    else plan
  return { plan with bounds := { plan.bounds with length := min 131072 (max 1 n).toNat } }

/-- A text as the value of an option that an empty one takes away. -/
def nonEmpty (text : String) : Option String := if text = "" then none else some text

/-- Change a plan by an option. -/
def give (plan : Plan) : (option : String × Option String) → Except Fault Plan
  | ("0", _) => return { plan with division := { plan.division with delimiter? := some 0 } }
  | ("a", some path) => return { plan with file? := some path }
  | ("d", some text) => do
    let delimiter ← readDelimiter text
    return { plan with division := { plan.division with delimiter? := some delimiter } }
  | ("E", text?) | ("e", text?) =>
    return { plan with division := { plan.division with last? := text?.bind nonEmpty } }
  | ("I", place?) | ("i", place?) => return plan.replacing (place?.getD "\x7b\x7d")
  | ("L", some text) => return plan.withLines "-L" (← readNumberFrom 1 "L" text)
  | ("l", none) => return plan.withLines "--max-lines/-l" 1
  | ("l", some text) => return plan.withLines "--max-lines/-l" (← readNumberFrom 1 "l" text)
  | ("n", some text) => return plan.withItems (← readNumberFrom 1 "n" text)
  | ("P", some text) => do
    let _ ← readNumberFrom 0 "P" text
    return plan
  | ("r", _) => return { plan with runsEmpty := false }
  | ("s", some text) => plan.withLength text
  | ("t", _) => return { plan with tells := true }
  | ("x", _) => return { plan with bounds := { plan.bounds with exact := true } }
  | _ => return plan

/-- The options. -/
def table : String :=
  "0|null a|arg-file: d|delimiter: E: e|eof? I: i|replace? L: l|max-lines? n|max-args: "
    ++ "o|open-tty p|interactive r|no-run-if-empty s|max-chars: t|verbose x|exit P|max-procs: "
    ++ "|process-slot-var:"

/-- The plan that options describe. -/
def ofOptions (given : List (String × Option String)) : Except Fault Plan := do
  let plan ← given.foldlM give usual
  let division := plan.division
  let useless := division.delimiter?.isSome && division.last?.isSome
  return { plan with
    division := ⟨division.delimiter?, division.last?, plan.replace?.isSome⟩
    bounds := { plan.bounds with exact := plan.bounds.exact || plan.bounds.linesEach?.isSome }
    warnings := plan.warnings ++ (if useless then
      ["warning: the -E option has no effect if -0 or -d is used.\n"] else []) }

/-- How many command lines are run at most with an endless input. -/
def mostEndless : Nat := 2000

/-- The command lines for the items of an input. -/
def commandLines (plan : Plan) (program : String) (arguments : List String) (input : Input) :
    List Batch :=
  let own := lengthOf (program :: arguments)
  let marks := plan.division.marks input.bytes input.endless
  match plan.replace? with
  | some place =>
    marks.filterMap fun
      | .item text =>
        let words := arguments.map (replaceIn place text)
        if plan.bounds.length < lengthOf (program :: words) then
          some (.failure "argument list too long")
        else some (.items words)
      | .lineEnd => none
      | .broken complaint => some (.failure complaint)
  | none =>
    let batches := plan.bounds.batches own marks
    let batches := if input.endless then batches.dropLast.take mostEndless else batches
    (if batches.isEmpty && plan.runsEmpty then [.items []] else batches).map fun
      | .items texts => .items (arguments ++ texts)
      | .failure complaint => .failure complaint

end Plan

/-! ## Running -/

/-- What was done so far, and what was written, the last first. -/
structure Course (σ : Type) where
  /-- The name by which the program was called. -/
  name : String
  state : σ
  written : Writings
  milliseconds : Option Nat
  code : UInt8
  isOver : Bool

namespace Course

variable {σ : Type}

/-- Nothing was done yet. -/
def start (name : String) (state : σ) : Course σ := ⟨name, state, [], some 0, 0, false⟩

/-- Complain, with the name of the program in front. -/
def complain (text : String) (course : Course σ) : Course σ :=
  { course with written := Tool.told (course.name ++ ": " ++ text) :: course.written }

/-- End with a code. -/
def stop (code : UInt8) (course : Course σ) : Course σ :=
  { course with code := code, isOver := true }

/-- Take what a program has done. One that ends with code 255 ends everything, and so does one that
is ended by a signal. -/
def take (program : String) (run : Run) (course : Course σ) : Course σ :=
  let course := { course with
    written := run.written.reverse ++ course.written
    milliseconds := do return (← course.milliseconds) + (← run.milliseconds)
    isOver := run.milliseconds.isNone }
  match run.status with
  | .exited 0 => course
  | .exited 255 => (course.complain (program ++ ": exited with status 255; aborting")).stop 124
  | .exited _ => { course with code := 123 }
  | .killed signal =>
    (course.complain (program ++ ": terminated by signal " ++ Decimal.digitText signal)).stop 125

/-- Run a batch. -/
def step (host : Host σ) (tells : Bool) (input : Input) (program : String) (course : Course σ)
    (batch : Batch) : Course σ :=
  if course.isOver then course
  else
    match batch with
    | .failure complaint => (course.complain complaint).stop 1
    | .items arguments =>
      let line := " ".intercalate ((program :: arguments).map Mention.shellWord)
      let course := if tells then
          { course with written := Tool.told line :: course.written }
        else course
      match host.start course.state input program arguments with
      | (.ok run, state) => take program run { course with state := state }
      | (.error cause, state) =>
        let complaint := course.name ++ ": " ++ program
        let run := (Handover.plain complaint program arguments).failed cause
        { course with
          state := state
          written := run.written.reverse ++ course.written
          code := match run.status with
            | .exited code => code
            | .killed _ => 126
          isOver := true }

/-- The run as a whole. -/
def toRun (endless : Bool) (course : Course σ) : Run × σ :=
  ({ status := .exited course.code
     written := course.written.reverse
     milliseconds := if endless && !course.isOver then none else course.milliseconds },
    course.state)

end Course

/-- Carry out a plan. A program that is started reads the input only if the items come from a
file. -/
def Plan.carryOut {σ : Type} (plan : Plan) (host : Host σ) (name program : String)
    (arguments : List String) (input : Input) (state : σ) : Run × σ :=
  let course := plan.warnings.foldl (fun course text => course.complain text)
    (Course.start name state)
  let source : Except String Input := match plan.file? with
    | none | some "-" => .ok input
    | some path =>
      match Tool.supplied (host.supply name input state) path with
      | .ok bytes => .ok (.ofBytes bytes)
      | .error .isADirectory => .ok .none
      | .error cause =>
        .error ("Cannot open input file " ++ Mention.marked path ++ ": " ++ Tool.reason cause)
  match source with
  | .error complaint => ((course.complain complaint).stop 1).toRun false
  | .ok items =>
    let course := if plan.division.delimiter?.isNone && items.bytes.contains 0 then
        course.complain ("WARNING: a NUL character occurred in the input.  It cannot be passed "
          ++ "through in the argument list.  Did you mean to use the --null option?")
      else course
    let ownInput := if plan.file?.isSome then input else .none
    ((plan.commandLines program arguments items).foldl
      (Course.step host plan.tells ownInput program) course).toRun items.endless

end ArgumentFeed

/-- Start a program with the items of the input as its arguments. -/
def xargs : Errand where
  run host name arguments input state :=
    let refuse (text : String) : Run := Tool.refuse name text
    match Options.read (.ofText ArgumentFeed.Plan.table) Options.isOperand (arguments.length + 1)
        arguments with
    | .error fault => (refuse fault.message, state)
    | .ok options =>
      match ArgumentFeed.Plan.ofOptions options.given with
      | .error ⟨complaint, true⟩ => (refuse complaint, state)
      | .error ⟨complaint, false⟩ => (Tool.fail 1 [] [name ++ ": " ++ complaint], state)
      | .ok plan =>
        plan.carryOut host name (options.operands.headD "echo") options.operands.tail input state

end Runbook.Program
