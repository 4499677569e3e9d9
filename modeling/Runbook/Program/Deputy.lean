import Runbook.Decimal.Layout
import Runbook.Decimal.Reading
import Runbook.Program.Numeral
import Runbook.Program.Options

/-!
# Deputies

Programs that start another one in their own place, which may have other surroundings or a limited
time. Times are texts with a letter for their unit.
-/

/-! ## Names of signals

Signals by their names and their numbers. -/

namespace Runbook.Program.SignalName

/-- The numbers of signals. -/
def signals : List (String × Nat) :=
  [("HUP", 1), ("INT", 2), ("QUIT", 3), ("ILL", 4), ("TRAP", 5), ("ABRT", 6), ("BUS", 7),
    ("FPE", 8), ("KILL", 9), ("USR1", 10), ("SEGV", 11), ("USR2", 12), ("PIPE", 13), ("ALRM", 14),
    ("TERM", 15), ("CHLD", 17), ("CONT", 18), ("STOP", 19), ("TSTP", 20), ("TTIN", 21),
    ("TTOU", 22), ("URG", 23), ("XCPU", 24), ("XFSZ", 25), ("VTALRM", 26), ("PROF", 27),
    ("WINCH", 28), ("IO", 29), ("PWR", 30), ("SYS", 31)]

/-- The numbers of the first and the last signal that programs use as they like. -/
def firstFree : Nat := 34

def lastFree : Nat := 64

/-- The name of a signal by its number; one without a name is called by its number. The end of the
shell counts as signal zero. -/
def ofNumber (number : Nat) : String :=
  match signals.find? (·.2 == number) with
  | some (name, _) => name
  | none =>
    let beyond (name sign : String) (distance : Nat) : String :=
      if distance = 0 then name else name ++ sign ++ Decimal.digitText distance
    if number = 0 then "EXIT"
    else if firstFree ≤ number && number ≤ 49 then beyond "RTMIN" "+" (number - firstFree)
    else if 49 < number && number ≤ lastFree then beyond "RTMAX" "-" (lastFree - number)
    else Decimal.digitText number

/-- The number of a signal by its name, in letters of either case, or its number. -/
def number? (text : String) : Option Nat :=
  match Decimal.readNatural lastFree text.toList with
  | some n => some n
  | none => (List.range (lastFree + 1)).find? fun number =>
    ofNumber number == String.ofList (text.toList.map Char.toUpper)

end Runbook.Program.SignalName

/-! ## Deputies -/

namespace Runbook.Program.Tool

/-- The seconds that a unit stands for. -/
def unitSeconds? : List Char → Option Nat
  | [] | ['s'] => some 1
  | ['m'] => some 60
  | ['h'] => some 3600
  | ['d'] => some 86400
  | _ => none

/-- A duration in milliseconds, of which parts are counted as whole; `none` is no duration, and
`some none` is endless. -/
def duration? (text : String) : Option (Option Nat) := do
  let (value, unit) ← Numeral.readReal? text.toList
  let seconds ← unitSeconds? unit
  match value with
  | .finite negative x =>
    if negative && !x.isZero then none
    else
      return some ((x.numerator * seconds * 1000 + x.denominator - 1) / x.denominator)
  | .infinite false => return none
  | _ => none

/-- Wait. -/
def sleep : Tool := fun arguments supply =>
  withOptions supply.name "" arguments fun options =>
    let durations := options.operands.map fun text => (text, duration? text)
    let wrong := durations.filter fun (_, duration) => duration.isNone
    if durations.isEmpty then refuse supply.name "missing operand"
    else if wrong.isEmpty then
      let total := (durations.filterMap (·.2)).foldl (fun sum duration => do
        return (← sum) + (← duration)) (some 0)
      { succeed [] with milliseconds := total }
    else
      fail 1 [] (wrong.map (fun (text, _) =>
          supply.name ++ ": invalid time interval " ++ Mention.marked text)
        ++ [helpHint supply.name])

end Runbook.Program.Tool

/-! ## Starting another program -/

namespace Runbook.Program

/-- How long a program may run, and the signal that hits it then. -/
structure TimeLimit where
  milliseconds : Nat
  signal : Nat
  /-- The status tells of the signal, and not that the time was up. -/
  keepsStatus : Bool
  /-- What is told when the time is up. -/
  notes : List String
deriving DecidableEq, Repr, Inhabited

/-- The signals that end no program. -/
def TimeLimit.harmless : List Nat := [0, 17, 18, 23, 28]

/-- Whether a program goes on after the signal. -/
def TimeLimit.isHarmless (limit : TimeLimit) : Bool := harmless.contains limit.signal

/-- The status after the signal. -/
def TimeLimit.status (limit : TimeLimit) : Nat :=
  if limit.keepsStatus || limit.signal == 9 then 128 + limit.signal else 124

/-- A program to start, with what is different around it. -/
structure Handover where
  program : String
  arguments : List String
  environment? : Option (List (String × String))
  directory? : Option FilePath
  limit? : Option TimeLimit
  /-- What is told before it starts. -/
  notes : List String
  /-- What stands in front of the reason why it cannot be started. -/
  complaint : String
  /-- What is told as well if it is not there. -/
  hint? : Option String
deriving DecidableEq, Repr, Inhabited

/-- What a program makes of its arguments that starts another one: it may also end without
that. -/
abbrev Deputy := (arguments : List String) → (supply : Supply) → Except Run Handover

namespace Handover

/-- A program that starts with nothing changed around it. -/
def plain (complaint program : String) (arguments : List String) : Handover where
  program := program
  arguments := arguments
  environment? := none
  directory? := none
  limit? := none
  notes := []
  complaint := complaint
  hint? := none

/-- The run of a program that cannot be started. -/
def failed (handover : Handover) (cause : StartError) : Run :=
  let (code, reason, hints) : UInt8 × String × List String := match cause with
    | .unreachable .notFound => (127, Tool.reason .notFound, handover.hint?.toList)
    | .unreachable cause => (126, Tool.reason cause, [])
    | .notAllowed => (126, "Permission denied", [])
    | .nulByte => (126, "Invalid argument", [])
    | .tooLong => (126, "Argument list too long", [])
  Tool.fail code [] (handover.notes ++ (handover.complaint ++ ": " ++ reason) :: hints)

end Handover

namespace Deputy

/-- Refuse the arguments and point to the help. -/
def refuse {α : Type} (code : UInt8) (name : String) (complaints : List String) : Except Run α :=
  .error (Tool.fail code [] (complaints.map (name ++ ": " ++ ·)
    ++ [Tool.helpHint name]))

/-- Read the options in front of the program. -/
def options (code : UInt8) (name table : String) (arguments : List String) :
    Except Run Options :=
  match Options.read (.ofText table) Options.isOperand (arguments.length + 1) arguments with
  | .ok options => .ok options
  | .error fault => refuse code name [fault.message]

/-- The complaint of most deputies. -/
def complaint (name program : String) : String :=
  name ++ ": failed to run command " ++ Mention.marked program

/-- Start a program that goes on when the terminal is gone. -/
def nohup : Deputy := fun arguments supply => do
  let options ← options 125 supply.name "" arguments
  match options.operands with
  | [] => refuse 125 supply.name ["missing operand"]
  | program :: arguments => return .plain (complaint supply.name program) program arguments

/-- Start a program in a session of its own. -/
def setsid : Deputy := fun arguments supply =>
  match Options.read (.ofText "c|ctty f|fork w|wait") Options.isOperand (arguments.length + 1)
      arguments with
  | .error fault =>
    .error (Tool.fail 1 [] [supply.name ++ ": " ++ fault.message, Tool.helpHint "setsid"])
  | .ok ⟨_, []⟩ => refuse 1 "setsid" ["no command specified"]
  | .ok ⟨_, program :: arguments⟩ =>
    .ok (.plain ("setsid: failed to execute " ++ program) program arguments)

/-- Whether a text says how a stream is buffered. -/
def isBuffering (text : String) : Bool :=
  text = "L" ||
    match Numeral.readRun Decimal.digit? 10 text.toList with
    | some (_, _, rest) =>
      ["", "b", "K", "k", "KB", "kB", "KiB", "M", "MB", "MiB", "G", "GB", "GiB", "T", "P",
        "E"].contains (String.ofList rest)
    | none => false

/-- Start a program with other buffers, which show in nothing that it writes. -/
def stdbuf : Deputy := fun arguments supply => do
  let own := supply.name
  let options ← options 125 own "i|input: o|output: e|error:" arguments
  for (key, value?) in options.given do
    let mode := value?.getD ""
    if key = "i" ∧ mode = "L" then
      refuse 125 own ["line buffering stdin is meaningless"]
    if !isBuffering mode then
      throw (Tool.fail 125 [] [own ++ ": invalid mode " ++ Mention.marked mode])
  match options.operands with
  | [] => refuse 125 own ["missing operand"]
  | program :: arguments =>
    if options.given.isEmpty then
      refuse 125 own ["you must specify a buffering mode option"]
    return .plain (complaint own program) program arguments

/-! ## Niceness -/

/-- Whether an argument says how much nicer a program is to be, without the letter of the
option. -/
def isAdjustment (argument : String) : Bool :=
  match argument.toList with
  | '-' :: '-' :: c :: _ | '-' :: '+' :: c :: _ | '-' :: c :: _ => c.isDigit
  | _ => false

/-- Read how much nicer a program is to be, and the arguments behind that. -/
def readAdjustment (name : String) : (fuel : Nat) → (given? : Option String) →
    (arguments : List String) → Except Run (Option String × List String)
  | 0, given?, arguments => .ok (given?, arguments)
  | _ + 1, given?, [] => .ok (given?, [])
  | fuel + 1, given?, first :: rest =>
    if isAdjustment first then
      readAdjustment name fuel (some (String.ofList (first.toList.drop 1))) rest
    else if first = "--" then .ok (given?, rest)
    else if Options.isOperand first then .ok (given?, first :: rest)
    else do
      let valued := first = "-n" ∨ first = "--adjustment"
      let options ← options 125 name "n|adjustment:"
        (if valued then first :: rest.take 1 else [first])
      readAdjustment name fuel ((options.value? "n").or given?)
        (if valued then rest.drop 1 else rest)

/-- Start a program that leaves more time to others. -/
def nice : Deputy := fun arguments supply => do
  let own := supply.name
  let (given?, rest) ← readAdjustment own (arguments.length + 1) none arguments
  if let some text := given? then
    if (Numeral.readWhole text.toList).all (!·.2.isEmpty) then
      throw (Tool.fail 125 [] [own ++ ": invalid adjustment " ++ Mention.marked text])
  let change : Int := match given?.bind fun text => Numeral.readWhole text.toList with
    | some (n, _) => max (-20) (min 19 n)
    | none => 10
  match rest with
  | [] =>
    if given?.isSome then refuse 125 own ["a command must be given with an adjustment"]
    else throw (Tool.line "0")
  | ["nice"] => throw (Tool.line (toString change))
  | program :: arguments =>
    return .plain (own ++ ": " ++ Mention.marked program) program arguments

/-! ## Limited time -/

/-- The signal that a text names, which may begin with three letters that all of them share. -/
def signal? (text : String) : Option Nat :=
  let chars := text.toList.map Char.toUpper
  SignalName.number? (String.ofList (if "SIG".toList.isPrefixOf chars then chars.drop 3 else chars))

/-- A time that may be endless: an endless one, or none, is no limit. -/
def readLimit (name text : String) : Except Run (Option Nat) :=
  match Tool.duration? text with
  | some time => .ok (time.filter (0 < ·))
  | none => refuse 125 name ["invalid time interval " ++ Mention.marked text]

/-- Start a program that may run for some time. -/
def timeout : Deputy := fun arguments supply => do
  let own := supply.name
  let options ← options 125 own
    "|foreground k|kill-after: |preserve-status s|signal: v|verbose" arguments
  for (key, value?) in options.given do
    let text := value?.getD ""
    if key = "k" then
      let _ ← readLimit own text
    if key = "s" ∧ (signal? text).isNone then
      throw (Tool.fail 125 [] [own ++ ": " ++ Mention.marked text ++ ": invalid signal",
        Tool.helpHint own])
  let signal := ((options.value? "s").bind signal?).getD 15
  match options.operands with
  | [] | [_] => refuse 125 own []
  | limit :: program :: arguments =>
    let notes := if options.has "v" then
        [own ++ ": sending signal " ++ SignalName.ofNumber signal ++ " to command "
          ++ Mention.marked program]
      else []
    let time? ← readLimit own limit
    let limit? : Option TimeLimit := time?.map fun time =>
      ⟨time, signal, options.has "preserve-status", notes⟩
    return { Handover.plain (complaint own program) program arguments with limit? := limit? }

end Deputy

end Runbook.Program
