import Runbook.Regex.Reader
import Runbook.Shell.Extended.Condition
import Runbook.Shell.Extended.Declaration
import Runbook.Shell.Extended.Directory
import Runbook.Shell.Extended.Input
import Runbook.Shell.Extended.Meaning
import Runbook.Shell.Extended.Parameter
import Runbook.Shell.Extended.Printf
import Runbook.Shell.Extended.Setting
import Runbook.Shell.Extended.Signal
import Runbook.Shell.LineInput
import Runbook.Shell.OwnOption

/-!
# Commands of a shell of the extended language

The commands that the shell carries out without a program, by their names. Some of them check
conditions on words whose values have been put in before.
-/

namespace Runbook.Shell

namespace Session

open Extended

/-- The number that an expression stands for. A fault is told, with a text in front of it. -/
def reckon (session : Session) (front text : String) : Session × Option Int :=
  let (done, value?) := session.calculateFor front text
  (if done.flow = .dropped then { done with flow := .on } else done, value?)

/-- The expression that characters write, of which those that are quoted stand for themselves. -/
def expressionOf (marked : Field) : List Char :=
  marked.flatMap fun (quoted, c) =>
    if quoted && ".[]*^$+?()\x7b\x7d|\\".toList.contains c then ['\\', c] else [c]

/-- Look for an expression in a text, and remember what it and its groups have matched. -/
def search (session : Session) (text : String) (marked : Field) : Session × Option Bool :=
  match Regex.read ⟨true, false, session.isFolded, true, true⟩ (expressionOf marked) with
  | .error _ => (session, none)
  | .ok regex =>
    match Regex.search? false regex (.start text.toList) with
    | none => (session.putTable "BASH_REMATCH" (.indexed []), some false)
    | some found =>
      let groups := (List.range (regex.groupCount + 1)).map fun n => String.ofList (found.group n)
      (session.putTable "BASH_REMATCH" (.ofValues groups), some true)

/-- Whether a comparison of two numbers holds. -/
def compare (session : Session) (left operator right : String) : Session × Option Bool :=
  match session.reckon "[[: " left with
  | (session, none) => (session, some false)
  | (session, some n) =>
    match session.reckon "[[: " right with
    | (session, none) => (session, some false)
    | (session, some m) =>
      (session, (Program.Condition.compare? operator).map fun holds => holds n m)

/-- Whether a check on two words holds. It is not known if the second one is no expression. -/
def checkPair (session : Session) (left : List Fragment) (operator : String)
    (right : List Fragment) : Session × Option Bool :=
  let text := Fragment.joined left
  let other := Fragment.joined right
  match operator with
  | "=" | "==" | "!=" =>
    let covers := Glob.covers session.isFolded (Glob.read true (Fragment.marked right)) text.toList
    (session, some (covers == (operator != "!=")))
  | "=~" => session.search text (Fragment.marked right)
  | "<" => (session, some (text < other))
  | ">" => (session, some (other < text))
  | "-nt" | "-ot" | "-ef" =>
    (session, (Condition.binary session text operator other).toOption)
  | _ => session.compare text operator other

/-! ## Traces -/

/-- A word as it stands in a trace. -/
def traced (text : String) : String := if text = "" then "''" else Quotation.careful text

/-- What stands in front of a traced command: the first character once for each script that is read
by a command of another one. -/
def traceFront (session : Session) : String :=
  match ((session.bindings.get? "PS4").getD "").toList with
  | [] => ""
  | c :: rest => String.ofList (List.replicate (max 1 session.nesting) c ++ rest)

/-- Write a text to where commands are traced, if they are. -/
def traceText (session : Session) (text : String) : Session :=
  if session.switches.traced then
    session.writeComplaint (Text.Octets.toBytes (session.traceFront ++ text ++ "\n"))
  else session

/-- The pattern of a check as it stands in a trace. -/
def tracedPattern (fragments : List Fragment) : String :=
  let text := String.ofList ((Fragment.marked fragments).flatMap fun (quoted, c) =>
    if quoted then ['\\', c] else [c])
  if text = "" then "''" else text

/-- The trace of a check on two words, behind what opens it. -/
def tracedPair (left : List Fragment) (operator : String) (right : List Fragment) : String :=
  let shown := if ["=", "==", "!=", "=~"].contains operator then tracedPattern right
    else traced (Fragment.joined right)
  traced (Fragment.joined left) ++ " " ++ operator ++ " " ++ shown ++ " ]]"

/-- What opens the trace of a check. -/
def checkFront (negated : Bool) : String := if negated then "[[ ! " else "[[ "

end Session

/-! ## Texts and conditions -/

namespace Session

open Extended

/-- Write what a command of the shell itself has to write, if there is a place to write it to. -/
def say (session : Session) (name : String) (bytes : List UInt8) : Session :=
  if bytes.isEmpty || (session.streams.lookup 1).isSome then (session.write bytes).finish 0
  else session.dispute name "write error: Bad file descriptor"

/-- The letters of the options in front of a text to be written, and the text. -/
def echoOptions : List String → List Char × List String
  | [] => ([], [])
  | argument :: rest =>
    match argument.toList with
    | '-' :: letters =>
      if !letters.isEmpty && letters.all "neE".toList.contains then
        let (later, rest) := echoOptions rest
        (letters ++ later, rest)
      else ([], argument :: rest)
    | _ => ([], argument :: rest)

/-- Write words, with escapes taken if that is asked for. -/
def echoWords (session : Session) (arguments : List String) : Session :=
  let (letters, words) := echoOptions arguments
  let escapes := match (letters.filter (· != 'n')).getLast? with
    | some letter => letter == 'e'
    | none => session.extras.contains "xpg_echo"
  let text := " ".intercalate words
  let (chars, goesOn) := if escapes then Printf.unescape .echo (text.length + 1) text.toList
    else (text.toList, true)
  let ending := if letters.contains 'n' || !goesOn then [] else ['\n']
  session.say "echo" (Text.Octets.toBytes (String.ofList (chars ++ ending)))

/-- The text of a moment in some form. -/
def momentText (session : Session) (form : String) (seconds : Int) : String :=
  let zone := Program.Date.zoneOf ((session.bindings.get? "TZ").getD "")
  let form := if form = "" then "%X" else form
  Program.Date.text (.ofMoment ⟨seconds, 0⟩ zone) form

/-- Write arguments in a format, or give what is written to a variable. -/
def format (session : Session) (arguments : List String) : Session :=
  session.withChoices "printf" "" "v" arguments fun options =>
    match options.operands with
    | [] => session.misuse "printf"
    | form :: arguments =>
      let now := Program.Date.present.seconds
      let page := Printf.write now (session.momentText) form arguments
      let told (session : Session) : Session :=
        page.complaints.foldl (fun session text => session.dispute "printf" text) session
      match options.last? 'v' with
      | none =>
        let done := session.say "printf" page.bytes
        if page.complaints.isEmpty then done else told done
      | some target =>
        let (name, index?) := Calculation.splitElement target
        if !isName name then (session.disputeName "printf" target).finish 2
        else
          let text := String.ofList (Text.Octets.chars page.bytes)
          let given := session.offer name (index?.map Calculation.unquoted) text
          if given.status != 0 then given else told given

/-- Test a condition. -/
def testWords (session : Session) (name : String) (arguments : List String) : Session :=
  match Condition.holds session arguments with
  | (session, .ok true) => session.finish 0
  | (session, .ok false) => session.finish 1
  | (session, .error text) => (session.dispute name text).finish 2

end Session

/-! ## Commands by their names -/

namespace Session

open Extended

/-- Carry out a command that takes a number, which may be left out. A wrong one is told, and leads
to a status of its own. -/
def withNumber (session : Session) (name : String) (usual : Int) (arguments : List String)
    (wrong : Session → Session) (action : Int → Session) : Session :=
  let arguments := if arguments.head? = some "--" then arguments.tail else arguments
  match arguments with
  | [] => action usual
  | text :: rest =>
    match wholeNumber? text, rest with
    | none, _ => wrong (session.dispute name (text ++ ": numeric argument required"))
    | some _, _ :: _ => session.drop (name ++ ": too many arguments")
    | some n, [] => action n

/-- The status that a number stands for. -/
def statusOf (n : Int) : Nat := (n % 256).toNat

/-- End the shell. -/
def exitWith (session : Session) (arguments : List String) : Session :=
  session.withNumber "exit" session.status arguments
    (fun session => { session with status := 2, flow := .ended })
    fun n => { session with status := statusOf n, flow := .ended }

/-- Return from a function or a script that another one reads. -/
def returnWith (session : Session) (arguments : List String) : Session :=
  if session.frames.all (·.name == "main") then
    (session.dispute "return"
      "can only \x60return' from a function or sourced script").finish 2
  else
    session.withNumber "return" session.status arguments
      (fun session => { session with status := 2, flow := .returned })
      fun n => { session with status := statusOf n, flow := .returned }

/-- Leave loops, or begin their next rounds. -/
def leaveLoops (session : Session) (name : String) (flow : Nat → Flow) (arguments : List String) :
    Session :=
  if session.loops = 0 then
    (session.complain
      (name ++ ": only meaningful in a \x60for', \x60while', or \x60until' loop")).finish 0
  else
    session.withNumber name 1 arguments
      (fun session => { session with status := 128, flow := .ended })
      fun n =>
        if n ≤ 0 then
          let told := session.dispute name ((toString n) ++ ": loop count out of range")
          { told with flow := .leaving session.loops }
        else { session with flow := flow (min n.toNat session.loops), status := 0 }

/-- Work out expressions. The last one decides on the status. -/
def letWords (session : Session) (arguments : List String) : Session :=
  if arguments.isEmpty then session.dispute "let" "expression expected"
  else
    arguments.foldl (fun session text =>
      if !session.isOn then session
      else
        match session.reckon "let: " text with
        | (session, none) => session.finish 1
        | (session, some n) => session.finish (if n = 0 then 1 else 0)) session

/-- A command that declares variables. -/
def declareWith (session : Session) (name : String) (arguments : List Declared) : Session :=
  match name with
  | "export" => session.exportWords arguments
  | "readonly" => session.fixWords arguments
  | name => session.declareAll name arguments

/-- A command of the shell itself, if it is one that needs no other command. -/
def extendedBuiltin? (session : Session) (name : String) (arguments : List String) :
    Option Session :=
  match name with
  | ":" | "true" => some (session.finish 0)
  | "false" => some (session.finish 1)
  | "echo" => some (session.echoWords arguments)
  | "printf" => some (session.format arguments)
  | "test" => some (session.testWords name arguments)
  | "[" =>
    some (if arguments.getLast? = some "]" then session.testWords name arguments.dropLast
      else (session.dispute "[" "missing \x60]'").finish 2)
  | "cd" => some (session.goDirectory arguments)
  | "pwd" => some (session.sayDirectory arguments)
  | "pushd" => some (session.pushDirectory arguments)
  | "popd" => some (session.popDirectory arguments)
  | "dirs" => some (session.showPile arguments)
  | "read" => some (session.readText arguments)
  | "mapfile" | "readarray" => some (session.readLines name arguments)
  | "declare" | "typeset" | "local" | "export" | "readonly" =>
    some (session.declareWith name (arguments.map .field))
  | "unset" => some (session.unsetWords arguments)
  | "let" => some (session.letWords arguments)
  | "set" => some (session.setWords arguments)
  | "shopt" => some (session.shopt arguments)
  | "shift" => some (session.shiftWords arguments)
  | "getopts" => some (session.findChoice arguments)
  | "umask" => some (session.maskWords arguments)
  | "ulimit" => some (session.boundWords arguments)
  | "type" => some (session.typeWords arguments)
  | "hash" => some (session.hashWords arguments)
  | "alias" => some (session.aliasWords arguments)
  | "unalias" => some (session.unaliasWords arguments)
  | "enable" => some (session.enableWords arguments)
  | "caller" => some (session.callerWords arguments)
  | "trap" => some (session.trapWords arguments)
  | "kill" => some (session.killWords arguments)
  | "wait" => some (session.waitWords arguments)
  | "exit" => some (session.exitWith arguments)
  | "return" => some (session.returnWith arguments)
  | "break" => some (session.leaveLoops name .leaving arguments)
  | "continue" => some (session.leaveLoops name .skipping arguments)
  | "times" =>
    let zero := "0m0.000s 0m0.000s\n"
    some ((session.write (Text.Octets.toBytes (zero ++ zero))).finish 0)
  | "fg" | "bg" => some (session.dispute name "no job control")
  | "suspend" => some (session.dispute name "cannot suspend: no job control")
  | "logout" => some (session.dispute name "not login shell: use \x60exit'")
  | "disown" =>
    let target := arguments.headD "current"
    some (session.dispute name (target ++ ": no such job"))
  | "compgen" =>
    some ((session.sayLines (if arguments = ["-b"] then extendedNames else [])).finish 0)
  | "jobs" | "help" | "history" | "fc" | "complete" | "compopt" => some (session.finish 0)
  | "bind" =>
    some ((session.complain "bind: warning: line editing not enabled").finish 0)
  | _ => none

end Session

end Runbook.Shell
