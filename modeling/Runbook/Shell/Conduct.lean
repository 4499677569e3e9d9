import Runbook.Shell.Builtin
import Runbook.Shell.Extended.Braces
import Runbook.Shell.Extended.Builtin
import Runbook.Shell.Inheritance
import Runbook.Shell.PathPattern
import Runbook.Shell.Session
import Runbook.Shell.Tilde

/-!
# Conduct

What a session makes of the parts of a script before and behind them: failures, loops, shells of
their own, and traces. Passages are files that stand for what a script writes or reads; they are
there while the command runs that was given their paths.
-/

namespace Runbook.Shell

namespace Session

/-- The directory of passages. -/
def passageHome : FilePath := ["dev", "fd"]

/-- Open a passage that holds some bytes, and is read by a script if there is one. -/
def openPassage (session : Session) (bytes : List UInt8) (reader? : Option (Nat × List Char)) :
    Session × String :=
  let number := Decimal.digitText (63 - session.passages.length % 60)
  let path := passageHome ++ [number]
  let tree := session.tree.put passageHome .directory
  ({ session with
    tree := tree.put path (.file bytes)
    opened := session.opened.filter (·.1 != path)
    passages := (path, reader?) :: session.passages }, Program.Tool.pathText path)

/-- What stands in a passage. -/
def passageBytes (session : Session) (path : FilePath) : List UInt8 :=
  match session.opened.lookup path, session.tree.entry? path with
  | some place, _ => session.placeBytes place
  | none, some (.file bytes _) => bytes
  | none, _ => []

/-- Take away a passage. -/
def closePassage (session : Session) (path : FilePath) : Session :=
  let passages := session.passages.filter (·.1 != path)
  let tree := session.tree.erase path
  { session with
    tree := if passages.isEmpty then tree.erase passageHome else tree
    opened := session.opened.filter (·.1 != path)
    passages := passages }

end Session

/-! ## Failures and loops -/

namespace Session

/-- Run a part of a script and take what it writes. -/
def captured (session : Session) (part : Session → Session) : Session × List UInt8 :=
  let place := session.places.size
  let inner := part { session.lead 1 place with
    places := session.places.push #[]
    subshells := session.subshells + 1 }
  let settled := inner.waitForPlace session.children.length place
  (settled, settled.placeBytes place)

/-- Complain about a command that there is no program for, if the shell reads the extended
language. -/
def notFoundExtended (session : Session) (name : String) : Session :=
  let around := session.around
  let found := around.tree.find around.directory name
  let tell (status : Nat) (text : String) : Session :=
    (session.complain (name ++ ": " ++ text)).finish status
  if !name.contains '/' then tell 127 "command not found"
  else
    match found with
    | .ok (_, .directory) => tell 126 "Is a directory"
    | .ok (_, entry) =>
      if entry.isExecutable then tell 127 "cannot execute: required file not found"
      else tell 126 "Permission denied"
    | .error .notFound => tell 127 "No such file or directory"
    | .error cause => tell 126 (Program.Tool.reason cause)

/-- Complain about a command that there is no program for. -/
def notFound (session : Session) (name : String) : Session :=
  let around := session.around
  if session.isExtended then session.notFoundExtended name
  else if name.contains '/' && (around.tree.find? around.directory name).any (!·.isExecutable) then
    (session.complain (session.caller ++ name ++ ": Permission denied")).finish 126
  else (session.complain (session.caller ++ name ++ ": not found")).finish 127

/-- What a command calls in the end. A script that names no program is run by a shell like this
one. -/
def call (session : Session) (name : String) (arguments : List String) :
    Except Program.StartError Program.Tool.Call :=
  Program.Tool.resolveCall session.around (if session.isExtended then "bash" else "sh")
    Program.Tool.mostInterpreters name arguments

/-- Whether a command has failed and nothing looks at that. -/
def fails (session : Session) : Bool :=
  !session.guarded && session.status != 0 && session.isOn

/-- End the shell after a failure that nothing looks at, if it is strict. -/
def heed (session : Session) : Session :=
  if session.switches.strict && session.fails then { session with flow := .ended } else session

/-- What a shell of its own runs on some occasions: what is ignored stays so, and what happens after
failures if that is asked for. -/
def ownTraps (session : Session) : List (Nat × String) :=
  if session.isExtended then
    session.traps.filter fun (number, action) => action == ""
      || (number == failureTrap && session.switches.contains 'E')
  else []

/-- A shell of its own inside of the shell. -/
def alone (session : Session) : Session :=
  { session with traps := session.ownTraps, subshells := session.subshells + 1 }

/-- The settings of a shell whose output is taken: what fails in it does not end it. -/
def ownSwitches (session : Session) : Switches :=
  if session.isExtended && !session.extras.contains "inherit_errexit"
      && !session.extras.contains "posix" then
    session.switches.filter (· != 'e')
  else session.switches

/-- A shell whose output is taken. -/
def ownShell (session : Session) : Session :=
  { session with
    traps := session.ownTraps
    switches := session.ownSwitches
    caller := if session.isExtended then "command substitution: " else session.caller }

/-- Whether nothing is run at the end of the shell. -/
def endsAtOnce (session : Session) : Bool :=
  match session.flow with
  | .stuck => true
  | .killed signal => !session.isExtended || signal == 9 || signal == 11
  | _ => false

/-- The session after a command with a status, which counts as a chain of commands of its own. -/
def settle (session : Session) (status : Nat) : Session :=
  if session.isOn then { session with status := status, pipeline := [status] } else session

/-- How many functions may run, each called by the one before. -/
def mostCalls : Nat := 1000

/-- How many scripts may run, each read by a command of the one before. -/
def mostScripts : Nat := 1000

/-- The end of a shell in which too many functions run. -/
def overcalled (session : Session) : Session :=
  if session.isExtended then { session with flow := .killed 11 }
  else
    session.giveUp 2 (session.caller ++ "Maximum function recursion depth ("
      ++ Decimal.digitText mostCalls ++ ") reached")

/-- What a loop makes of the flow behind a round: whether it goes on, and the session. -/
def afterRound (session : Session) : Bool × Session :=
  match session.flow with
  | .on => (true, session)
  | .leaving loops =>
    (false, { session with flow := if loops ≤ 1 then .on else .leaving (loops - 1) })
  | .skipping loops =>
    if loops ≤ 1 then (true, { session with flow := .on })
    else (false, { session with flow := .skipping (loops - 1) })
  | _ => (false, session)

/-- Whether a command is one program. -/
def isSingle : Command → Bool
  | .simple _ _ _ _ => true
  | _ => false

/-- The redirections of a command. -/
def redirectsOf : Command → List Redirect
  | .simple _ _ _ redirects | .redirected redirects _ => redirects
  | _ => []

/-- The session behind a command with redirections: the streams lead again where they led before. -/
def leaveRedirects (outer : Session) (redirects : List Redirect) (inner : Session) : Session :=
  let given := inner.inputs.filter fun (stream, _) => redirects.all (·.stream != stream)
  let inputs := given ++ outer.inputs.filter fun (stream, _) => redirects.any (·.stream == stream)
  let repaid := match inner.lender? with
    | some lender => inputs.map fun (stream, input) =>
        (stream, if stream = lender then inner.input else input)
    | none => inputs
  if redirects.any (·.stream == 0) then
    { inner with
      streams := outer.streams, inputs := repaid, input := outer.input, lender? := outer.lender? }
  else { inner with streams := outer.streams, inputs := inputs }

/-- Write a command and the values that are given with it before it runs, if commands are traced and
something is to run. -/
def trace (session : Session) (streams : List (Nat × Nat)) (names fields : List String) :
    Session :=
  let values := names.map fun name => name ++ "=" ++ (session.bindings.get? name).getD ""
  if session.switches.traced && !(values ++ fields).isEmpty then
    let text := "+ " ++ " ".intercalate (values ++ fields) ++ "\n"
    let written := { session with streams := streams }.writeComplaint (Text.Octets.toBytes text)
    { written with streams := session.streams }
  else session

/-- The session inside of a loop. -/
def enterLoop (session : Session) : Session := { session with loops := session.loops + 1 }

/-- The session with the settings of another one that belong to what runs inside it. -/
def keepRound (session outer : Session) : Session :=
  { session with guarded := outer.guarded, loops := outer.loops }

/-- Whether the shell ends because a variable has no value. -/
def demands (session : Session) (name : String) : Bool :=
  session.switches.demanding && (session.value? name).isNone && name != "@" && name != "*"

/-- Tell that a value is missing. -/
def lacking (session : Session) (name : String) : Session :=
  if session.isExtended then
    let front := if isName name then "" else "$"
    session.halt (front ++ name ++ ": unbound variable")
  else session.giveUp 2 (session.caller ++ name ++ ": parameter not set")

/-- The number that an expression in a word stands for, unless it is none. -/
def evaluate (session : Session) (text : String) : Session × Option Int :=
  if session.isExtended then session.calculate text
  else
    match Arithmetic.run session.fixed session.bindings text.toList with
    | .ok (n, bindings) => ({ session with bindings := bindings }, some n)
    | .error fault => (session.giveUp 2 (session.caller ++ fault.message text), none)

/-- The text that a script writes, without the line breaks at its end. In the extended language null
bytes are told about and left out. -/
def outputText (session : Session) (bytes : List UInt8) : Session × List Char :=
  let (session, bytes) := if session.isExtended && bytes.contains 0 then
      (session.complain "warning: command substitution: ignored null byte in input",
        bytes.filter (· != 0))
    else (session, bytes)
  (session, ((Text.Octets.chars bytes).reverse.dropWhile (· == '\n')).reverse)

/-- Whether some pieces cover a text as a pattern. -/
def coversText (session : Session) (fragments : List Fragment) (text : List Char) : Bool :=
  if session.isExtended then
    Extended.Glob.covers session.isFolded
      (Extended.Glob.read session.hasGroups (Fragment.marked fragments)) text
  else PatternPart.covers (Fragment.pattern fragments) text

/-- Tell why a script cannot be read whose first line has a number. -/
def tellFault (session : Session) (first : Nat) (script : List Char) (fault : Extended.Fault) :
    Session :=
  let shown := if fault.showsLine then
      let text := String.ofList ((script.splitOn '\n').getD (fault.line - first) [])
      [(fault.line, Extended.Fault.quoted text)]
    else []
  { (fault.complaints ++ shown).foldl (fun session (line, text) =>
      session.writeComplaintLine (session.origin ++ ": " ++ session.caller ++ "line "
        ++ Decimal.digitText (line - first + 1) ++ ": " ++ text)) session with
    status := fault.status }

/-- The target of a redirection if a script does nothing but to read from it. -/
def readsFile? (session : Session) (line : Nat) (script : List Char) : Option Word :=
  let isLikely := (script.dropWhile fun c => c == ' ' || c == '\t').head? == some '<'
  if !session.isExtended || !isLikely then none
  else
    match Extended.next? (.ofScript line session.hasGroups script) with
    | some (.ok (.simple _ [] [] [⟨0, .read, target⟩], rest)) =>
      if (Extended.next? rest).isNone then some target else none
    | _ => none

/-- What stands in a file that is put into a word. -/
def contentOf (session : Session) (path : String) : Session × List UInt8 :=
  match Program.Tool.supplied (session.supply "") path with
  | .ok bytes => (session.finish 0, bytes)
  | .error cause =>
    ((session.complain (path ++ ": " ++ Program.Tool.reason cause)).finish 1, [])

/-- The text of a piece of a word, as a script writes it. -/
def pieceSource : Piece → String
  | .text _ chars => String.ofList chars
  | .variable _ name => "$" ++ name
  | .parameter _ source _ _ _ _ _ | .wrong source => source
  | .output _ _ script => "$(" ++ String.ofList script ++ ")"
  | .process reads _ script =>
    (if reads then "<(" else ">(") ++ String.ofList script ++ ")"
  | _ => ""

/-- The text of a word, as a script writes it. -/
def wordSource (word : Word) : String := String.join (word.map pieceSource)

/-- The session inside of a function. -/
def enterFunction (session : Session) (name : String) (arguments : List String) : Session :=
  let origin := (session.origins.lookup name).getD session.origin
  { session with
    arguments := arguments
    locals? := some []
    walk := if session.isExtended then session.walk else (1, none)
    loops := 0
    calls := session.calls + 1
    origin := origin
    frames := ⟨name, origin, session.line⟩ :: session.frames
    replaces := false }

/-- Bring back what belongs to the caller of a function. -/
def leaveFunction (outer inner : Session) : Session :=
  let done := inner.restore (inner.locals?.getD [])
  { done with
    arguments := outer.arguments
    locals? := outer.locals?
    walk := if outer.isExtended then done.walk else outer.walk
    loops := outer.loops
    calls := outer.calls
    origin := outer.origin
    frames := outer.frames
    line := outer.line
    flow := if done.flow = .returned then .on else done.flow }

/-- The session inside of a script that another one reads. -/
def enterScript (session : Session) (path : String) (arguments : List String) : Session :=
  { session with
    frames := ⟨"source", path, session.line⟩ :: session.frames
    origin := path
    caller := ""
    arguments := if arguments.isEmpty then session.arguments else arguments
    replaces := false }

/-- Bring back what belongs to the script that has read another one. -/
def leaveScript (outer : Session) (arguments : List String) (inner : Session) : Session :=
  { inner with
    frames := outer.frames
    origin := outer.origin
    caller := outer.caller
    line := outer.line
    arguments := if arguments.isEmpty then inner.arguments else outer.arguments
    flow := if inner.flow = .returned then .on else inner.flow }

/-- A path from the root of the tree, in front of which the path of the directory stands. -/
def wholePath (session : Session) (path : String) : String :=
  if FileTree.isAbsolute path then path
  else
    let inner := if path.startsWith "./" then String.ofList (path.toList.drop 2) else path
    FileTree.joinPath (if session.way.isEmpty then "" else Program.Tool.pathText session.way) inner

/-- End the shell because there is no program that could take its place. -/
def disputeProgram (session : Session) (name : String) : Session :=
  let around := session.around
  let ended (session : Session) (status : Nat) : Session :=
    { session with status := status, flow := .ended }
  if !name.contains '/' then ended (session.complain ("exec: " ++ name ++ ": not found")) 127
  else
    let path := session.wholePath name
    match around.tree.find around.directory name with
    | .error cause =>
      ended (session.complain (path ++ ": " ++ Program.Tool.reason cause))
        (if cause = .notFound then 127 else 126)
    | .ok (_, entry) =>
      let reason := if entry = .directory then "Is a directory" else "Permission denied"
      ended ((session.complain (path ++ ": " ++ reason)).complain
        ("exec: " ++ path ++ ": cannot execute: " ++ reason)) 126

/-- The session in which a program runs: a program of the extended language sees the path on which
it was found. -/
def withPath (session : Session) (name : String) : Session :=
  if session.isExtended then
    let path := if name.contains '/' then name else "/usr/bin/" ++ name
    { session with bindings := session.bindings.insert "_" path }
  else session

/-- The path of the script that an argument names: a name that no file here has may belong to a
program. -/
def scriptPath (session : Session) (path : String) : String :=
  let around := session.around
  let isHere := path.contains '/' || (around.tree.find? around.directory path).isSome
  if !session.isExtended || isHere then path
  else if Program.Tool.isRunnable around path then "/usr/bin/" ++ path
  else path

/-- End a shell because what it was given is no script. -/
def notReadable (session : Session) (path : String) : Session :=
  let path := session.scriptPath path
  let around := session.around
  let reason := match around.tree.find around.directory path with
    | .ok (_, .directory) => "Is a directory"
    | _ => "cannot execute binary file"
  { session.writeComplaintLine (path ++ ": " ++ path ++ ": " ++ reason) with
    status := 126
    flow := .ended }

/-- Remember a function. -/
def define (session : Session) (name : String) (body : Command) : Session :=
  let origin := if !session.frames.isEmpty then session.origin
    else if session.isText then "environment" else "main"
  { session with
    functions := (name, body) :: session.functions.filter (·.1 != name)
    origins := (name, origin) :: session.origins.filter (·.1 != name)
    status := 0 }

/-- Whether what happens after failures is run here: not inside of functions, unless that is asked
for. -/
def answersFailure (session : Session) : Bool :=
  session.switches.contains 'E' || session.frames.all (·.name == "main")

/-- The trace of something that is given to a variable. -/
def tracedGift (name : String) (index? : Option String) (appends : Bool) : Gift → String
  | .text text =>
    name ++ index?.elim "" (fun index => "[" ++ index ++ "]") ++ (if appends then "+=" else "=")
      ++ if text = "" then "" else traced text
  | .elements items =>
    let shown := items.map fun (key?, _, value) =>
      key?.elim "" (fun key => "[" ++ key ++ "]=") ++ traced value
    name ++ (if appends then "+=(" else "=(") ++ " ".intercalate shown ++ ")"

/-- Write a command before it runs, if commands are traced. -/
def traceFields (session : Session) (fields : List String) : Session :=
  if fields.isEmpty then session else session.traceText (" ".intercalate (fields.map traced))

/-- Write the elements that are given to arrays by a declaration, if commands are traced. -/
def traceTables (session : Session) (declared : List Declared) : Session :=
  declared.foldl (fun session declared =>
    match declared with
    | .given name index? appends (.elements items) =>
      session.traceText (tracedGift name index? appends (.elements items))
    | _ => session) session

/-! ## Rounds -/

/-- What becomes of a loop whose variable cannot be given values. -/
def disputeLoop? (session : Session) (name : String) : Option Session :=
  if !isName name then
    some ((session.complain ("\x60" ++ name ++ "': not a valid identifier")).settle 1)
  else if session.fixed.contains name then
    some ((session.complain (name ++ ": readonly variable")).settle 1)
  else none

/-- Give a value to the variable of a loop. -/
def assignRound (session : Session) (name value : String) : Session :=
  if !session.isExtended then session.assign name value
  else if session.hasTrait name 'n' then session.store name value
  else session.give name none false (.text value)

/-- Write the head of a loop before a round of it, if commands are traced. -/
def traceRound (session : Session) (name : String) (words? : Option (List Word)) : Session :=
  if session.isExtended then
    let words := match words? with
      | some words => " ".intercalate (words.map wordSource)
      | none => "\"$@\""
    session.traceText ("for " ++ name ++ " in " ++ words)
  else session

/-! ## Menus -/

/-- How many columns of a screen are filled. -/
def screenWidth : Nat := 80

/-- Blanks and tabs between two columns of a screen. -/
def indent : (fuel start finish : Nat) → List Char
  | 0, _, _ => []
  | fuel + 1, start, finish =>
    if finish ≤ start then []
    else if start / 8 < finish / 8 then '\t' :: indent fuel ((start / 8 + 1) * 8) finish
    else ' ' :: indent fuel (start + 1) finish

/-- The rows of a menu, with a number in front of each item. -/
def menuText (items : List String) : String :=
  let digits (n : Nat) : Nat := (Decimal.digitText n).length
  let count := items.length
  let width := (items.map String.length).foldl max 0 + digits count + 4
  let columns := max 1 (screenWidth / width)
  let rows := (count + columns - 1) / columns
  let rows := if rows = 1 then count else rows
  let row (n : Nat) : List Char :=
    let places := (List.range count).filter (· % rows == n)
    (places.zipIdx.flatMap fun (place, column) =>
      let number := Decimal.digitText (place + 1)
      let room := if column = 0 then digits rows else digits count
      let text := String.ofList (List.replicate (room - number.length) ' ') ++ number ++ ") "
        ++ items.getD place ""
      let start := column * width
      text.toList ++ if column + 1 = places.length then []
        else indent (2 * width) (start + text.length) (start + width)) ++ ['\n']
  String.ofList ((List.range rows).flatMap row)

/-- Ask which item of a menu is meant, until something is read. A wrong answer means an empty text,
and the end of the input means nothing. -/
def askFor (session : Session) (items : List String) (isShown : Bool) :
    Session × Option String :=
  let menu := if isShown then menuText items else ""
  let question := (session.value? "PS3").getD "#? "
  let asked := session.writeComplaint (Text.Octets.toBytes (menu ++ question))
  let answered := asked.readText []
  if answered.status != 0 then
    ((answered.write (Text.Octets.toBytes "\n")).settle 1, none)
  else
    let reply := (answered.value? "REPLY").getD ""
    let chosen? := (Decimal.readNatural items.length reply.toList).bind fun n =>
      if n = 0 then none else items[n - 1]?
    (answered, some (chosen?.getD ""))

end Session

end Runbook.Shell
