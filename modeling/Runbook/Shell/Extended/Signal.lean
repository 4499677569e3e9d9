import Runbook.Shell.Extended.Quotation
import Runbook.Shell.OwnOption
import Runbook.Shell.Signal

/-!
# Signals of the extended language
-/

namespace Runbook.Shell

namespace Session

open Extended Program

/-- The number of what happens after each failure of a command, next to the numbers of signals. -/
def failureTrap : Nat := 66

/-- What a script may wait for besides signals, with a number for each. -/
def occasions : List (String × Nat) :=
  [("EXIT", 0), ("DEBUG", 65), ("ERR", failureTrap), ("RETURN", 67)]

/-- The number of a signal by its name, with letters in front of it or without, or its number. -/
def signalNumber? (text : String) : Option Nat :=
  let upper := String.ofList (text.toList.map Char.toUpper)
  let short := if upper.startsWith "SIG" then String.ofList (upper.toList.drop 3) else upper
  (SignalName.number? short).filter fun n => n != 32 && n != 33

/-- The number of a signal or an occasion. -/
def occasion? (text : String) : Option Nat :=
  (occasions.lookup (String.ofList (text.toList.map Char.toUpper))).or (signalNumber? text)

/-- The name of a signal or an occasion. -/
def occasionName (number : Nat) : String :=
  match occasions.find? (·.2 == number) with
  | some (name, _) => name
  | none => "SIG" ++ SignalName.ofNumber number

/-- The numbers of all signals. -/
def allSignals : List Nat :=
  ((List.range SignalName.lastFree).map (· + 1)).filter fun n => n != 32 && n != 33

/-- Write all signals in a table of five columns. -/
def saySignals (session : Session) : Session :=
  let cells := allSignals.map fun n =>
    (if n < 10 then " " else "") ++ Decimal.digitText n ++ ") SIG"
      ++ (if n = 16 then "STKFLT" else SignalName.ofNumber n)
  let text := cells.zipIdx.map fun (cell, n) =>
    cell ++ (if n % 5 == 4 then "\n" else "\t")
  (session.write (Text.Octets.toBytes (String.join text ++ "\n"))).finish 0

/-- Write what is run on some occasions. -/
def sayTraps (session : Session) (numbers : List Nat) : Session :=
  (numbers.foldl (fun session number =>
    match session.traps.lookup number with
    | some action =>
      session.writeLine ("trap -- " ++ Quotation.single action ++ " " ++ occasionName number)
    | none => session) session)

/-- Run other commands on some occasions. -/
def trapWords (session : Session) (arguments : List String) : Session :=
  session.withChoices "trap" "lp" "" arguments fun options =>
    let wrong (session : Session) (name : String) : Session :=
      session.dispute "trap" (name ++ ": invalid signal specification")
    let set (action? : Option String) (names : List String) : Session :=
      names.foldl (fun session name =>
        match occasion? name with
        | some number => session.setTrap action? number
        | none => wrong session name) (session.finish 0)
    let everything := List.range (SignalName.lastFree + 4)
    if options.has 'l' then session.saySignals
    else if options.has 'p' then
      if options.operands.isEmpty then (session.sayTraps everything).finish 0
      else
        options.operands.foldl (fun session name =>
          match occasion? name with
          | some number => session.sayTraps [number]
          | none => wrong session name) (session.finish 0)
    else
      match options.operands with
      | [] => (session.sayTraps everything).finish 0
      | [name] => if (occasion? name).isSome then set none [name] else session.misuse "trap"
      | action :: names => set (if action = "-" then none else some action) names

/-- Send a signal to a process or to a command in the background, and tell whether it got there. -/
def sendSignal (session : Session) (signal : Nat) (target : String) : Session × Bool :=
  let own := (session.children.filter (·.parent == session.process)).reverse
  let child? : Option Child := match target.toList with
    | '%' :: digits =>
      (Decimal.readNatural (2 ^ 31) digits).bind fun n => if n = 0 then none else own[n - 1]?
    | _ => none
  let hit (child : Child) : Session × Bool :=
    if !child.runsAt session.milliseconds then
      (session.dispute "kill" ("(" ++ Decimal.digitText (Child.outerNumber child.number)
        ++ ") - No such process"), false)
    else if signal = 0 then (session, true)
    else (session.hitChild signal child, true)
  match child?, wholeNumber? target with
  | some child, _ => hit child
  | none, none =>
    let text := if target.startsWith "%" then target ++ ": no such job"
      else if target = "" then "\x60': not a pid or valid job spec"
      else target ++ ": arguments must be process or job IDs"
    (session.dispute "kill" text, false)
  | none, some number =>
    if number = Child.outerNumber 0 then
      if [0, 17, 18, 23, 28].contains signal then (session, true)
      else if 19 ≤ signal ∧ signal ≤ 22 then ({ session with flow := .stuck }, true)
      else if signal != 9 && session.traps.lookup signal == some "" then (session, true)
      else ({ session with flow := .killed signal }, true)
    else
      match session.child? number.toNat with
      | some child => hit child
      | none =>
        (session.dispute "kill" ("(" ++ toString number ++ ") - No such process"), false)

/-- Send a signal to some processes. -/
def sendAll (session : Session) (signal : Nat) (targets : List String) : Session :=
  if targets.isEmpty then session.misuse "kill"
  else
    let (session, some?) := targets.foldl (fun (session, got) target =>
      let (session, hit) := session.sendSignal signal target
      (session, got || hit)) (session.finish 0, false)
    session.finish (if some? then 0 else 1)

/-- Write the numbers of signals by their names, or their names by their numbers. -/
def nameSignals (session : Session) (texts : List String) : Session :=
  texts.foldl (fun session text =>
    let wrong : Session := session.dispute "kill" (text ++ ": invalid signal specification")
    match Decimal.readNatural 255 text.toList with
    | some n =>
      let n := if 128 < n then n - 128 else n
      if n = 0 then session.writeLine "EXIT"
      else if allSignals.contains n then session.writeLine (SignalName.ofNumber n)
      else wrong
    | none =>
      match occasion? text with
      | some n => session.writeLine (Decimal.digitText n)
      | none => wrong) (session.finish 0)

/-- Send signals, or tell their names. -/
def killWords (session : Session) (arguments : List String) : Session :=
  let wrong (text : String) : Session :=
    session.dispute "kill" (text ++ ": invalid signal specification")
  let named (name : String) (targets : List String) : Session :=
    match signalNumber? name with
    | some signal => session.sendAll signal targets
    | none => wrong name
  match arguments with
  | ["-l"] | ["-L"] | ["-l", "-1"] => session.saySignals
  | "-l" :: texts | "-L" :: texts => session.nameSignals texts
  | ["-s"] | ["-n"] =>
    session.dispute "kill" (arguments.headD "" ++ ": option requires an argument")
  | "-s" :: name :: targets | "-n" :: name :: targets => named name targets
  | "--" :: targets => session.sendAll 15 targets
  | first :: targets =>
    match first.toList with
    | '-' :: name => named (String.ofList name) (if targets.head? = some "--" then targets.tail
        else targets)
    | _ => session.sendAll 15 arguments
  | [] => session.misuse "kill"

/-- Wait for commands in the background. -/
def waitWords (session : Session) (arguments : List String) : Session :=
  session.withChoices "wait" "fn" "p" arguments fun options =>
    let own := (session.children.filter (·.parent == session.process)).reverse
    let settle (session : Session) (child : Child) : Session :=
      (session.waitFor child).finish child.status
    if options.operands.isEmpty then
      if options.has 'n' then
        let left := own.filter (·.runsAt session.milliseconds)
        let first? := left.foldl (fun (first? : Option Child) child =>
          match first?, child.finish with
          | some first, some time =>
            if first.finish.all (time < ·) then some child else some first
          | some first, none => some first
          | none, _ => some child) none
        first?.elim (session.finish 127) (settle session)
      else (own.foldl waitFor session).finish 0
    else
      options.operands.foldl (fun session text =>
        match text.toList, Decimal.readNatural (2 ^ 31) text.toList with
        | '%' :: digits, _ =>
          match (Decimal.readNatural (2 ^ 31) digits).bind fun n =>
            if n = 0 then none else own[n - 1]? with
          | some child => settle session child
          | none => (session.dispute "wait" (text ++ ": no such job")).finish 127
        | _, none =>
          session.dispute "wait" ("\x60" ++ text ++ "': not a pid or valid job spec")
        | _, some number =>
          match (session.child? number).filter (·.parent == session.process) with
          | some child => settle session child
          | none =>
            (session.dispute "wait"
              ("pid " ++ text ++ " is not a child of this shell")).finish 127) (session.finish 0)

end Session

end Runbook.Shell
