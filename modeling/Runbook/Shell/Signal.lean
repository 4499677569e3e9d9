import Runbook.Shell.OwnOption

/-!
# Signals

Signals by their names and numbers, the processes that they are sent to, and what a shell runs when
one hits it.
-/

namespace Runbook.Shell

namespace Session

open Program

/-- The names of signals that a shell writes when one ends a program. -/
def signalText? (signal : Nat) : Option String :=
  ([(1, "Hangup"), (3, "Quit"), (4, "Illegal instruction"), (6, "Aborted"), (7, "Bus error"),
    (8, "Floating point exception"), (9, "Killed"), (10, "User defined signal 1"),
    (11, "Segmentation fault"), (12, "User defined signal 2"), (14, "Alarm clock"),
    (15, "Terminated")] : List (Nat × String)).lookup signal

/-- Tell which signal has ended a program. -/
def tellSignal (session : Session) (signal : Nat) : Session :=
  match signalText? signal with
  | some text => session.writeComplaint (Text.Octets.toBytes (text ++ "\n"))
  | none => session

/-- How signals are sent. -/
def killUsage : String :=
  "kill: Usage: kill [-s sigspec | -signum | -sigspec] [pid | job]... or\nkill -l [exitstatus]"

/-- The signal that arguments name, and the processes that it is sent to. -/
def killTargets (arguments : List String) : Except String (Nat × List String) :=
  match arguments with
  | [] => .error killUsage
  | ["-s"] => .error "kill: No arg for -s option"
  | "-s" :: name :: targets =>
    match SignalName.number? name with
    | some signal => .ok (signal, targets)
    | none => .error ("kill: invalid signal number or name: " ++ name)
  | "--" :: targets => .ok (15, targets)
  | first :: targets =>
    match first.toList with
    | '-' :: c :: name =>
      match SignalName.number? (String.ofList (c :: name)) with
      | some signal => .ok (signal, targets)
      | none => .error ("kill: Illegal option -" ++ String.ofList [c])
    | _ => .ok (15, arguments)

/-- Send a signal to a process by its number in text form. Some signals do nothing, and some let a
process stop. -/
def killProcess (signal : Nat) (session : Session) (target : String) : Session :=
  match Decimal.readNatural (2 ^ 31 - 1) target.toList with
  | none =>
    let why := if target.startsWith "%" then "No such job: " else "Illegal number: "
    session.complain ("kill: " ++ why ++ target) |>.finish 2
  | some number =>
    if number = Child.outerNumber 0 then
      if [0, 17, 18, 23, 28].contains signal then session
      else if 19 ≤ signal ∧ signal ≤ 22 then { session with flow := .stuck }
      else { session with flow := .killed signal }
    else
      match (session.child? number).filter (·.runsAt session.milliseconds) with
      | some child => if signal = 0 then session else session.hitChild signal child
      | none => session.complain "kill: No such process\n" |>.finish 1

/-- Write the name of a signal by its number, or by the status of a program that it ended. -/
def nameSignal (session : Session) (text : String) : Session :=
  match Decimal.readNatural (2 ^ 31 - 1) text.toList with
  | none => session.complain ("kill: Illegal number: " ++ text) |>.finish 2
  | some n =>
    let number := if 128 < n then n - 128 else n
    if 0 < number ∧ number ≤ SignalName.lastFree then
      (session.writeLine (SignalName.ofNumber number)).finish 0
    else session.complain ("kill: invalid signal number or exit status: " ++ text) |>.finish 2

/-- Write the names of all signals. -/
def listSignals (session : Session) : Session :=
  let numbers := List.range SignalName.lastFree
  let names := "0" :: numbers.map fun n => SignalName.ofNumber (n + 1)
  (session.write (Text.Octets.toBytes (String.join (names.map (· ++ "\n"))))).finish 0

/-- Send a signal. -/
def kill (session : Session) (arguments : List String) : Session :=
  match arguments, killTargets arguments with
  | ["-l"], _ | ["-l", "--"], _ => session.listSignals
  | "-l" :: "--" :: text :: _, _ => session.nameSignal text
  | "-l" :: text :: _, _ =>
    match text.toList with
    | '-' :: c :: _ => session.refuse "kill" ("Illegal option -" ++ String.ofList [c])
    | _ => session.nameSignal text
  | _, .ok (_, []) => session.complain killUsage |>.finish 2
  | _, .ok (signal, targets) => targets.foldl (killProcess signal) (session.finish 0)
  | _, .error text => session.complain text |>.finish 2

/-- Wait for children, for all of the shell or for those that are named. -/
def wait (session : Session) (arguments : List String) : Session :=
  session.withOptions "wait" "" "" arguments fun options =>
  let arguments := options.operands
  if arguments.isEmpty then
    (session.children.filter (·.parent == session.process)).foldl waitFor session |>.finish 0
  else
    arguments.foldl (fun session argument =>
      match Decimal.readNatural (2 ^ 31 - 1) argument.toList with
      | none =>
        let why := if argument.startsWith "%" then "No such job: " else "Illegal number: "
        session.refuse "wait" (why ++ argument)
      | some number =>
        match session.child? number with
        | none => session.finish 127
        | some child =>
          let done := session.waitFor child
          (child.signal?.elim done done.tellSignal).finish child.status) session

/-- Write what is run for signals. -/
def listTraps (session : Session) : Session :=
  (List.range (SignalName.lastFree + 1)).foldl (fun session number =>
    match session.traps.lookup number with
    | some action =>
      session.writeLine ("trap -- " ++ quotedText action ++ " " ++ SignalName.ofNumber number)
    | none => session) (session.finish 0)

/-- Run something else for a signal, or what is usual. -/
def setTrap (session : Session) (action? : Option String) (number : Nat) : Session :=
  let kept := session.traps.filter (·.1 != number)
  { session with traps := (action?.map fun action => (number, action)).toList ++ kept }

/-- Run other commands for signals, or for the end of the shell. -/
def trap (session : Session) (arguments : List String) : Session :=
  session.withOptions "trap" "" "" arguments fun options =>
    let set (action? : Option String) (names : List String) : Session :=
      let known := names.takeWhile fun name => (SignalName.number? name).isSome
      let session :=
        (known.filterMap SignalName.number?).foldl (setTrap · action?) (session.finish 0)
      match names.drop known.length with
      | [] => session
      | name :: _ => (session.writeComplaintLine ("trap: " ++ name ++ ": bad trap")).finish 1
    match options.operands with
    | [] => session.listTraps
    | [name] => set none [name]
    | action :: names =>
      if (Decimal.readNatural SignalName.lastFree action.toList).isSome then
        set none (action :: names)
      else set (if action = "-" then none else some action) names

/-- How a child that has ended is described. -/
def childState (session : Session) (child : Child) : String :=
  if child.runsAt session.milliseconds then "Running"
  else
    match child.signal? with
    | some signal => (signalText? signal).getD ("Signal " ++ Decimal.digitText signal)
    | none => if child.status = 0 then "Done" else "Done(" ++ Decimal.digitText child.status ++ ")"

/-- Write what became of the commands in the background, the last one first. -/
def jobs (session : Session) (arguments : List String) : Session :=
  session.withOptions "jobs" "lp" "" arguments fun options =>
    let own := (session.children.filter (·.parent == session.process)).reverse.zipIdx 1
    let rows := own.reverse.zipIdx.map fun ((child, number), place) =>
      let outer := Decimal.digitText (Child.outerNumber child.number)
      let mark := if place = 0 then "+" else if place = 1 then "-" else " "
      let front := "[" ++ Decimal.digitText number ++ "] " ++ mark ++ " "
        ++ (if options.has 'l' then outer ++ " " else "") ++ session.childState child
      if options.has 'p' then outer
      else front ++ String.ofList (List.replicate (max 1 (33 - front.length)) ' ')
    (rows.foldl writeLine session).finish 0

end Session

end Runbook.Shell
