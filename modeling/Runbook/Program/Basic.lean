import Runbook.Failure
import Runbook.Files
import Runbook.Invocation
import Runbook.Text.Utf8

/-!
# Processes

A command runs as a process of some machine. The process ends with a status, or it takes longer
than it may.
-/

namespace Runbook.Program

/-- How a process ended. -/
inductive ExitStatus where
  | exited (code : UInt8)
  /-- A signal ended it. -/
  | killed (signal : Nat)
deriving DecidableEq, Repr, Inhabited

namespace ExitStatus

/-- The code of a process that ended by itself. -/
def code? : ExitStatus → Option Int
  | .exited code => some code.toNat
  | .killed _ => none

/-- Whether a process succeeded. -/
def isSuccess (status : ExitStatus) : Bool := status == .exited 0

end ExitStatus

/-- The streams that a process writes to. -/
inductive Channel where
  | output
  | complaints
deriving DecidableEq, Repr, Inhabited

/-- What a process writes to its streams, in order. -/
abbrev Writings := List (Channel × List UInt8)

/-- What is written to one of the streams. -/
def Writings.on (channel : Channel) (writings : Writings) : List UInt8 :=
  (writings.filter (·.1 == channel)).flatMap (·.2)

/-- The run of a process. -/
structure Run where
  status : ExitStatus
  written : Writings
  /-- How long it took; a process may run forever. -/
  milliseconds : Option Nat
deriving DecidableEq, Repr, Inhabited

/-- What a process writes to its output. -/
def Run.stdout (run : Run) : List UInt8 := run.written.on .output

/-- What a process writes to where complaints go. -/
def Run.stderr (run : Run) : List UInt8 := run.written.on .complaints

/-- The run of a process of which the output waits until it ends. -/
def Run.outputLast (run : Run) : Run :=
  { run with written := [(.complaints, run.stderr), (.output, run.stdout)] }

/-- Why a process cannot be started. -/
inductive StartError where
  /-- There is no program at its path. -/
  | unreachable (cause : FileError)
  | notAllowed
  | nulByte
  | tooLong
deriving DecidableEq, Repr, Inhabited

/-- The wording of a start error. -/
def StartError.message : StartError → String
  | .unreachable cause => cause.message
  | .notAllowed => "Permission denied (os error 13)"
  | .nulByte => "nul byte found in provided data"
  | .tooLong => "Argument list too long (os error 7)"

/-- What runs processes. The state remembers the processes before. -/
structure Machine (σ : Type) where
  start : (program : String) → (arguments : List String) → σ → Except StartError Run × σ

/-- Whether a process is over when the time is up. -/
def Run.inTime (run : Run) (limit : Milliseconds) : Bool :=
  match run.milliseconds with
  | some elapsed => elapsed < limit.toNat
  | none => false

/-- Judge the run of a process that was given some time. -/
def judge (limit : Milliseconds) (run : Run) : Except ExecutionError Output :=
  if !run.inTime limit then .error (.timeout limit)
  else if run.status.isSuccess then
    .ok ⟨Text.Utf8.decodeLossy run.stdout, none, [], run.status.code?⟩
  else .error (.nonzeroExit run.status.code? (Text.trim (Text.Utf8.decodeLossy run.stderr)))

/-- The time that a command is given, by its task or by default. -/
def effectiveLimit (default : Milliseconds) (command : CliInvocation) : Milliseconds :=
  command.executionTimeout.getD default

/-- Run a command as one process. -/
def run {σ : Type} (default : Milliseconds) (machine : Machine σ) (command : CliInvocation)
    (state : σ) : Except ExecutionError Output × σ :=
  match command.argv with
  | [] => (.error (.spawn "" "empty command"), state)
  | program :: arguments =>
    match machine.start program arguments state with
    | (.error cause, state) => (.error (.spawn program cause.message), state)
    | (.ok run, state) => (judge (effectiveLimit default command) run, state)

end Runbook.Program
