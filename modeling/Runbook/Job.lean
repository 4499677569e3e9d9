import Runbook.Failure
import Runbook.Workflow

/-!
# Jobs

A job is one run of a workflow with given inputs.
-/

namespace Runbook

/-- The states of a job. -/
inductive JobStatus where
  | pending
  | running
  | succeeded
  | failed
deriving DecidableEq, Repr, Inhabited

namespace JobStatus

/-- All states, in order of their declaration. -/
def all : List JobStatus := [.pending, .running, .succeeded, .failed]

/-- Whether a job in this state has ended. -/
def isTerminal : JobStatus → Bool
  | .succeeded => true
  | .failed => true
  | _ => false

end JobStatus

/-- The states of a task. -/
inductive TaskStatus where
  | pending
  | resolving
  | executing
  | succeeded
  | failed
deriving DecidableEq, Repr, Inhabited

namespace TaskStatus

/-- All states, in order of their declaration. -/
def all : List TaskStatus := [.pending, .resolving, .executing, .succeeded, .failed]

/-- The name of a state. -/
def name : TaskStatus → String
  | .pending => "pending"
  | .resolving => "resolving"
  | .executing => "executing"
  | .succeeded => "succeeded"
  | .failed => "failed"

end TaskStatus

/-- How a task of a job ended. -/
structure TaskResult where
  name : String
  status : TaskStatus
  /-- How often the executor was called; never if the task could not be resolved. -/
  attempts : Nat
  output : Option Output
  error : Option TaskError
deriving DecidableEq, Repr, Inhabited

namespace TaskResult

/-- The result of a task whose last attempt succeeded. -/
def success (name : String) (attempts : Nat) (output : Output) : TaskResult :=
  ⟨name, .succeeded, attempts, some output, none⟩

/-- The result of a task that failed. -/
def failure (name : String) (attempts : Nat) (error : TaskError) : TaskResult :=
  ⟨name, .failed, attempts, none, some error⟩

end TaskResult

/-- One run of a workflow. -/
structure Job where
  workflow : String
  version : UInt32
  status : JobStatus
  /-- The inputs, and the outputs of all tasks that succeeded. -/
  context : Context
  /-- The results of the tasks that were begun, in order. -/
  results : List TaskResult
  /-- Why the job failed, if it did. -/
  error : Option AbortError
deriving DecidableEq, Repr, Inhabited

namespace Job

/-- A job that has not been started. -/
def new (workflow : Workflow) (context : Context) : Job where
  workflow := workflow.name
  version := workflow.version
  status := .pending
  context := context
  results := []
  error := none

/-- Whether all tasks succeeded. -/
def succeeded (job : Job) : Bool := job.status == .succeeded

/-- The result of the task of a name. -/
def result? (job : Job) (name : String) : Option TaskResult :=
  job.results.find? (fun result => result.name == name)

/-- The result of the task that failed. -/
def failedTask? (job : Job) : Option TaskResult :=
  job.results.find? (fun result => result.status == .failed)

/-- The job itself if it succeeded, and the reason if it was given up. -/
def outcome (job : Job) : Except AbortError Job :=
  match job.error with
  | some error => .error error
  | none => .ok job

end Job

end Runbook
