import Runbook.Invocation
import Runbook.Job

/-!
# The engine

A job carries out its tasks in order. A task first checks what it requires, then puts in the
values, and then calls the executor until an attempt succeeds or no retry is left. The first task
that fails ends the job.
-/

namespace Runbook

/-- Something that carries out invocations. Each answer may depend on the calls before it, which
the state remembers. -/
structure Executor (σ : Type) where
  execute : Invocation → σ → Except ExecutionError Output × σ

namespace Engine

variable {σ : Type}

/-- The attempts at one invocation. -/
structure Attempts (σ : Type) where
  /-- How many attempts were made. -/
  count : Nat
  /-- The answer to the last one. -/
  answer : Except ExecutionError Output
  state : σ

/-- Make an attempt, and up to `retries` more as long as they fail. -/
def attempt (executor : Executor σ) (invocation : Invocation) :
    (retries : Nat) → σ → Attempts σ
  | 0, state =>
    let (answer, state) := executor.execute invocation state
    ⟨1, answer, state⟩
  | retries + 1, state =>
    match executor.execute invocation state with
    | (.ok output, state) => ⟨1, .ok output, state⟩
    | (.error _, state) =>
      let later := attempt executor invocation retries state
      { later with count := later.count + 1 }

/-- The number of attempts is counted in 32 bits. -/
def greatestAttempts : Nat := 2 ^ 32 - 1

/-- How many more attempts than one a task may make. -/
def retryBudget (task : Task) : Nat := min task.retries.toNat (greatestAttempts - 1)

/-- The first requirement of a task that has no value. -/
def firstUnmet (task : Task) (context : Context) : Option Reference :=
  task.requires.find? (fun reference => !context.contains reference)

/-- What a task asks the executor to do, if it can be resolved. -/
def prepare (task : Task) (context : Context) : Except ResolutionError Invocation :=
  match firstUnmet task context with
  | some reference => .error (.unmet reference.text)
  | none => task.resolve context

/-- The run of one task. -/
structure TaskRun (σ : Type) where
  result : TaskResult
  /-- The calls of the executor, in order. -/
  calls : List Invocation
  state : σ

/-- Carry out one task. -/
def runTask (executor : Executor σ) (task : Task) (context : Context) (state : σ) : TaskRun σ :=
  match prepare task context with
  | .error cause => ⟨.failure task.name 0 (.resolution cause), [], state⟩
  | .ok invocation =>
    let attempts := attempt executor invocation (retryBudget task) state
    let result := match attempts.answer with
      | .ok output => TaskResult.success task.name attempts.count output
      | .error cause => TaskResult.failure task.name attempts.count (.execution cause)
    ⟨result, List.replicate attempts.count invocation, attempts.state⟩

/-- Enter the result of a task into its job. -/
def record (job : Job) (result : TaskResult) : Job :=
  let context := match result.output with
    | some output => job.context.publish result.name output
    | none => job.context
  let job := { job with context := context, results := job.results ++ [result] }
  match result.error with
  | some cause =>
    { job with status := .failed, error := some ⟨result.name, result.attempts, cause⟩ }
  | none => job

/-- A run of a job. -/
structure Run (σ : Type) where
  job : Job
  /-- The calls of the executor, in order. -/
  calls : List Invocation
  state : σ

/-- Carry out tasks until one fails. -/
def runTasks (executor : Executor σ) : List Task → Run σ → Run σ
  | [], run => { run with job := { run.job with status := .succeeded } }
  | task :: tasks, run =>
    let taskRun := runTask executor task run.job.context run.state
    let next : Run σ :=
      ⟨record run.job taskRun.result, run.calls ++ taskRun.calls, taskRun.state⟩
    if taskRun.result.error.isSome then next else runTasks executor tasks next

/-- A job that has been started and has done nothing yet. -/
def startJob (workflow : Workflow) (inputs : Dictionary String) : Job :=
  { Job.new workflow (Context.withInputs workflow.inputParameters inputs) with status := .running }

/-- Run a workflow with given inputs. -/
def run (executor : Executor σ) (workflow : Workflow) (inputs : Dictionary String) (state : σ) :
    Run σ :=
  runTasks executor workflow.tasks ⟨startJob workflow inputs, [], state⟩

end Engine

end Runbook
