import Runbook.Config
import Runbook.Engine

/-!
# Job pools

A pool runs several jobs at once, but no more than it has permits. Each job holds one permit from
its start to its end. Jobs proceed in small moves, which the pool makes in any order.
-/

namespace Runbook

namespace Pool

/-- A job that has been handed in. -/
structure Submission where
  workflow : Workflow
  inputs : Dictionary String
deriving DecidableEq, Repr, Inhabited

/-- The attempts at a task that has been resolved. -/
structure Trial where
  task : Task
  invocation : Invocation
  /-- How many attempts have failed. -/
  failed : Nat
  /-- How many more attempts may be made if the next one fails. -/
  retries : Nat
deriving DecidableEq, Repr, Inhabited

/-- How far a job has come. -/
inductive Progress where
  /-- It waits for a permit. -/
  | queued
  /-- It holds a permit and no call is being made; `rest` are the tasks behind the trial. -/
  | working (job : Job) (trial : Option Trial) (rest : List Task)
  /-- A call is being made. -/
  | calling (job : Job) (trial : Trial) (rest : List Task)
  /-- It has given its permit back. -/
  | finished (job : Job)
deriving DecidableEq, Repr, Inhabited

/-- A submission and how far its job has come. -/
structure Slot where
  submission : Submission
  progress : Progress
deriving DecidableEq, Repr, Inhabited

/-- A pool with the jobs handed in so far. -/
structure State where
  /-- The permits that no job holds. -/
  available : Nat
  slots : List Slot
deriving DecidableEq, Repr, Inhabited

/-- What an executor without memory answers. -/
abbrev Answers := Invocation → Except ExecutionError Output

/-- The small moves of a job. -/
inductive Move where
  /-- Take a permit and start. -/
  | acquire
  /-- Resolve the next task, which fails the job if it cannot be done. -/
  | resolve
  /-- Begin a call. -/
  | beginCall
  /-- End a call with its answer. -/
  | endCall
  /-- Finish, and give the permit back. -/
  | release
deriving DecidableEq, Repr, Inhabited

namespace Progress

/-- Whether a job holds a permit. -/
def holdsPermit : Progress → Bool
  | .working _ _ _ => true
  | .calling _ _ _ => true
  | _ => false

/-- Whether a job is making a call. -/
def isCalling : Progress → Bool
  | .calling _ _ _ => true
  | _ => false

/-- The result of a job that has finished. -/
def job? : Progress → Option Job
  | .finished job => some job
  | _ => none

end Progress

/-- Start a job. -/
def start (submission : Submission) : Progress :=
  .working (Engine.startJob submission.workflow submission.inputs) none submission.workflow.tasks

/-- Resolve a task. -/
def resolveTask (job : Job) (task : Task) (rest : List Task) : Progress :=
  match Engine.prepare task job.context with
  | .ok invocation => .working job (some ⟨task, invocation, 0, Engine.retryBudget task⟩) rest
  | .error cause =>
    .working (Engine.record job (.failure task.name 0 (.resolution cause))) none []

/-- Take the answer to a call. -/
def takeAnswer (job : Job) (trial : Trial) (rest : List Task) :
    Except ExecutionError Output → Progress
  | .ok output =>
    .working (Engine.record job (.success trial.task.name (trial.failed + 1) output)) none rest
  | .error cause =>
    match trial.retries with
    | 0 =>
      .working
        (Engine.record job (.failure trial.task.name (trial.failed + 1) (.execution cause))) none []
    | retries + 1 =>
      .working job (some { trial with failed := trial.failed + 1, retries := retries }) rest

/-- A job whose tasks have all been carried out has succeeded, unless one has failed. -/
def conclude (job : Job) : Job :=
  if job.error.isSome then job else { job with status := .succeeded }

/-- Make a move of one job: how far it comes, and how many permits are available then. A move that
the job cannot make now gives nothing. -/
def advance (answers : Answers) (available : Nat) (slot : Slot) : Move → Option (Nat × Progress)
  | .acquire =>
    match slot.progress, available with
    | .queued, available + 1 => some (available, start slot.submission)
    | _, _ => none
  | .resolve =>
    match slot.progress with
    | .working job none (task :: rest) => some (available, resolveTask job task rest)
    | _ => none
  | .beginCall =>
    match slot.progress with
    | .working job (some trial) rest => some (available, .calling job trial rest)
    | _ => none
  | .endCall =>
    match slot.progress with
    | .calling job trial rest =>
      some (available, takeAnswer job trial rest (answers trial.invocation))
    | _ => none
  | .release =>
    match slot.progress with
    | .working job none [] => some (available + 1, .finished (conclude job))
    | _ => none

namespace State

/-- Hand in a job. -/
def submit (state : State) (submission : Submission) : State :=
  { state with slots := state.slots ++ [⟨submission, .queued⟩] }

/-- Make a move of the job at a position. -/
def step (answers : Answers) (state : State) (position : Nat) (move : Move) : Option State := do
  let slot ← state.slots[position]?
  let (available, progress) ← advance answers state.available slot move
  return ⟨available, state.slots.set position { slot with progress := progress }⟩

/-- How many calls are being made. -/
def callCount (state : State) : Nat := state.slots.countP (·.progress.isCalling)

/-- The results of the jobs that have finished, in order of their submission. -/
def jobs (state : State) : List Job := state.slots.filterMap (·.progress.job?)

end State

end Pool

/-- A pool before any job is handed in. -/
structure Pool where
  /-- How many jobs may run at once. -/
  limit : Nat
deriving DecidableEq, Repr, Inhabited

namespace Pool

/-- The most permits that can be counted. -/
def mostPermits : Nat := 2 ^ 61 - 1

/-- A pool for a number of jobs, and for one job if that is zero. There is no pool with more permits
than can be counted. -/
def withLimit (jobs : Nat) : Option Pool :=
  let limit := max jobs 1
  if limit ≤ mostPermits then some ⟨limit⟩ else none

/-- The pool that a configuration asks for. -/
def ofConfig (config : Config) : Option Pool := withLimit config.maxConcurrentJobs.toNat

/-- The state of a pool with all its permits available. -/
def initial (pool : Pool) : State := ⟨pool.limit, []⟩

/-- Moves in the order in which a fair schedule prefers them: calls go on while any other move can
be made. -/
def preference : List Move := [.release, .acquire, .resolve, .beginCall, .endCall]

/-- The next state of a schedule that makes the preferred move of the first job that can make it. -/
def next (answers : Answers) (state : State) : Option State :=
  preference.findSome? fun move =>
    (List.range state.slots.length).findSome? fun position => state.step answers position move

/-- The number of moves that a job can make at most. -/
def moveBound (submission : Submission) : Nat :=
  3 + (submission.workflow.tasks.map fun task => 3 + 2 * Engine.retryBudget task).sum

/-- Make at most a number of moves, and find the most calls that were made at once. -/
def runMoves (answers : Answers) : (moves peak : Nat) → State → Nat × State
  | 0, peak, state => (peak, state)
  | moves + 1, peak, state =>
    match next answers state with
    | none => (peak, state)
    | some state => runMoves answers moves (max peak state.callCount) state

/-- Hand in jobs, and run them to their ends. -/
def runAll (pool : Pool) (answers : Answers) (submissions : List Submission) : Nat × State :=
  runMoves answers (submissions.map moveBound).sum 0 (submissions.foldl State.submit pool.initial)

end Pool

end Runbook
