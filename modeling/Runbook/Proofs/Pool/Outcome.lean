import Runbook.Proofs.Pool.Move
import Runbook.Proofs.Run.Answers

/-!
# Outcomes of pooled jobs

How a job of a pool will end is settled from its submission on: no move changes it
(`Pool.Advances.outcome_eq`), neither a move of the job itself nor one of another job, and it is the
end to which a run of the job alone comes (`Pool.alone_eq_expected`).
-/

namespace Runbook

namespace Pool

variable {σ : Type} {answers : Answers} {submission : Submission} {move : Move}

/-- The job of a submission that is run without a pool. -/
def alone (executor : Executor σ) (state : σ) (submission : Submission) : Job :=
  (Engine.run executor submission.workflow submission.inputs state).job

/-- The executor that gives the answers and remembers nothing. -/
def Answers.executor (answers : Answers) : Executor Unit where
  execute invocation state := (answers invocation, state)

/-- The answers to all attempts at an invocation are the same. -/
def Answers.toAttempts (answers : Answers) (invocation : Invocation) (_ : Nat) :
    Except ExecutionError Output :=
  answers invocation

/-- The end of a job that carries out its tasks without interruption. -/
def expected (answers : Answers) (submission : Submission) : Job :=
  Engine.carryOut answers.toAttempts submission.workflow.tasks
    (Engine.startJob submission.workflow submission.inputs)

/-- A job that is run without a pool ends as expected. -/
theorem alone_eq_expected {executor : Executor σ}
    (stateless : ∀ invocation state, (executor.execute invocation state).1 = answers invocation)
    (state : σ) (submission : Submission) :
    alone executor state submission = expected answers submission := by
  have regular : executor.AnswersByAttempt answers.toAttempts fun _ => True :=
    ⟨fun invocation failures state _ _ => stateless invocation _, fun _ _ _ _ _ _ _ => trivial⟩
  exact Engine.runTasks_job regular submission.workflow.tasks trivial

/-- The end of a job that goes on with the tasks, unless it has failed. -/
def carryOn (answers : Answers) (rest : List Task) (job : Job) : Job :=
  if job.error.isSome then job else Engine.carryOut answers.toAttempts rest job

/-- The result to which the attempts at a task will come. -/
def Trial.result (answers : Answers) (trial : Trial) : TaskResult :=
  let attempts := Engine.attempt (.byAttempt answers.toAttempts) trial.invocation trial.retries
    trial.failed
  Engine.answered trial.task (trial.failed + attempts.count) attempts.answer

/-- How a job will end. -/
def Progress.outcome (answers : Answers) (submission : Submission) : Progress → Job
  | .queued => expected answers submission
  | .working job none rest => carryOn answers rest job
  | .working job (some trial) rest =>
    carryOn answers rest (Engine.record job (trial.result answers))
  | .calling job trial rest => carryOn answers rest (Engine.record job (trial.result answers))
  | .finished job => job

/-- A job that has failed has nothing left to do. -/
def Progress.Consistent : Progress → Prop
  | .working job none (_ :: _) => job.error = none
  | .working job (some _) _ => job.error = none
  | .calling job _ _ => job.error = none
  | _ => True

theorem error_record (job : Job) (result : TaskResult) :
    (Engine.record job result).error =
      match result.error with
      | some cause => some ⟨result.name, result.attempts, cause⟩
      | none => job.error := by
  unfold Engine.record
  cases result.error <;> rfl

/-- A job that has failed ends as it is. -/
theorem carryOn_of_failed {job : Job} (failed : job.error.isSome) (rest : List Task) :
    carryOn answers rest job = job := by
  rw [carryOn, if_pos failed]

theorem carryOn_of_going {job : Job} (going : job.error = none) (rest : List Task) :
    carryOn answers rest job = Engine.carryOut answers.toAttempts rest job := by
  rw [carryOn, going]
  rfl

/-- A job goes on behind a task as it would if it had not been interrupted. -/
theorem carryOn_record {job : Job} (going : job.error = none) (task : Task) (rest : List Task) :
    carryOn answers rest (Engine.record job (Engine.settle answers.toAttempts task job.context)) =
      carryOn answers (task :: rest) job := by
  rw [carryOn_of_going going, carryOn, Engine.carryOut, error_record]
  cases (Engine.settle answers.toAttempts task job.context).error with
  | some cause => rfl
  | none =>
      simp only [going]
      rfl

/-- A task that is resolved comes to the result of its trial. -/
theorem settle_of_prepare {task : Task} {context : Context} {invocation : Invocation}
    (prepared : Engine.prepare task context = .ok invocation) :
    Engine.settle answers.toAttempts task context =
      Trial.result answers ⟨task, invocation, 0, Engine.retryBudget task⟩ := by
  simp only [Engine.settle, Engine.runTask, prepared, Trial.result, Nat.zero_add]
  cases (Engine.attempt (.byAttempt answers.toAttempts) invocation
    (Engine.retryBudget task) 0).answer <;> rfl

theorem settle_of_prepare_error {task : Task} {context : Context} {cause : ResolutionError}
    (failed : Engine.prepare task context = .error cause) :
    Engine.settle answers.toAttempts task context = .failure task.name 0 (.resolution cause) := by
  simp only [Engine.settle, Engine.runTask, failed]

/-- A success ends a trial. -/
theorem Trial.result_of_success {trial : Trial} {output : Output}
    (answered : answers trial.invocation = .ok output) :
    trial.result answers = .success trial.task.name (trial.failed + 1) output := by
  have call : answers.toAttempts trial.invocation trial.failed = .ok output := answered
  rw [result, Engine.attempt_of_success (Executor.byAttempt_of_success call)]
  rfl

/-- A failure ends a trial without retries. -/
theorem Trial.result_of_failure {trial : Trial} {cause : ExecutionError}
    (answered : answers trial.invocation = .error cause) (spent : trial.retries = 0) :
    trial.result answers = .failure trial.task.name (trial.failed + 1) (.execution cause) := by
  have call : answers.toAttempts trial.invocation trial.failed = .error cause := answered
  rw [result, spent, Engine.attempt_zero_of_failure (Executor.byAttempt_of_failure call)]
  rfl

/-- A failure is counted and costs a retry. -/
theorem Trial.result_of_retry {trial : Trial} {cause : ExecutionError} {left : Nat}
    (answered : answers trial.invocation = .error cause) (retries : trial.retries = left + 1) :
    trial.result answers =
      Trial.result answers { trial with failed := trial.failed + 1, retries := left } := by
  have call : answers.toAttempts trial.invocation trial.failed = .error cause := answered
  rw [result, result, retries,
    Engine.attempt_succ_of_failure (Executor.byAttempt_of_failure call)]
  dsimp only
  rw [Nat.add_assoc, Nat.add_comm 1]

/-- Resolving a task does not change how a job will end. -/
theorem outcome_resolveTask {job : Job} (going : job.error = none) (task : Task)
    (rest : List Task) :
    (resolveTask job task rest).outcome answers submission = carryOn answers (task :: rest) job ∧
      (resolveTask job task rest).Consistent := by
  rw [← carryOn_record going, resolveTask]
  cases prepared : Engine.prepare task job.context with
  | ok invocation =>
      rw [settle_of_prepare prepared]
      exact ⟨rfl, going⟩
  | error cause =>
      have failed : (Engine.record job (.failure task.name 0 (.resolution cause))).error.isSome :=
        rfl
      rw [settle_of_prepare_error prepared, carryOn_of_failed failed]
      exact ⟨carryOn_of_failed failed [], trivial⟩

/-- Taking an answer does not change how a job will end. -/
theorem outcome_takeAnswer {job : Job} (going : job.error = none) (trial : Trial)
    (rest : List Task) :
    (takeAnswer job trial rest (answers trial.invocation)).outcome answers submission =
        carryOn answers rest (Engine.record job (trial.result answers)) ∧
      (takeAnswer job trial rest (answers trial.invocation)).Consistent := by
  cases answered : answers trial.invocation with
  | ok output =>
      rw [Trial.result_of_success answered, takeAnswer]
      refine ⟨rfl, ?_⟩
      cases rest with
      | nil => trivial
      | cons task rest => exact going
  | error cause =>
      cases retries : trial.retries with
      | zero =>
          have failed : (Engine.record job (.failure trial.task.name (trial.failed + 1)
            (.execution cause))).error.isSome := rfl
          rw [Trial.result_of_failure answered retries, carryOn_of_failed failed]
          simp only [takeAnswer, retries]
          exact ⟨carryOn_of_failed failed [], trivial⟩
      | succ left =>
          rw [Trial.result_of_retry answered retries]
          simp only [takeAnswer, retries]
          exact ⟨rfl, going⟩

/-- A job starts with all that it will come to. -/
theorem outcome_start (submission : Submission) :
    (start submission).outcome answers submission = expected answers submission ∧
      (start submission).Consistent := by
  refine ⟨carryOn_of_going rfl _, ?_⟩
  unfold start
  cases submission.workflow.tasks with
  | nil => trivial
  | cons task tasks => rfl

/-- **No move of a job changes how it will end.** -/
theorem Advances.outcome_eq {before after : Nat} {current next : Progress}
    (advances : Advances answers submission move before current after next)
    (consistent : current.Consistent) :
    next.outcome answers submission = current.outcome answers submission ∧ next.Consistent := by
  cases advances with
  | acquire => exact outcome_start submission
  | resolve _ job task rest => exact outcome_resolveTask consistent task rest
  | beginCall => exact ⟨rfl, consistent⟩
  | endCall _ job trial rest => exact outcome_takeAnswer consistent trial rest
  | release _ job => exact ⟨rfl, trivial⟩

end Pool

end Runbook
