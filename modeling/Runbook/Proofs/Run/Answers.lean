import Runbook.Proofs.Run.Record

/-!
# Answers by the number of the attempt

Where the answers of an executor depend on the invocation and on the number of the attempt within
the task (`Executor.AnswersByAttempt`), a task comes to a result that depends on its context only
(`Engine.settle`), and a run makes of its job what these results make of it (`Engine.runTasks_job`).
-/

namespace Runbook

variable {σ : Type}

namespace Executor

/-- The state behind a number of calls with one invocation. -/
def stateAfter (executor : Executor σ) (invocation : Invocation) : Nat → σ → σ
  | 0, state => state
  | calls + 1, state => (executor.execute invocation (stateAfter executor invocation calls state)).2

/-- An executor whose answers depend on the invocation and on the number of the attempt within the
task: `answers invocation failures` is the answer behind so many failed attempts. When a task
begins, the executor is in one of the states `between`. -/
structure AnswersByAttempt (executor : Executor σ)
    (answers : Invocation → Nat → Except ExecutionError Output) (between : σ → Prop) : Prop where
  answer : ∀ (invocation : Invocation) (failures : Nat) (state : σ), between state →
    (∀ earlier < failures, ∃ cause, answers invocation earlier = .error cause) →
      (executor.execute invocation (executor.stateAfter invocation failures state)).1 =
        answers invocation failures
  /-- An attempt that succeeds ends the task. -/
  between_of_success : ∀ (invocation : Invocation) (failures : Nat) (state : σ), between state →
    (∀ earlier < failures, ∃ cause, answers invocation earlier = .error cause) →
      ∀ output, answers invocation failures = .ok output →
        between (executor.stateAfter invocation (failures + 1) state)

/-- The executor that counts the failures since the last success, and answers by their number. -/
def byAttempt (answers : Invocation → Nat → Except ExecutionError Output) : Executor Nat where
  execute invocation failures :=
    match answers invocation failures with
    | .ok output => (.ok output, 0)
    | .error cause => (.error cause, failures + 1)

variable {executor : Executor σ} {answers : Invocation → Nat → Except ExecutionError Output}
  {between : σ → Prop} {invocation : Invocation} {failures : Nat}

theorem byAttempt_of_success {output : Output}
    (answered : answers invocation failures = .ok output) :
    (byAttempt answers).execute invocation failures = (.ok output, 0) := by
  simp only [byAttempt, answered]

theorem byAttempt_of_failure {cause : ExecutionError}
    (answered : answers invocation failures = .error cause) :
    (byAttempt answers).execute invocation failures = (.error cause, failures + 1) := by
  simp only [byAttempt, answered]

theorem stateAfter_byAttempt
    (failed : ∀ earlier < failures, ∃ cause, answers invocation earlier = .error cause) :
    (byAttempt answers).stateAfter invocation failures 0 = failures := by
  induction failures with
  | zero => rfl
  | succ failures ih =>
      obtain ⟨cause, answered⟩ := failed failures (Nat.lt_succ_self _)
      rw [stateAfter, ih fun earlier below => failed earlier (Nat.lt_succ_of_lt below),
        byAttempt_of_failure answered]

/-- Counting failures is enough to answer by the number of the attempt. -/
theorem answersByAttempt_byAttempt (answers : Invocation → Nat → Except ExecutionError Output) :
    (byAttempt answers).AnswersByAttempt answers (· = 0) where
  answer invocation failures state rested failed := by
    rw [rested, stateAfter_byAttempt failed]
    cases answered : answers invocation failures with
    | ok output => rw [byAttempt_of_success answered]
    | error cause => rw [byAttempt_of_failure answered]
  between_of_success invocation failures state rested failed output answered := by
    rw [rested, stateAfter, stateAfter_byAttempt failed, byAttempt_of_success answered]

/-- The answer to an attempt, and the state behind it. -/
theorem AnswersByAttempt.execute_eq (regular : executor.AnswersByAttempt answers between)
    {state : σ} (rested : between state)
    (failed : ∀ earlier < failures, ∃ cause, answers invocation earlier = .error cause)
    {answer : Except ExecutionError Output} (answered : answers invocation failures = answer) :
    executor.execute invocation (executor.stateAfter invocation failures state) =
      (answer, executor.stateAfter invocation (failures + 1) state) :=
  answered ▸ Prod.ext (regular.answer invocation failures state rested failed) rfl

end Executor

namespace Engine

/-- A call that succeeds is the last attempt. -/
theorem attempt_of_success {executor : Executor σ} {invocation : Invocation} {state after : σ}
    {output : Output} (succeeded : executor.execute invocation state = (.ok output, after))
    (retries : Nat) :
    attempt executor invocation retries state = ⟨1, .ok output, after⟩ := by
  cases retries <;> simp only [attempt, succeeded]

/-- A call that fails is the last attempt if no retry is left. -/
theorem attempt_zero_of_failure {executor : Executor σ} {invocation : Invocation} {state after : σ}
    {cause : ExecutionError} (failed : executor.execute invocation state = (.error cause, after)) :
    attempt executor invocation 0 state = ⟨1, .error cause, after⟩ := by
  simp only [attempt, failed]

/-- A call that fails is followed by the attempts that are left. -/
theorem attempt_succ_of_failure {executor : Executor σ} {invocation : Invocation} {state after : σ}
    {cause : ExecutionError} (failed : executor.execute invocation state = (.error cause, after))
    (retries : Nat) :
    attempt executor invocation (retries + 1) state =
      { attempt executor invocation retries after with
        count := (attempt executor invocation retries after).count + 1 } := by
  simp only [attempt, failed]

section Regular

variable {executor : Executor σ} {answers : Invocation → Nat → Except ExecutionError Output}
  {between : σ → Prop}

private theorem attempt_eq_byAttempt_of_success
    (regular : executor.AnswersByAttempt answers between) {invocation : Invocation}
    (retries : Nat) {failures : Nat} {state : σ} (rested : between state)
    (failed : ∀ earlier < failures, ∃ cause, answers invocation earlier = .error cause)
    {output : Output} (answered : answers invocation failures = .ok output) :
    let found := attempt executor invocation retries
      (executor.stateAfter invocation failures state)
    let counted := attempt (.byAttempt answers) invocation retries failures
    found.count = counted.count ∧ found.answer = counted.answer ∧
      ∀ output, counted.answer = .ok output → between found.state := by
  rw [attempt_of_success (regular.execute_eq rested failed answered),
    attempt_of_success (Executor.byAttempt_of_success answered)]
  exact ⟨rfl, rfl, fun _ _ =>
    regular.between_of_success invocation failures state rested failed output answered⟩

/-- The attempts at an invocation come to the same end as those of the executor that counts. -/
theorem attempt_eq_byAttempt (regular : executor.AnswersByAttempt answers between)
    (invocation : Invocation) (retries : Nat) {failures : Nat} {state : σ}
    (rested : between state)
    (failed : ∀ earlier < failures, ∃ cause, answers invocation earlier = .error cause) :
    let found := attempt executor invocation retries
      (executor.stateAfter invocation failures state)
    let counted := attempt (.byAttempt answers) invocation retries failures
    found.count = counted.count ∧ found.answer = counted.answer ∧
      ∀ output, counted.answer = .ok output → between found.state := by
  induction retries generalizing failures with
  | zero =>
      cases answered : answers invocation failures with
      | ok output => exact attempt_eq_byAttempt_of_success regular 0 rested failed answered
      | error cause =>
          rw [attempt_zero_of_failure (regular.execute_eq rested failed answered),
            attempt_zero_of_failure (Executor.byAttempt_of_failure answered)]
          exact ⟨rfl, rfl, fun _ succeeded => nomatch succeeded⟩
  | succ retries ih =>
      cases answered : answers invocation failures with
      | ok output =>
          exact attempt_eq_byAttempt_of_success regular (retries + 1) rested failed answered
      | error cause =>
          have further : ∀ earlier < failures + 1,
              ∃ cause, answers invocation earlier = .error cause := by
            intro earlier below
            rcases Nat.lt_succ_iff_lt_or_eq.mp below with before | rfl
            · exact failed earlier before
            · exact ⟨cause, answered⟩
          obtain ⟨count, answer, ended⟩ := ih further
          rw [attempt_succ_of_failure (regular.execute_eq rested failed answered),
            attempt_succ_of_failure (Executor.byAttempt_of_failure answered)]
          exact ⟨congrArg (· + 1) count, answer, ended⟩

/-- What a task comes to in a context, if the executor answers by the number of the attempt. -/
def settle (answers : Invocation → Nat → Except ExecutionError Output) (task : Task)
    (context : Context) : TaskResult :=
  (runTask (.byAttempt answers) task context 0).result

theorem settle_congr {task : Task} {left right : Context}
    (agree : ∀ reference ∈ task.requires ++ task.templateReferences,
      left.lookup reference = right.lookup reference) :
    settle answers task left = settle answers task right := by
  rw [settle, settle, runTask, runTask, prepare_congr agree]

/-- A task comes to the same result from all states between tasks, and leads to another such state
if it succeeds. -/
theorem runTask_eq_settle (regular : executor.AnswersByAttempt answers between) (task : Task)
    (context : Context) {state : σ} (rested : between state) :
    (runTask executor task context state).result = settle answers task context ∧
      ((settle answers task context).error = none →
        between (runTask executor task context state).state) := by
  unfold settle runTask
  cases prepare task context with
  | error cause => exact ⟨rfl, fun succeeded => nomatch succeeded⟩
  | ok invocation =>
      obtain ⟨count, answer, ended⟩ := attempt_eq_byAttempt regular invocation
        (retryBudget task) rested fun _ below => (Nat.not_lt_zero _ below).elim
      rw [Executor.stateAfter] at count answer ended
      dsimp only
      rw [count, answer]
      refine ⟨rfl, ?_⟩
      cases answered : (attempt (.byAttempt answers) invocation (retryBudget task) 0).answer with
      | ok output => exact fun _ => ended output answered
      | error cause => exact fun succeeded => nomatch succeeded

/-- What the tasks make of a job, if the executor answers by the number of the attempt. -/
def carryOut (answers : Invocation → Nat → Except ExecutionError Output) : List Task → Job → Job
  | [], job => { job with status := .succeeded }
  | task :: tasks, job =>
    let result := settle answers task job.context
    if result.error.isSome then record job result else carryOut answers tasks (record job result)

/-- The job of a run does not depend on the state of the executor, as long as a task may begin in
it. -/
theorem runTasks_job (regular : executor.AnswersByAttempt answers between) (tasks : List Task)
    {run : Run σ} (rested : between run.state) :
    (runTasks executor tasks run).job = carryOut answers tasks run.job := by
  induction tasks generalizing run with
  | nil => rfl
  | cons task tasks ih =>
      obtain ⟨result, ended⟩ := runTask_eq_settle regular task run.job.context rested
      rw [runTasks, carryOut, ← result]
      rw [← result] at ended
      by_cases failed : (runTask executor task run.job.context run.state).result.error.isSome
      · simp only [failed, ↓reduceIte]
      · simp only [failed, Bool.false_eq_true, ↓reduceIte]
        exact ih (ended (Option.not_isSome_iff_eq_none.mp failed))

section CarryOut

variable {task : Task} {job : Job} {attempts : Nat}

theorem carryOut_of_success {output : Output}
    (settled : settle answers task job.context = .success task.name attempts output)
    (tasks : List Task) :
    carryOut answers (task :: tasks) job =
      carryOut answers tasks (job.pass task.name attempts output) := by
  rw [carryOut, settled, record_success]
  rfl

theorem carryOut_of_failure {cause : TaskError}
    (settled : settle answers task job.context = .failure task.name attempts cause)
    (tasks : List Task) :
    carryOut answers (task :: tasks) job = job.abort task.name attempts cause := by
  rw [carryOut, settled, record_failure]
  rfl

/-- A job that is given up has not succeeded. -/
theorem carryOut_status_ne_of_failure {cause : TaskError}
    (settled : settle answers task job.context = .failure task.name attempts cause)
    (tasks : List Task) : (carryOut answers (task :: tasks) job).status ≠ .succeeded := by
  rw [carryOut_of_failure settled]
  exact JobStatus.noConfusion

end CarryOut

/-- Tasks make the same of jobs with the same context: they add the same results. -/
theorem carryOut_congr (tasks : List Task) {left right : Job}
    (same : left.context = right.context) :
    (carryOut answers tasks left).status = (carryOut answers tasks right).status ∧
      (carryOut answers tasks left).context = (carryOut answers tasks right).context ∧
        ∃ later, (carryOut answers tasks left).results = left.results ++ later ∧
          (carryOut answers tasks right).results = right.results ++ later := by
  induction tasks generalizing left right with
  | nil => exact ⟨rfl, same, [], (List.append_nil _).symm, (List.append_nil _).symm⟩
  | cons task tasks ih =>
      rcases runTask_result (.byAttempt answers) task left.context 0 with
        ⟨attempts, output, settled⟩ | ⟨attempts, cause, settled⟩
      · have other : settle answers task right.context = .success task.name attempts output :=
          same ▸ settled
        rw [carryOut_of_success settled, carryOut_of_success other]
        have published : (left.pass task.name attempts output).context =
            (right.pass task.name attempts output).context :=
          congrArg (·.publish task.name output) same
        obtain ⟨status, context, later, leftResults, rightResults⟩ := ih published
        refine ⟨status, context, .success task.name attempts output :: later, ?_, ?_⟩
        · rw [leftResults, Job.pass, List.append_assoc]
          rfl
        · rw [rightResults, Job.pass, List.append_assoc]
          rfl
      · have other : settle answers task right.context = .failure task.name attempts cause :=
          same ▸ settled
        rw [carryOut_of_failure settled, carryOut_of_failure other]
        exact ⟨rfl, same, [.failure task.name attempts cause], rfl, rfl⟩

end Regular

end Engine

end Runbook
