import Mathlib.Data.List.Forall2
import Runbook.Engine

/-!
# Runs step by step

A run goes from task to task (`Engine.Step`). Every run is a sequence of such steps that comes to
an end (`Engine.reachable_run`), and each point on the way has a clear stage (`Engine.Stage`): all
tasks that were begun have succeeded, or the last of them has failed and the job has been given up.
-/

namespace Runbook

namespace Job

/-- A job in which one more task has succeeded. -/
def pass (job : Job) (name : String) (attempts : Nat) (output : Output) : Job :=
  { job with
    context := job.context.publish name output
    results := job.results ++ [.success name attempts output] }

/-- A job that is given up because a task has failed. -/
def abort (job : Job) (name : String) (attempts : Nat) (cause : TaskError) : Job :=
  { job with
    status := .failed
    results := job.results ++ [.failure name attempts cause]
    error := some ⟨name, attempts, cause⟩ }

end Job

namespace Engine

variable {σ : Type}

/-- Carry out one task, and enter its result. -/
def advance (executor : Executor σ) (task : Task) (run : Run σ) : Run σ :=
  let taskRun := runTask executor task run.job.context run.state
  ⟨record run.job taskRun.result, run.calls ++ taskRun.calls, taskRun.state⟩

/-- End a run whose tasks have all succeeded. -/
def finish (run : Run σ) : Run σ :=
  { run with job := { run.job with status := .succeeded } }

/-- A point of a run: what it has come to, and the tasks that are left. -/
structure Point (σ : Type) where
  run : Run σ
  left : List Task

/-- An executor that refuses its first call and answers all others with one text. -/
def refusingFirst (text : String) : Executor Nat where
  execute _ count :=
    (if count = 0 then .error (.io "refused") else .ok ⟨text, none, [], none⟩, count + 1)

/-- The steps of a run. A job that does not run any more makes none. -/
inductive Step (executor : Executor σ) : Point σ → Point σ → Prop
  | task {run : Run σ} {task : Task} {left : List Task} (running : run.job.status = .running) :
      Step executor ⟨run, task :: left⟩ ⟨advance executor task run, left⟩
  | finish {run : Run σ} (running : run.job.status = .running) :
      Step executor ⟨run, []⟩ ⟨finish run, []⟩

/-- The points that a run of a workflow comes to. -/
inductive Reachable (executor : Executor σ) (workflow : Workflow) (inputs : Dictionary String)
    (state : σ) : Point σ → Prop
  | initial : Reachable executor workflow inputs state
      ⟨⟨startJob workflow inputs, [], state⟩, workflow.tasks⟩
  | step {before after : Point σ} : Reachable executor workflow inputs state before →
      Step executor before after → Reachable executor workflow inputs state after

theorem record_success (job : Job) (name : String) (attempts : Nat) (output : Output) :
    record job (.success name attempts output) = job.pass name attempts output := rfl

theorem record_failure (job : Job) (name : String) (attempts : Nat) (cause : TaskError) :
    record job (.failure name attempts cause) = job.abort name attempts cause := rfl

theorem advance_eq (executor : Executor σ) (task : Task) (run : Run σ) :
    advance executor task run =
      ⟨record run.job (runTask executor task run.job.context run.state).result,
        run.calls ++ (runTask executor task run.job.context run.state).calls,
        (runTask executor task run.job.context run.state).state⟩ := rfl

/-- A task has succeeded or failed when it has been carried out. -/
theorem runTask_result (executor : Executor σ) (task : Task) (context : Context) (state : σ) :
    (∃ attempts output,
        (runTask executor task context state).result = .success task.name attempts output) ∨
      ∃ attempts cause,
        (runTask executor task context state).result = .failure task.name attempts cause := by
  unfold runTask
  cases prepare task context with
  | error cause => exact Or.inr ⟨0, .resolution cause, rfl⟩
  | ok invocation =>
      cases answered : (attempt executor invocation (retryBudget task) state).answer with
      | ok output => exact Or.inl ⟨_, output, by simp only [answered]; rfl⟩
      | error cause => exact Or.inr ⟨_, .execution cause, by simp only [answered]; rfl⟩

/-- What a step does to a job. -/
theorem advance_job (executor : Executor σ) (task : Task) (run : Run σ) :
    (∃ attempts output,
        (advance executor task run).job = run.job.pass task.name attempts output) ∨
      ∃ attempts cause,
        (advance executor task run).job = run.job.abort task.name attempts cause := by
  rcases runTask_result executor task run.job.context run.state with
    ⟨attempts, output, result⟩ | ⟨attempts, cause, result⟩
  · refine Or.inl ⟨attempts, output, ?_⟩
    rw [← record_success, ← result]
    rfl
  · refine Or.inr ⟨attempts, cause, ?_⟩
    rw [← record_failure, ← result]
    rfl

/-- A run goes on behind a task as long as its job runs. -/
theorem runTasks_cons (executor : Executor σ) (task : Task) (tasks : List Task) {run : Run σ}
    (running : run.job.status = .running) :
    runTasks executor (task :: tasks) run =
      if (advance executor task run).job.status = .running then
        runTasks executor tasks (advance executor task run)
      else advance executor task run := by
  have unfolded : runTasks executor (task :: tasks) run =
      if (runTask executor task run.job.context run.state).result.error.isSome then
        advance executor task run
      else runTasks executor tasks (advance executor task run) := rfl
  have status : (advance executor task run).job.status =
      (record run.job (runTask executor task run.job.context run.state).result).status := rfl
  rw [unfolded, status]
  rcases runTask_result executor task run.job.context run.state with
    ⟨attempts, output, result⟩ | ⟨attempts, cause, result⟩
  · rw [result, record_success]
    simp only [TaskResult.success, Option.isSome_none, Bool.false_eq_true, ↓reduceIte, Job.pass,
      running]
  · rw [result, record_failure]
    simp only [TaskResult.failure, Option.isSome_some, ↓reduceIte, Job.abort, reduceCtorEq]

variable {executor : Executor σ} {workflow : Workflow} {inputs : Dictionary String} {state : σ}

private theorem reachable_runTasks {tasks : List Task} {run : Run σ}
    (reachable : Reachable executor workflow inputs state ⟨run, tasks⟩)
    (running : run.job.status = .running) :
    (runTasks executor tasks run).job.status ≠ .running ∧
      ∃ left, Reachable executor workflow inputs state ⟨runTasks executor tasks run, left⟩ := by
  induction tasks generalizing run with
  | nil => exact ⟨JobStatus.noConfusion, [], reachable.step (.finish running)⟩
  | cons task tasks ih =>
      have next := reachable.step (.task running)
      rw [runTasks_cons executor task tasks running]
      by_cases goesOn : (advance executor task run).job.status = .running
      · rw [if_pos goesOn]
        exact ih next goesOn
      · rw [if_neg goesOn]
        exact ⟨goesOn, tasks, next⟩

/-- A run is the last of the points that it comes to. -/
theorem reachable_run (executor : Executor σ) (workflow : Workflow) (inputs : Dictionary String)
    (state : σ) :
    (run executor workflow inputs state).job.status ≠ .running ∧
      ∃ left, Reachable executor workflow inputs state ⟨run executor workflow inputs state, left⟩ :=
  reachable_runTasks .initial rfl

/-- A run that goes on from one of its points comes to the same end. -/
theorem Reachable.runTasks_eq {point : Point σ}
    (reachable : Reachable executor workflow inputs state point)
    (running : point.run.job.status = .running) :
    runTasks executor point.left point.run = run executor workflow inputs state := by
  induction reachable with
  | initial => rfl
  | step _ step ih =>
      cases step with
      | finish => cases running
      | @task run task left began =>
          have whole := ih began
          rwa [runTasks_cons executor task left began, if_pos running] at whole

/-- The tasks have succeeded with the results. -/
def AllPassed : List Task → List TaskResult → Prop :=
  List.Forall₂ fun task result => ∃ attempts output, result = .success task.name attempts output

theorem AllPassed.concat {tasks : List Task} {results : List TaskResult}
    (passed : AllPassed tasks results) (task : Task) (attempts : Nat) (output : Output) :
    AllPassed (tasks ++ [task]) (results ++ [.success task.name attempts output]) :=
  List.rel_append passed (List.Forall₂.cons ⟨attempts, output, rfl⟩ List.Forall₂.nil)

theorem AllPassed.names {tasks : List Task} {results : List TaskResult}
    (passed : AllPassed tasks results) :
    results.map TaskResult.name = tasks.map Task.name := by
  induction passed with
  | nil => rfl
  | cons head _ ih =>
      obtain ⟨attempts, output, rfl⟩ := head
      rw [List.map_cons, List.map_cons, ih]
      rfl

theorem AllPassed.exists_success {tasks : List Task} {results : List TaskResult}
    (passed : AllPassed tasks results) {result : TaskResult} (member : result ∈ results) :
    ∃ name attempts output, result = .success name attempts output := by
  induction passed with
  | nil => cases member
  | @cons task _ _ _ head _ ih =>
      rcases List.mem_cons.mp member with rfl | member
      · exact ⟨task.name, head⟩
      · exact ih member

/-- The stages of a job: its tasks `tasks` are being carried out and `left` are still to come, or
all have succeeded, or one has failed. -/
inductive Stage (tasks : List Task) : Job → List Task → Prop
  | running {job : Job} {passed left : List Task} (split : tasks = passed ++ left)
      (allPassed : AllPassed passed job.results) (status : job.status = .running)
      (error : job.error = none) : Stage tasks job left
  | succeeded {job : Job} (allPassed : AllPassed tasks job.results)
      (status : job.status = .succeeded) (error : job.error = none) : Stage tasks job []
  | failed {job : Job} {passed left : List Task} {task : Task} {earlier : List TaskResult}
      {attempts : Nat} {cause : TaskError} (split : tasks = passed ++ task :: left)
      (allPassed : AllPassed passed earlier)
      (results : job.results = earlier ++ [.failure task.name attempts cause])
      (status : job.status = .failed)
      (error : job.error = some ⟨task.name, attempts, cause⟩) : Stage tasks job left

section Stage

variable {tasks left : List Task} {job : Job}

/-- While a job runs, all tasks that were begun have succeeded. -/
theorem Stage.of_running (stage : Stage tasks job left) (running : job.status = .running) :
    ∃ passed, tasks = passed ++ left ∧ AllPassed passed job.results ∧ job.error = none := by
  cases stage with
  | running split allPassed _ error => exact ⟨_, split, allPassed, error⟩
  | succeeded _ status _ =>
      rw [running] at status
      cases status
  | failed _ _ _ status _ =>
      rw [running] at status
      cases status

theorem Stage.isTerminal (stage : Stage tasks job left) (ended : job.status ≠ .running) :
    job.status.isTerminal := by
  cases stage with
  | running _ _ status _ => exact (ended status).elim
  | succeeded _ status _ =>
      rw [status]
      rfl
  | failed _ _ _ status _ =>
      rw [status]
      rfl

theorem Stage.length_results_le (stage : Stage tasks job left) :
    job.results.length ≤ tasks.length := by
  cases stage with
  | running split allPassed _ _ =>
      rw [split, List.length_append, allPassed.length_eq]
      exact Nat.le_add_right _ _
  | succeeded allPassed _ _ => exact Nat.le_of_eq allPassed.length_eq.symm
  | failed split allPassed results _ _ =>
      rw [results, split, List.length_append, List.length_append, allPassed.length_eq,
        List.length_singleton, List.length_cons]
      omega

/-- A result with another one behind it is a success. -/
theorem Stage.succeeded_of_lt (stage : Stage tasks job left) {index : Nat} {result : TaskResult}
    (found : job.results[index]? = some result) (inside : index + 1 < job.results.length) :
    result.status = .succeeded := by
  have among : ∃ passed earlier, AllPassed passed earlier ∧ result ∈ earlier := by
    cases stage with
    | running _ allPassed _ _ => exact ⟨_, _, allPassed, List.mem_of_getElem? found⟩
    | succeeded allPassed _ _ => exact ⟨_, _, allPassed, List.mem_of_getElem? found⟩
    | failed _ allPassed results _ _ =>
        rw [results, List.length_append, List.length_singleton] at inside
        rw [results, List.getElem?_append_left (Nat.lt_of_succ_lt_succ inside)] at found
        exact ⟨_, _, allPassed, List.mem_of_getElem? found⟩
  obtain ⟨passed, earlier, allPassed, member⟩ := among
  obtain ⟨name, attempts, output, rfl⟩ := allPassed.exists_success member
  rfl

/-- A job that has ended without a failure has a result for each task. -/
theorem Stage.length_results_eq (stage : Stage tasks job left) (ended : job.status ≠ .running)
    (succeeded : ∀ result ∈ job.results, result.status = .succeeded) :
    job.results.length = tasks.length := by
  cases stage with
  | running _ _ status _ => exact (ended status).elim
  | succeeded allPassed _ _ => exact allPassed.length_eq.symm
  | failed _ _ results _ _ =>
      have clash := succeeded _ (results ▸ List.mem_concat_self)
      cases clash

end Stage

/-- A step leads from stage to stage. -/
theorem Stage.step {tasks : List Task} {before after : Point σ}
    (stage : Stage tasks before.run.job before.left) (step : Step executor before after) :
    Stage tasks after.run.job after.left := by
  cases step with
  | @task run task left running =>
      obtain ⟨passed, split, allPassed, error⟩ := stage.of_running running
      rcases advance_job executor task run with
        ⟨attempts, output, moved⟩ | ⟨attempts, cause, moved⟩
      · rw [moved]
        refine .running ?_ (allPassed.concat task attempts output) running error
        rw [split, List.append_assoc]
        rfl
      · rw [moved]
        exact .failed split allPassed rfl rfl rfl
  | @finish run running =>
      obtain ⟨passed, split, allPassed, error⟩ := stage.of_running running
      rw [List.append_nil] at split
      subst split
      exact .succeeded allPassed rfl error

theorem Reachable.stage {point : Point σ}
    (reachable : Reachable executor workflow inputs state point) :
    Stage workflow.tasks point.run.job point.left := by
  induction reachable with
  | initial => exact .running (List.nil_append _).symm List.Forall₂.nil rfl rfl
  | step _ step ih => exact ih.step step

end Engine

end Runbook
