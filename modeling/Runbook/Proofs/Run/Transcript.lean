import Runbook.Proofs.Run.Record

/-!
# Transcripts of runs

The record that a run leaves with its executor is the concatenation of the records of its tasks,
each of them made in the context that the earlier results leave behind (`Engine.run_traceLaw`).
-/

namespace Runbook

variable {σ : Type}

/-- The context after a task, which has published its output if there is one. -/
def Context.afterResult (context : Context) (result : TaskResult) : Context :=
  match result.output with
  | some output => context.publish result.name output
  | none => context

namespace Engine

/-- The record that a run leaves with its executor. -/
def transcript (executor : Executor σ) (workflow : Workflow) (inputs : Dictionary String)
    (state : σ) : List Exchange :=
  (run executor.recorded workflow inputs (state, [])).state.2

/-- The context in front of the task at a position: the inputs, and then the outputs of the earlier
results in order. -/
def contextBefore (workflow : Workflow) (inputs : Dictionary String) (results : List TaskResult)
    (position : Nat) : Context :=
  (results.take position).foldl Context.afterResult
    (.withInputs workflow.inputParameters inputs)

/-- The calls of a run, task by task. -/
structure TraceLaw (workflow : Workflow) (inputs : Dictionary String) (run : Run σ)
    (exchanges : List Exchange) : Prop where
  terminal : run.job.status.isTerminal
  bounded : exchanges.length ≤ (workflow.tasks.map callLimit).sum
  calls : run.calls = exchanges.map Exchange.invocation
  /-- The record consists of one part for each result, in order. -/
  accounts : ∃ parts : List (List Exchange),
    exchanges = parts.flatten ∧ parts.length = run.job.results.length ∧
      ∀ (index : Nat) (task : Task) (result : TaskResult) (part : List Exchange),
        workflow.tasks[index]? = some task → run.job.results[index]? = some result →
          parts[index]? = some part →
            Accounts task (contextBefore workflow inputs run.job.results index) result part
  begun : run.job.results.length ≤ workflow.tasks.length
  /-- Nothing is begun behind a task that has failed. -/
  earlier_succeeded : ∀ (index : Nat) (result : TaskResult), run.job.results[index]? = some result →
    index + 1 < run.job.results.length → result.status = .succeeded
  /-- A run that stops early has failed. -/
  complete : (∀ result ∈ run.job.results, result.status = .succeeded) →
    run.job.results.length = workflow.tasks.length

/-- A run without its record. -/
def Run.plain (run : Run (σ × List Exchange)) : Run σ :=
  ⟨run.job, run.calls, run.state.1⟩

theorem plain_advance (executor : Executor σ) (task : Task) (run : Run (σ × List Exchange)) :
    (advance executor.recorded task run).plain = advance executor task run.plain := by
  obtain ⟨job, calls, state, log⟩ := run
  obtain ⟨exchanges, recorded, -⟩ := runTask_recorded executor task job.context state log
  simp only [advance, Run.plain, recorded]

theorem plain_runTasks (executor : Executor σ) (tasks : List Task)
    {run : Run (σ × List Exchange)} (running : run.job.status = .running) :
    (runTasks executor.recorded tasks run).plain = runTasks executor tasks run.plain := by
  induction tasks generalizing run with
  | nil => rfl
  | cons task tasks ih =>
      have status : (advance executor.recorded task run).job.status =
          (advance executor task run.plain).job.status :=
        congrArg (fun run => run.job.status) (plain_advance executor task run)
      have plainRunning : run.plain.job.status = .running := running
      rw [runTasks_cons _ task tasks running, runTasks_cons executor task tasks plainRunning,
        ← status]
      by_cases goesOn : (advance executor.recorded task run).job.status = .running
      · rw [if_pos goesOn, if_pos goesOn, ih goesOn, plain_advance]
      · rw [if_neg goesOn, if_neg goesOn, plain_advance]

/-- Keeping a record does not disturb a run. -/
theorem plain_run_recorded (executor : Executor σ) (workflow : Workflow)
    (inputs : Dictionary String) (state : σ) :
    (run executor.recorded workflow inputs (state, [])).plain =
      run executor workflow inputs state :=
  plain_runTasks executor workflow.tasks rfl

theorem results_record (job : Job) (result : TaskResult) :
    (record job result).results = job.results ++ [result] := by
  unfold record
  cases result.error <;> rfl

theorem context_record (job : Job) (result : TaskResult) :
    (record job result).context = job.context.afterResult result := by
  unfold record Context.afterResult
  cases result.error <;> rfl

theorem contextBefore_concat_of_le (workflow : Workflow) (inputs : Dictionary String)
    {results : List TaskResult} (result : TaskResult) {position : Nat}
    (within : position ≤ results.length) :
    contextBefore workflow inputs (results ++ [result]) position =
      contextBefore workflow inputs results position := by
  rw [contextBefore, contextBefore, List.take_append_of_le_length within]

theorem contextBefore_concat (workflow : Workflow) (inputs : Dictionary String)
    (results : List TaskResult) (result : TaskResult) :
    contextBefore workflow inputs (results ++ [result]) (results ++ [result]).length =
      (contextBefore workflow inputs results results.length).afterResult result := by
  rw [contextBefore, contextBefore, List.take_length, List.take_length, List.foldl_append]
  rfl

/-- What is recorded at a point of a run: the parts of the tasks that were begun. -/
structure Transcribed (workflow : Workflow) (inputs : Dictionary String)
    (point : Point (σ × List Exchange)) (parts : List (List Exchange)) : Prop where
  record : point.run.state.2 = parts.flatten
  calls : point.run.calls = point.run.state.2.map Exchange.invocation
  length : parts.length = point.run.job.results.length
  context : point.run.job.context =
    contextBefore workflow inputs point.run.job.results point.run.job.results.length
  accounts : ∀ (index : Nat) (task : Task) (result : TaskResult) (part : List Exchange),
    workflow.tasks[index]? = some task → point.run.job.results[index]? = some result →
      parts[index]? = some part →
        Accounts task (contextBefore workflow inputs point.run.job.results index) result part
  bound : point.run.state.2.length + (point.left.map callLimit).sum ≤
    (workflow.tasks.map callLimit).sum

variable {executor : Executor σ} {workflow : Workflow} {inputs : Dictionary String}

theorem Transcribed.conclude {run : Run (σ × List Exchange)} {parts : List (List Exchange)}
    (transcribed : Transcribed workflow inputs ⟨run, []⟩ parts) :
    Transcribed workflow inputs ⟨finish run, []⟩ parts :=
  ⟨transcribed.record, transcribed.calls, transcribed.length, transcribed.context,
    transcribed.accounts, transcribed.bound⟩

/-- Carrying out the next task adds its part. -/
theorem Transcribed.carryOn (executor : Executor σ) {run : Run (σ × List Exchange)} {task : Task}
    {left : List Task} {parts : List (List Exchange)}
    (transcribed : Transcribed workflow inputs ⟨run, task :: left⟩ parts)
    (next : workflow.tasks[run.job.results.length]? = some task) :
    ∃ part, Transcribed workflow inputs ⟨advance executor.recorded task run, left⟩
      (parts ++ [part]) := by
  obtain ⟨job, calls, state, log⟩ := run
  obtain ⟨record, callsEq, length, context, accounts, bound⟩ := transcribed
  obtain ⟨part, recorded, made, account⟩ := runTask_recorded executor task job.context state log
  generalize runTask executor task job.context state = done at recorded made account
  have moved : advance executor.recorded task ⟨job, calls, state, log⟩ =
      ⟨Engine.record job done.result, calls ++ done.calls, done.state, log ++ part⟩ := by
    simp only [Engine.advance, recorded]
  dsimp only at record callsEq length context accounts bound next
  rw [moved]
  refine ⟨part, ?_, ?_, ?_, ?_, ?_, ?_⟩
  · simp only [record, List.flatten_append, List.flatten_cons, List.flatten_nil, List.append_nil]
  · simp only [callsEq, made, List.map_append]
  · simp only [results_record, List.length_append, length, List.length_singleton]
  · simp only [results_record, context_record, contextBefore_concat, ← context]
  · intro index other result exchanges found given written
    simp only [results_record] at given ⊢
    rcases Nat.lt_trichotomy index job.results.length with below | rfl | above
    · rw [List.getElem?_append_left below] at given
      rw [List.getElem?_append_left (length ▸ below)] at written
      rw [contextBefore_concat_of_le _ _ _ (Nat.le_of_lt below)]
      exact accounts index other result exchanges found given written
    · rw [next, Option.some.injEq] at found
      rw [List.getElem?_concat_length, Option.some.injEq] at given
      rw [← length, List.getElem?_concat_length, Option.some.injEq] at written
      subst found given written
      rw [contextBefore_concat_of_le _ _ _ (Nat.le_refl _), ← context]
      exact account
    · have beyond : (job.results ++ [done.result]).length ≤ index := by
        rw [List.length_append]
        exact above
      rw [List.getElem?_eq_none beyond] at given
      cases given
  · have limited : part.length ≤ callLimit task := account.count ▸ account.limit
    simp only [List.map_cons, List.sum_cons, List.length_append] at bound ⊢
    omega

theorem Reachable.transcribed {state : σ} {point : Point (σ × List Exchange)}
    (reachable : Reachable executor.recorded workflow inputs (state, []) point) :
    ∃ parts, Transcribed workflow inputs point parts := by
  induction reachable with
  | initial =>
      refine ⟨[], rfl, rfl, rfl, rfl, ?_, ?_⟩
      · intro index task result part _ given
        cases given
      · exact Nat.le_of_eq (Nat.zero_add _)
  | step before step ih =>
      obtain ⟨parts, transcribed⟩ := ih
      cases step with
      | finish => exact ⟨parts, transcribed.conclude⟩
      | @task run task left running =>
          obtain ⟨passed, split, allPassed, -⟩ := before.stage.of_running running
          have next : workflow.tasks[run.job.results.length]? = some task := by
            rw [split, ← allPassed.length_eq, List.getElem?_append_right (Nat.le_refl _),
              Nat.sub_self]
            rfl
          obtain ⟨part, extended⟩ := transcribed.carryOn executor next
          exact ⟨parts ++ [part], extended⟩

/-- **The calls of a run are the attempts at its tasks.** Each task is resolved once, in the context
that the earlier results leave behind, and called for until it succeeds or no call is left. -/
theorem run_traceLaw (executor : Executor σ) (workflow : Workflow) (inputs : Dictionary String)
    (state : σ) :
    TraceLaw workflow inputs (run executor workflow inputs state)
      (transcript executor workflow inputs state) := by
  obtain ⟨ended, left, reachable⟩ := reachable_run executor.recorded workflow inputs (state, [])
  obtain ⟨parts, transcribed⟩ := reachable.transcribed
  have stage := reachable.stage
  -- The job and its calls are those of the recorded run, whose points carry the record.
  rw [← plain_run_recorded]
  unfold transcript
  generalize run executor.recorded workflow inputs (state, []) = done at *
  exact
    { terminal := stage.isTerminal ended
      bounded := Nat.le_trans (Nat.le_add_right _ _) transcribed.bound
      calls := transcribed.calls
      accounts := ⟨parts, transcribed.record, transcribed.length, transcribed.accounts⟩
      begun := stage.length_results_le
      earlier_succeeded := fun _ _ found inside => stage.succeeded_of_lt found inside
      complete := stage.length_results_eq ended }

end Engine

end Runbook
