import Runbook.Proofs.Run.Bindings
import Runbook.Proofs.Run.Transcript

/-!
# Data flow

What a task refers to must come from the inputs or from an earlier task. A reference to anything
else is dangling (`Reference.Dangling`): it has no value when the task begins, whatever the earlier
tasks put out (`Context.Bound.lookup_eq_none`), so that a run never gets beyond the task and never
calls the executor for it (`Engine.run_halts`).
-/

namespace Runbook

/-- The reference does not lead to an input that is supplied or to a task in front of the
position. -/
inductive Reference.Dangling (workflow : Workflow) (inputs : Dictionary String) (position : Nat)
    (reference : Reference) : Prop
  /-- It begins neither with the workflow nor with an earlier task. -/
  | foreign (notWorkflow : reference.space ≠ workflowSpace)
      (notEarlier : ∀ earlier ∈ workflow.tasks.take position, earlier.name ≠ reference.space)
  /-- It leads into the workflow, but not to the inputs. -/
  | elsewhere {segment : String} {rest : List String}
      (segments : reference.segments = workflowSpace :: segment :: rest)
      (notInput : segment ≠ Context.inputSpace)
  /-- It leads to an input that is not declared or not supplied. -/
  | unsupplied {name : String} {rest : List String}
      (segments : reference.segments = workflowSpace :: Context.inputSpace :: name :: rest)
      (absent : ¬ (name ∈ workflow.inputParameters ∧ (inputs.get? name).isSome))

/-- The error names a reference of the task that has no value. -/
inductive Task.Unresolved (task : Task) (context : Context) : ResolutionError → Prop
  | unmet {reference : Reference} (required : reference ∈ task.requires)
      (unbound : context.lookup reference = none) : Unresolved task context (.unmet reference.text)
  | missing {reference : Reference} (used : reference ∈ task.templateReferences)
      (unbound : context.lookup reference = none) :
      Unresolved task context (.missing reference.text)

namespace Context

variable {workflow : Workflow} {inputs : Dictionary String} {results : List TaskResult}
  {context : Context}

/-- The values of the workflow are those that the job starts with. -/
theorem Bound.lookup_workflowSpace (bound : Bound workflow inputs results context)
    (path : List String) :
    context.lookup ⟨workflowSpace, path⟩ =
      (withInputs workflow.inputParameters inputs).lookup ⟨workflowSpace, path⟩ := by
  rw [lookup, lookup, bound.unchanged]

/-- A dangling reference has no value in front of its task. -/
theorem Bound.lookup_eq_none (bound : Bound workflow inputs results context) {position : Nat}
    (earlier : ∀ result ∈ results, ∃ task ∈ workflow.tasks.take position, task.name = result.name)
    {reference : Reference} (dangling : reference.Dangling workflow inputs position) :
    context.lookup reference = none := by
  obtain ⟨space, path⟩ := reference
  obtain ⟨members, supplied, start⟩ := exists_supplied workflow.inputParameters inputs
  cases dangling with
  | foreign notWorkflow notEarlier =>
      have unbound : space ∉ context.bindings.keys := by
        intro member
        obtain ⟨result, listed, -, named⟩ := (bound.mem_iff space notWorkflow).mp member
        obtain ⟨task, member, same⟩ := earlier result listed
        exact notEarlier task member (same.trans named)
      rw [Dictionary.mem_keys_iff, Option.not_isSome_iff_eq_none] at unbound
      rw [lookup, unbound]
      rfl
  | elsewhere segments notInput =>
      obtain ⟨rfl, rfl⟩ := List.cons.inj segments
      rw [bound.lookup_workflowSpace, start]
      exact lookup_inputBindings_eq_none (Or.inr ⟨_, _, rfl, notInput⟩)
  | @unsupplied name rest segments absent =>
      obtain ⟨rfl, rfl⟩ := List.cons.inj segments
      have unbound : members.get? name = none := by
        rw [supplied.get?_eq]
        by_cases declared : name ∈ workflow.inputParameters
        · rw [if_pos declared, Option.map_eq_none_iff, ← Option.not_isSome_iff_eq_none]
          exact fun given => absent ⟨declared, given⟩
        · rw [if_neg declared]
      rw [bound.lookup_workflowSpace, start, lookup_inputBindings_input, unbound]
      rfl

end Context

namespace Engine

variable {σ : Type} {executor : Executor σ} {workflow : Workflow} {inputs : Dictionary String}
  {state : σ}

/-- A task with a reference that has no value cannot be prepared. -/
theorem exists_prepare_error {task : Task} {context : Context} {reference : Reference}
    (used : reference ∈ task.requires ++ task.templateReferences)
    (unbound : context.lookup reference = none) :
    ∃ cause, prepare task context = .error cause := by
  cases found : firstUnmet task context with
  | some first => exact ⟨_, prepare_of_unmet found⟩
  | none =>
      have met := firstUnmet_eq_none_iff.mp found
      have templated : reference ∈ task.templateReferences := by
        rcases List.mem_append.mp used with required | templated
        · exact (met reference required unbound).elim
        · exact templated
      rw [prepare_of_met found]
      cases resolved : task.resolve context with
      | error cause => exact ⟨cause, rfl⟩
      | ok invocation =>
          have bound := Task.exists_resolve_iff.mp ⟨invocation, resolved⟩
          exact (bound reference templated unbound).elim

/-- A task that cannot be prepared has a reference without a value, which the error names. -/
theorem unresolved_of_prepare_error {task : Task} {context : Context} {cause : ResolutionError}
    (failed : prepare task context = .error cause) : task.Unresolved context cause := by
  cases found : firstUnmet task context with
  | some first =>
      obtain ⟨before, behind, split, -, unbound⟩ := firstUnmet_eq_some_iff.mp found
      rw [prepare_of_unmet found] at failed
      cases failed
      exact .unmet (split ▸ List.mem_append_right _ List.mem_cons_self) unbound
  | none =>
      rw [prepare_of_met found] at failed
      obtain ⟨reference, used, unbound, rfl⟩ := Task.exists_missing_of_resolve_error failed
      exact .missing used unbound

/-- A task that cannot be prepared ends its job, and the executor is not called. -/
theorem advance_of_prepare_error (executor : Executor σ) {task : Task} {run : Run σ}
    {cause : ResolutionError} (failed : prepare task run.job.context = .error cause) :
    advance executor task run =
      ⟨run.job.abort task.name 0 (.resolution cause), run.calls, run.state⟩ := by
  have done : runTask executor task run.job.context run.state =
      ⟨.failure task.name 0 (.resolution cause), [], run.state⟩ := by
    rw [runTask, failed]
  rw [advance_eq, done, record_failure, List.append_nil]

/-- While a job runs, its results are those of the first tasks. -/
theorem Stage.take_of_running {tasks left : List Task} {job : Job} (stage : Stage tasks job left)
    (running : job.status = .running) :
    tasks = tasks.take job.results.length ++ left ∧
      AllPassed (tasks.take job.results.length) job.results := by
  obtain ⟨passed, split, allPassed, -⟩ := stage.of_running running
  have first : tasks.take job.results.length = passed := by
    rw [split, ← allPassed.length_eq, List.take_left]
  rw [first]
  exact ⟨split, allPassed⟩

/-- The results of passed tasks have the names of these tasks. -/
theorem AllPassed.exists_name_eq {tasks : List Task} {results : List TaskResult}
    (passed : AllPassed tasks results) {result : TaskResult} (member : result ∈ results) :
    ∃ task ∈ tasks, task.name = result.name := by
  have named : result.name ∈ tasks.map Task.name := passed.names ▸ List.mem_map_of_mem member
  exact List.mem_map.mp named

/-- Where a task with a dangling reference is due, it cannot be prepared. -/
theorem Reachable.exists_prepare_error (named : workflow.WellNamed) {position : Nat} {task : Task}
    {reference : Reference} (used : reference ∈ task.requires ++ task.templateReferences)
    (dangling : reference.Dangling workflow inputs position) {point : Point σ}
    (reachable : Reachable executor workflow inputs state point)
    (running : point.run.job.status = .running)
    (due : point.run.job.results.length = position) :
    ∃ cause, prepare task point.run.job.context = .error cause := by
  obtain ⟨-, passed⟩ := reachable.stage.take_of_running running
  rw [due] at passed
  exact Engine.exists_prepare_error used
    ((reachable.bound named).lookup_eq_none (fun _ => passed.exists_name_eq) dangling)

/-- Wherever the task at the position is due, it cannot be prepared. -/
def Blocks (executor : Executor σ) (workflow : Workflow) (inputs : Dictionary String) (state : σ)
    (position : Nat) (task : Task) : Prop :=
  ∀ point, Reachable executor workflow inputs state point → point.run.job.status = .running →
    point.run.job.results.length = position →
      ∃ cause, prepare task point.run.job.context = .error cause

/-- A job that does not get beyond the task at a position, and fails if it gets there. -/
structure Held (position : Nat) (task : Task) (job : Job) : Prop where
  due : job.status = .running → job.results.length ≤ position
  begun : job.results.length ≤ position + 1
  not_succeeded : job.status ≠ .succeeded
  unresolved : ∀ result, job.results[position]? = some result →
    ∃ cause, result = .failure task.name 0 (.resolution cause) ∧ task.Unresolved job.context cause

section Blocks

variable {position : Nat} {task : Task}

/-- The task that is due at the position is the one that blocks. -/
theorem Reachable.left_eq_cons (found : workflow.tasks[position]? = some task) {point : Point σ}
    (reachable : Reachable executor workflow inputs state point)
    (running : point.run.job.status = .running)
    (due : point.run.job.results.length = position) :
    ∃ behind, point.left = task :: behind := by
  obtain ⟨split, -⟩ := reachable.stage.take_of_running running
  have inside := (List.getElem?_eq_some_iff.mp found).1
  rw [split, due, List.getElem?_append_right (List.length_take_le _ _),
    List.length_take_of_le (Nat.le_of_lt inside), Nat.sub_self] at found
  cases listed : point.left with
  | nil =>
      rw [listed] at found
      cases found
  | cons first behind =>
      rw [listed, List.getElem?_cons_zero, Option.some.injEq] at found
      exact ⟨behind, by rw [found]⟩

/-- At the position a run ends. -/
theorem Reachable.runTasks_of_blocks (found : workflow.tasks[position]? = some task)
    (blocks : Blocks executor workflow inputs state position task) {point : Point σ}
    (reachable : Reachable executor workflow inputs state point)
    (running : point.run.job.status = .running)
    (due : point.run.job.results.length = position) :
    ∃ cause, task.Unresolved point.run.job.context cause ∧
      runTasks executor point.left point.run =
        ⟨point.run.job.abort task.name 0 (.resolution cause), point.run.calls,
          point.run.state⟩ := by
  obtain ⟨behind, listed⟩ := reachable.left_eq_cons found running due
  obtain ⟨cause, failed⟩ := blocks point reachable running due
  refine ⟨cause, unresolved_of_prepare_error failed, ?_⟩
  rw [listed, runTasks_cons executor task behind running,
    advance_of_prepare_error executor failed]
  exact if_neg JobStatus.noConfusion

/-- A task in front of the position leaves the job held. -/
theorem held_advance_of_lt {run : Run σ} (executor : Executor σ) (next : Task)
    (running : run.job.status = .running) (early : run.job.results.length < position) :
    Held position task (advance executor next run).job := by
  have length : ∀ result : TaskResult, (run.job.results ++ [result]).length ≤ position := by
    intro result
    rw [List.length_append, List.length_singleton]
    exact early
  have absent : ∀ result : TaskResult, (run.job.results ++ [result])[position]? = none :=
    fun result => List.getElem?_eq_none (length result)
  rcases advance_job executor next run with ⟨attempts, output, moved⟩ | ⟨attempts, cause, moved⟩
  · rw [moved]
    refine ⟨fun _ => length _, Nat.le_succ_of_le (length _), ?_, fun result given => ?_⟩
    · rw [Job.pass, running]
      exact JobStatus.noConfusion
    · rw [Job.pass, absent] at given
      cases given
  · rw [moved]
    refine ⟨fun clash => ?_, Nat.le_succ_of_le (length _), JobStatus.noConfusion,
      fun result given => ?_⟩
    · cases clash
    · rw [Job.abort, absent] at given
      cases given

/-- The task at the position leaves the job held. -/
theorem held_abort {job : Job} (due : job.results.length = position) {cause : ResolutionError}
    (unresolved : task.Unresolved job.context cause) :
    Held position task (job.abort task.name 0 (.resolution cause)) := by
  refine ⟨fun clash => ?_, ?_, JobStatus.noConfusion, fun result given => ?_⟩
  · cases clash
  · rw [Job.abort, List.length_append, List.length_singleton, due]
  · rw [Job.abort, ← due, List.getElem?_concat_length, Option.some.injEq] at given
    exact ⟨cause, given.symm, unresolved⟩

/-- No step leads beyond the task that blocks. -/
theorem Held.step (found : workflow.tasks[position]? = some task)
    (blocks : Blocks executor workflow inputs state position task) {before after : Point σ}
    (reachable : Reachable executor workflow inputs state before)
    (held : Held position task before.run.job) (step : Step executor before after) :
    Held position task after.run.job := by
  cases step with
  | @finish run running =>
      -- Where no task is left, the task at the position has been begun.
      obtain ⟨split, passed⟩ := reachable.stage.take_of_running running
      rw [List.append_nil] at split
      have all : workflow.tasks.length = run.job.results.length := by
        conv_lhs => rw [split]
        exact passed.length_eq
      have inside := (List.getElem?_eq_some_iff.mp found).1
      rw [all] at inside
      exact (Nat.not_lt_of_le (held.due running) inside).elim
  | @task run next left running =>
      rcases Nat.lt_or_eq_of_le (held.due running) with early | due
      · exact held_advance_of_lt executor next running early
      · obtain ⟨behind, listed⟩ := reachable.left_eq_cons found running due
        obtain ⟨rfl, rfl⟩ := List.cons.inj listed
        obtain ⟨cause, failed⟩ := blocks _ reachable running due
        have moved := advance_of_prepare_error executor failed
        rw [moved]
        exact held_abort due (unresolved_of_prepare_error failed)

/-- No point of a run is beyond the task that blocks. -/
theorem Reachable.held (found : workflow.tasks[position]? = some task)
    (blocks : Blocks executor workflow inputs state position task) {point : Point σ}
    (reachable : Reachable executor workflow inputs state point) :
    Held position task point.run.job := by
  induction reachable with
  | initial =>
      exact ⟨fun _ => Nat.zero_le _, Nat.zero_le _, JobStatus.noConfusion,
        fun result given => nomatch given⟩
  | step before step ih => exact ih.step found blocks before step

/-- From the position on the executor is not called. -/
theorem Reachable.calls_eq_of_blocks (found : workflow.tasks[position]? = some task)
    (blocks : Blocks executor workflow inputs state position task) {before after : Point σ}
    (reachable : Reachable executor workflow inputs state before)
    (step : Step executor before after) (late : position ≤ before.run.job.results.length) :
    after.run.calls = before.run.calls ∧ after.run.state = before.run.state := by
  cases step with
  | finish => exact ⟨rfl, rfl⟩
  | @task run next left running =>
      have due : run.job.results.length = position :=
        Nat.le_antisymm ((reachable.held found blocks).due running) late
      obtain ⟨behind, listed⟩ := reachable.left_eq_cons found running due
      obtain ⟨rfl, rfl⟩ := List.cons.inj listed
      obtain ⟨cause, failed⟩ := blocks _ reachable running due
      dsimp only at failed ⊢
      rw [advance_of_prepare_error executor failed]
      exact ⟨rfl, rfl⟩

/-- The executor is called as if the tasks ended in front of the position. -/
theorem Reachable.runTasks_append_of_blocks (found : workflow.tasks[position]? = some task)
    (blocks : Blocks executor workflow inputs state position task) (first behind : List Task)
    {run : Run σ}
    (reachable : Reachable executor workflow inputs state ⟨run, first ++ behind⟩)
    (running : run.job.status = .running)
    (ahead : run.job.results.length + first.length = position) :
    (runTasks executor (first ++ behind) run).calls = (runTasks executor first run).calls ∧
      (runTasks executor (first ++ behind) run).state = (runTasks executor first run).state := by
  induction first generalizing run with
  | nil =>
      obtain ⟨cause, -, ended⟩ := reachable.runTasks_of_blocks found blocks running ahead
      rw [List.nil_append] at ended
      rw [List.nil_append, ended]
      exact ⟨rfl, rfl⟩
  | cons next first ih =>
      rw [List.cons_append, runTasks_cons executor next (first ++ behind) running,
        runTasks_cons executor next first running]
      by_cases goesOn : (advance executor next run).job.status = .running
      · rw [if_pos goesOn, if_pos goesOn]
        refine ih (reachable.step (.task running)) goesOn ?_
        rw [advance_eq, results_record, List.length_append, List.length_singleton]
        rw [List.length_cons] at ahead
        omega
      · rw [if_neg goesOn, if_neg goesOn]
        exact ⟨rfl, rfl⟩

end Blocks

/-- A run that does not get beyond the task at a position. -/
structure Halts (executor : Executor σ) (workflow : Workflow) (inputs : Dictionary String)
    (state : σ) (position : Nat) (task : Task) : Prop where
  failed : (run executor workflow inputs state).job.status = .failed
  never_succeeded : ∀ point, Reachable executor workflow inputs state point →
    point.run.job.status ≠ .succeeded
  /-- No later task is begun. -/
  begun : (run executor workflow inputs state).job.results.length ≤ position + 1
  /-- The calls are those of the earlier tasks alone. -/
  calls : (run executor workflow inputs state).calls =
      (run executor { workflow with tasks := workflow.tasks.take position } inputs state).calls ∧
    (run executor workflow inputs state).state =
      (run executor { workflow with tasks := workflow.tasks.take position } inputs state).state
  /-- No step that carries out the task or a later one makes a call. -/
  no_call : ∀ before after, Reachable executor workflow inputs state before →
    Step executor before after → position ≤ before.run.job.results.length →
      after.run.calls = before.run.calls ∧ after.run.state = before.run.state
  /-- Where the task is due, it fails without an attempt, and the run ends. -/
  reached : ∀ point, Reachable executor workflow inputs state point →
    point.run.job.status = .running → point.run.job.results.length = position →
      ∃ cause, task.Unresolved point.run.job.context cause ∧
        run executor workflow inputs state =
          ⟨point.run.job.abort task.name 0 (.resolution cause), point.run.calls,
            point.run.state⟩
  /-- If the task has a result, that is why. -/
  result : ∀ result, (run executor workflow inputs state).job.results[position]? = some result →
    ∃ cause, result = .failure task.name 0 (.resolution cause) ∧
      task.Unresolved (run executor workflow inputs state).job.context cause

/-- **A task with a dangling reference is never carried out.** The run fails in front of it or at
it, whatever the executor answers, and no call is made for it or for a later task. -/
theorem run_halts {workflow : Workflow} (accepted : workflow.Accepted) {position : Nat}
    {task : Task} (found : workflow.tasks[position]? = some task) {reference : Reference}
    (used : reference ∈ task.requires ++ task.templateReferences) (inputs : Dictionary String)
    (dangling : reference.Dangling workflow inputs position) (executor : Executor σ) (state : σ) :
    Halts executor workflow inputs state position task := by
  have blocks : Blocks executor workflow inputs state position task :=
    fun _ reachable => reachable.exists_prepare_error accepted.wellNamed used dangling
  obtain ⟨ended, left, last⟩ := reachable_run executor workflow inputs state
  have held := last.held found blocks
  have inside := (List.getElem?_eq_some_iff.mp found).1
  -- The run of the earlier tasks is followed up to the position, where no call is added.
  have alone := Reachable.runTasks_append_of_blocks found blocks
    (workflow.tasks.take position) (workflow.tasks.drop position)
    (by rw [List.take_append_drop]; exact .initial) rfl
    (by
      rw [List.length_take_of_le (Nat.le_of_lt inside)]
      exact Nat.zero_add position)
  rw [List.take_append_drop] at alone
  refine
    { failed := ?_
      never_succeeded := fun _ reachable => (reachable.held found blocks).not_succeeded
      begun := held.begun
      calls := alone
      no_call := fun _ _ reachable step late => reachable.calls_eq_of_blocks found blocks step late
      reached := fun _ reachable running due => ?_
      result := held.unresolved }
  · cases last.stage with
    | running _ _ status _ => exact (ended status).elim
    | succeeded _ status _ => exact (held.not_succeeded status).elim
    | failed _ _ _ status _ => exact status
  · obtain ⟨cause, unresolved, ends⟩ := reachable.runTasks_of_blocks found blocks running due
    exact ⟨cause, unresolved, (reachable.runTasks_eq running).symm.trans ends⟩

/-- Without its input the relay does not call the executor. -/
theorem relay_run_halts :
    ∃ task reference, Workflow.relay.tasks[0]? = some task ∧
      reference ∈ task.requires ++ task.templateReferences ∧
      reference.Dangling .relay [("token", "t")] 0 ∧
      Halts (refusingFirst "Hi Ada") .relay [("token", "t")] 0 0 task := by
  have dangling : Reference.Dangling .relay [("token", "t")] 0 ⟨"workflow", ["input", "name"]⟩ :=
    .unsupplied rfl (by decide +kernel)
  refine ⟨_, _, rfl, ?_, dangling, ?_⟩
  · decide +kernel
  · exact run_halts Workflow.relay_accepted rfl (by decide +kernel) _ dangling _ _

end Engine

end Runbook
