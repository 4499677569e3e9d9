import Runbook.Proofs.Acceptance
import Runbook.Proofs.Context
import Runbook.Proofs.Run.Step

/-!
# Bindings of running jobs

At every point of a run the context holds the supplied inputs and the outputs of the tasks that have
succeeded, and nothing else (`Engine.Reachable.bound`). No task can overwrite the inputs or the
output of another task, since names are told apart when a workflow is accepted.
-/

namespace Runbook

/-- A context holds the inputs and the outputs that the results record, and nothing else. -/
structure Context.Bound (workflow : Workflow) (inputs : Dictionary String)
    (results : List TaskResult) (context : Context) : Prop where
  sorted : context.bindings.Sorted
  workflowSpace_mem_iff : workflowSpace ∈ context.bindings.keys ↔
    AnySupplied workflow.inputParameters inputs
  mem_iff : ∀ key, key ≠ workflowSpace → (key ∈ context.bindings.keys ↔
    ∃ result ∈ results, result.status = .succeeded ∧ result.name = key)
  name_not_reserved : ∀ result ∈ results, result.name ≠ workflowSpace
  /-- The name space of the workflow has one member, which holds the inputs. -/
  get?_workflowSpace : AnySupplied workflow.inputParameters inputs →
    ∃ members, Supplied workflow.inputParameters inputs members ∧
      context.bindings.get? workflowSpace = some (.object [(inputSpace, .object members)])
  unchanged : context.bindings.get? workflowSpace =
    (withInputs workflow.inputParameters inputs).bindings.get? workflowSpace
  get?_name : ∀ result ∈ results, result.status = .succeeded →
    ∃ output, result.output = some output ∧
      context.bindings.get? result.name = some output.published

namespace Context

variable {workflow : Workflow} {inputs : Dictionary String}

/-- A job starts with its inputs only. -/
theorem bound_withInputs (workflow : Workflow) (inputs : Dictionary String) :
    Bound workflow inputs [] (withInputs workflow.inputParameters inputs) := by
  obtain ⟨members, supplied, bindings⟩ := exists_supplied workflow.inputParameters inputs
  cases members with
  | nil =>
      have nothing : ¬ AnySupplied workflow.inputParameters inputs :=
        fun given => supplied.ne_nil_iff.mpr given rfl
      refine ⟨?_, ?_, ?_, ?_, fun given => (nothing given).elim, rfl, ?_⟩
      · rw [bindings]
        exact List.Pairwise.nil
      · rw [bindings]
        exact iff_of_false List.not_mem_nil nothing
      · intro key _
        rw [bindings]
        exact iff_of_false List.not_mem_nil (by simp)
      · intro result member
        cases member
      · intro result member
        cases member
  | cons entry rest =>
      have given : AnySupplied workflow.inputParameters inputs :=
        supplied.ne_nil_iff.mp (List.cons_ne_nil _ _)
      refine ⟨?_, ?_, ?_, ?_, fun _ => ⟨entry :: rest, supplied, ?_⟩, rfl, ?_⟩
      · rw [bindings]
        exact List.pairwise_singleton _ _
      · rw [bindings]
        exact iff_of_true (List.mem_singleton_self _) given
      · intro key different
        rw [bindings]
        refine iff_of_false ?_ (by simp)
        intro member
        exact different (List.mem_singleton.mp member)
      · intro result member
        cases member
      · rw [bindings]
        rfl
      · intro result member
        cases member

/-- A task whose name is free adds its output. -/
theorem Bound.publish {results : List TaskResult} {context : Context}
    (bound : Bound workflow inputs results context) {name : String}
    (free : name ≠ workflowSpace) (fresh : ∀ result ∈ results, result.name ≠ name) (attempts : Nat)
    (output : Output) :
    Bound workflow inputs (results ++ [.success name attempts output])
      (context.publish name output) where
  sorted := Dictionary.sorted_insert _ _ bound.sorted
  workflowSpace_mem_iff := by
    rw [← bound.workflowSpace_mem_iff]
    exact Dictionary.mem_keys_insert.trans (or_iff_right (Ne.symm free))
  mem_iff key different := by
    refine Dictionary.mem_keys_insert.trans ?_
    rw [bound.mem_iff key different]
    constructor
    · rintro (rfl | ⟨result, member, succeeded, named⟩)
      · exact ⟨_, List.mem_concat_self, rfl, rfl⟩
      · exact ⟨result, List.mem_append_left _ member, succeeded, named⟩
    · rintro ⟨result, member, succeeded, named⟩
      rcases List.mem_append.mp member with earlier | last
      · exact Or.inr ⟨result, earlier, succeeded, named⟩
      · rw [List.mem_singleton.mp last] at named
        exact Or.inl named.symm
  name_not_reserved result member := by
    rcases List.mem_append.mp member with earlier | last
    · exact bound.name_not_reserved result earlier
    · rw [List.mem_singleton.mp last]
      exact free
  get?_workflowSpace given := by
    obtain ⟨members, supplied, found⟩ := bound.get?_workflowSpace given
    exact ⟨members, supplied, (Dictionary.get?_insert_of_ne (Ne.symm free) _ _).trans found⟩
  unchanged := (Dictionary.get?_insert_of_ne (Ne.symm free) _ _).trans bound.unchanged
  get?_name result member succeeded := by
    rcases List.mem_append.mp member with earlier | last
    · obtain ⟨published, recorded, found⟩ := bound.get?_name result earlier succeeded
      refine ⟨published, recorded, ?_⟩
      exact (Dictionary.get?_insert_of_ne (fresh result earlier) _ _).trans found
    · rw [List.mem_singleton.mp last]
      exact ⟨output, rfl, Dictionary.get?_insert_self _ _ _⟩

/-- A task that fails adds nothing. -/
theorem Bound.fail {results : List TaskResult} {context : Context}
    (bound : Bound workflow inputs results context) {name : String} (free : name ≠ workflowSpace)
    (attempts : Nat) (cause : TaskError) :
    Bound workflow inputs (results ++ [.failure name attempts cause]) context where
  sorted := bound.sorted
  workflowSpace_mem_iff := bound.workflowSpace_mem_iff
  mem_iff key different := by
    rw [bound.mem_iff key different]
    constructor
    · rintro ⟨result, member, succeeded, named⟩
      exact ⟨result, List.mem_append_left _ member, succeeded, named⟩
    · rintro ⟨result, member, succeeded, named⟩
      rcases List.mem_append.mp member with earlier | last
      · exact ⟨result, earlier, succeeded, named⟩
      · rw [List.mem_singleton.mp last] at succeeded
        cases succeeded
  name_not_reserved result member := by
    rcases List.mem_append.mp member with earlier | last
    · exact bound.name_not_reserved result earlier
    · rw [List.mem_singleton.mp last]
      exact free
  get?_workflowSpace := bound.get?_workflowSpace
  unchanged := bound.unchanged
  get?_name result member succeeded := by
    rcases List.mem_append.mp member with earlier | last
    · exact bound.get?_name result earlier succeeded
    · rw [List.mem_singleton.mp last] at succeeded
      cases succeeded

/-- The inputs and the results determine the context. -/
theorem Bound.unique {results : List TaskResult} {left right : Context}
    (leftBound : Bound workflow inputs results left)
    (rightBound : Bound workflow inputs results right) : left = right := by
  have values : ∀ key, left.bindings.get? key = right.bindings.get? key := by
    intro key
    by_cases reserved : key = workflowSpace
    · rw [reserved, leftBound.unchanged, rightBound.unchanged]
    · by_cases bound : key ∈ left.bindings.keys
      · obtain ⟨result, member, succeeded, rfl⟩ := (leftBound.mem_iff key reserved).mp bound
        obtain ⟨output, published, found⟩ := leftBound.get?_name result member succeeded
        obtain ⟨other, same, otherFound⟩ := rightBound.get?_name result member succeeded
        rw [published, Option.some.injEq] at same
        rw [found, otherFound, same]
      · have unbound : key ∉ right.bindings.keys := by
          rwa [rightBound.mem_iff key reserved, ← leftBound.mem_iff key reserved]
        rw [Dictionary.mem_keys_iff, Option.not_isSome_iff_eq_none] at bound unbound
        rw [bound, unbound]
  have bindings : left.bindings = right.bindings :=
    Dictionary.eq_of_get?_eq leftBound.sorted rightBound.sorted values
  cases left
  cases right
  exact congrArg Context.mk bindings

end Context

namespace Engine

variable {σ : Type} {executor : Executor σ} {workflow : Workflow} {inputs : Dictionary String}
  {state : σ}

/-- The results of passed tasks do not have the name of a later task. -/
theorem name_ne_of_allPassed {passed left : List Task} {task : Task} {results : List TaskResult}
    (distinct : ((passed ++ task :: left).map Task.name).Nodup)
    (allPassed : AllPassed passed results) :
    ∀ result ∈ results, result.name ≠ task.name := by
  intro result member same
  have listed : result.name ∈ passed.map Task.name :=
    allPassed.names ▸ List.mem_map_of_mem member
  rw [List.map_append, List.nodup_append] at distinct
  exact distinct.2.2 result.name listed task.name List.mem_cons_self same

/-- One step keeps the bindings. -/
theorem Stage.bound_step (named : workflow.WellNamed) {before after : Point σ}
    (stage : Stage workflow.tasks before.run.job before.left)
    (bound : before.run.job.context.Bound workflow inputs before.run.job.results)
    (step : Step executor before after) :
    after.run.job.context.Bound workflow inputs after.run.job.results := by
  cases step with
  | finish => exact bound
  | @task run task left running =>
      obtain ⟨passed, split, allPassed, -⟩ := stage.of_running running
      have free : task.name ≠ workflowSpace := by
        apply named.name_not_reserved
        rw [split]
        exact List.mem_append_right _ List.mem_cons_self
      have fresh : ∀ result ∈ run.job.results, result.name ≠ task.name :=
        name_ne_of_allPassed (split ▸ named.names_nodup) allPassed
      dsimp only
      rcases advance_job executor task run with
        ⟨attempts, output, moved⟩ | ⟨attempts, cause, moved⟩
      · rw [moved]
        exact bound.publish free fresh attempts output
      · rw [moved]
        exact bound.fail free attempts cause

theorem Reachable.bound (named : workflow.WellNamed) {point : Point σ}
    (reachable : Reachable executor workflow inputs state point) :
    point.run.job.context.Bound workflow inputs point.run.job.results := by
  induction reachable with
  | initial => exact Context.bound_withInputs workflow inputs
  | step before step ih => exact before.stage.bound_step named ih step

/-- A step with which a job fails leaves its context as it was. -/
theorem Step.context_eq_of_failed {before after : Point σ} (step : Step executor before after)
    (failed : after.run.job.status = .failed) :
    after.run.job.context = before.run.job.context := by
  cases step with
  | finish => cases failed
  | @task run task left running =>
      rcases advance_job executor task run with ⟨attempts, output, moved⟩ | ⟨attempts, cause, moved⟩
      · dsimp only at failed
        rw [moved] at failed
        rw [Job.pass, running] at failed
        cases failed
      · dsimp only
        rw [moved]
        rfl

/-- **Nothing is lost or overwritten in the context of a job.** This holds at each point on the way
of a run to its end and at the end itself, and a task that fails changes nothing. -/
theorem run_bound (accepted : workflow.Accepted) (executor : Executor σ)
    (inputs : Dictionary String) (state : σ) :
    (∀ point, Reachable executor workflow inputs state point →
      point.run.job.context.Bound workflow inputs point.run.job.results ∧
        (point.run.job.status = .running →
          runTasks executor point.left point.run = run executor workflow inputs state)) ∧
    (∃ left, Reachable executor workflow inputs state ⟨run executor workflow inputs state, left⟩) ∧
    (run executor workflow inputs state).job.context.Bound workflow inputs
      (run executor workflow inputs state).job.results ∧
    ∀ before after, Reachable executor workflow inputs state before →
      Step executor before after → after.run.job.status = .failed →
        after.run.job.context = before.run.job.context := by
  obtain ⟨-, left, reachable⟩ := reachable_run executor workflow inputs state
  refine ⟨fun point reached => ⟨reached.bound accepted.wellNamed, reached.runTasks_eq⟩,
    ⟨left, reachable⟩, reachable.bound accepted.wellNamed, ?_⟩
  intro before after _ step failed
  exact step.context_eq_of_failed failed

/-- An output may itself have members that are called as the inputs are. -/
theorem relay_run_bound :
    Workflow.relay.Accepted ∧
      (∀ point, Reachable (refusingFirst "\x7b\"workflow\": \x7b\"input\": 1\x7d\x7d") .relay
          [("name", "Ada")] 0 point →
        point.run.job.context.Bound .relay [("name", "Ada")] point.run.job.results) :=
  ⟨Workflow.relay_accepted, fun point reachable =>
    ((run_bound Workflow.relay_accepted _ _ _).1 point reachable).1⟩

end Engine

end Runbook
