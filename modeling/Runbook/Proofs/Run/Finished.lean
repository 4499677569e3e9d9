import Runbook.Proofs.Acceptance
import Runbook.Proofs.Run.Step

/-!
# Finished jobs

The status, the results, the error and the queries of a job agree when a run has ended
(`Engine.run_finished`): the job has succeeded with one result for each task, or it has failed with
the last of its results.
-/

namespace Runbook

/-- What a finished job looks like. -/
structure Job.Finished (workflow : Workflow) (job : Job) : Prop where
  terminal : job.status.isTerminal
  results_nonempty : job.results ≠ []
  /-- Tasks are begun in order, from the first one on. -/
  names_isPrefix : job.results.map TaskResult.name <+: workflow.tasks.map Task.name
  names_nodup : (job.results.map TaskResult.name).Nodup
  earlier_succeeded : ∀ result ∈ job.results.dropLast,
    result.status = .succeeded ∧ (∃ output, result.output = some output) ∧ result.error = none
  succeeded_iff : job.status = .succeeded ↔
    job.results.map TaskResult.name = workflow.tasks.map Task.name ∧
      ∀ result ∈ job.results, result.status = .succeeded
  of_succeeded : job.status = .succeeded →
    (∀ result ∈ job.results, (∃ output, result.output = some output) ∧ result.error = none) ∧
      job.error = none ∧ job.failedTask? = none
  failed_iff : job.status = .failed ↔
    ∃ last, job.results.getLast? = some last ∧ last.status = .failed
  of_failed : job.status = .failed → ∃ last cause, job.results.getLast? = some last ∧
    last.error = some cause ∧ last.output = none ∧
      job.error = some ⟨last.name, last.attempts, cause⟩ ∧ job.failedTask? = some last
  outcome_error_iff : (∃ error, job.outcome = .error error) ↔ job.status = .failed
  outcome_ok_iff : job.outcome = .ok job ↔ job.status = .succeeded
  /-- The name of a task finds the result of this task, if it was begun. -/
  result?_name : ∀ (index : Nat) (task : Task), workflow.tasks[index]? = some task →
    job.result? task.name = job.results[index]?

namespace Engine

variable {σ : Type}

/-- Names that differ from each other find the result at their own position. -/
theorem find?_name {results : List TaskResult} {names : List String}
    (listed : results.map TaskResult.name <+: names) (distinct : names.Nodup) {index : Nat}
    {name : String} (found : names[index]? = some name) :
    results.find? (fun result => result.name == name) = results[index]? := by
  induction results generalizing names index with
  | nil => rw [List.find?_nil, List.getElem?_nil]
  | cons result results ih =>
      obtain ⟨rest, rfl⟩ := listed
      rw [List.map_cons, List.cons_append] at found distinct
      obtain ⟨absent, distinct⟩ := List.nodup_cons.mp distinct
      cases index with
      | zero =>
          rw [List.getElem?_cons_zero, Option.some.injEq] at found
          rw [List.find?_cons, List.getElem?_cons_zero, beq_iff_eq.mpr found]
      | succ index =>
          rw [List.getElem?_cons_succ] at found
          have different : result.name ≠ name :=
            fun same => absent (same ▸ List.mem_of_getElem? found)
          rw [List.find?_cons, List.getElem?_cons_succ, beq_eq_false_iff_ne.mpr different]
          exact ih (List.prefix_append _ _) distinct found

theorem find?_failed_eq_none {tasks : List Task} {results : List TaskResult}
    (passed : AllPassed tasks results) :
    results.find? (fun result => result.status == .failed) = none := by
  apply List.find?_eq_none.mpr
  intro result member
  obtain ⟨name, attempts, output, rfl⟩ := passed.exists_success member
  exact Bool.false_ne_true

/-- A job whose tasks have all succeeded is finished. -/
theorem finished_of_succeeded {workflow : Workflow} {job : Job} (named : workflow.WellNamed)
    (passed : AllPassed workflow.tasks job.results) (status : job.status = .succeeded)
    (error : job.error = none) : job.Finished workflow := by
  have each : ∀ result ∈ job.results, result.status = .succeeded ∧
      (∃ output, result.output = some output) ∧ result.error = none := by
    intro result member
    obtain ⟨name, attempts, output, rfl⟩ := passed.exists_success member
    exact ⟨rfl, ⟨output, rfl⟩, rfl⟩
  have outcome : job.outcome = .ok job := by
    rw [Job.outcome, error]
  have notFailed : job.status ≠ .failed := by
    rw [status]
    exact JobStatus.noConfusion
  refine
    { terminal := by rw [status]; rfl
      results_nonempty := ?_
      names_isPrefix := passed.names ▸ List.prefix_rfl
      names_nodup := passed.names ▸ named.names_nodup
      earlier_succeeded := fun result member => each result (List.dropLast_subset _ member)
      succeeded_iff :=
        iff_of_true status ⟨passed.names, fun result member => (each result member).1⟩
      of_succeeded := fun _ =>
        ⟨fun result member => (each result member).2, error, find?_failed_eq_none passed⟩
      failed_iff := iff_of_false notFailed ?_
      of_failed := fun failed => (notFailed failed).elim
      outcome_error_iff := iff_of_false ?_ notFailed
      outcome_ok_iff := iff_of_true outcome status
      result?_name := ?_ }
  · intro empty
    rw [empty] at passed
    exact named.tasks_nonempty (List.forall₂_nil_right_iff.mp passed)
  · rintro ⟨last, found, failed⟩
    rw [(each last (List.mem_of_getLast? found)).1] at failed
    cases failed
  · rintro ⟨error, failed⟩
    rw [outcome] at failed
    cases failed
  · intro index task found
    refine find?_name (passed.names ▸ List.prefix_rfl) named.names_nodup ?_
    rw [List.getElem?_map, found]
    rfl

/-- A job that was given up is finished. -/
theorem finished_of_failed {workflow : Workflow} {job : Job} {passed left : List Task} {task : Task}
    {earlier : List TaskResult} {attempts : Nat} {cause : TaskError} (named : workflow.WellNamed)
    (split : workflow.tasks = passed ++ task :: left) (allPassed : AllPassed passed earlier)
    (results : job.results = earlier ++ [.failure task.name attempts cause])
    (status : job.status = .failed) (error : job.error = some ⟨task.name, attempts, cause⟩) :
    job.Finished workflow := by
  have names : job.results.map TaskResult.name = (passed ++ [task]).map Task.name := by
    rw [results, List.map_append, List.map_append, allPassed.names]
    rfl
  have listed : job.results.map TaskResult.name <+: workflow.tasks.map Task.name := by
    rw [names, split]
    refine List.IsPrefix.map _ ⟨left, ?_⟩
    rw [List.append_assoc]
    rfl
  have last : job.results.getLast? = some (.failure task.name attempts cause) := by
    rw [results, List.getLast?_concat]
  have abandoned : job.failedTask? = some (.failure task.name attempts cause) := by
    rw [Job.failedTask?, results, List.find?_append, find?_failed_eq_none allPassed]
    rfl
  have outcome : job.outcome = .error ⟨task.name, attempts, cause⟩ := by
    rw [Job.outcome, error]
  have notSucceeded : job.status ≠ .succeeded := by
    rw [status]
    exact JobStatus.noConfusion
  refine
    { terminal := by rw [status]; rfl
      results_nonempty := ?_
      names_isPrefix := listed
      names_nodup := named.names_nodup.sublist listed.sublist
      earlier_succeeded := ?_
      succeeded_iff := iff_of_false notSucceeded ?_
      of_succeeded := fun succeeded => (notSucceeded succeeded).elim
      failed_iff := iff_of_true status ⟨_, last, rfl⟩
      of_failed := fun _ => ⟨_, cause, last, rfl, rfl, error, abandoned⟩
      outcome_error_iff := iff_of_true ⟨_, outcome⟩ status
      outcome_ok_iff := iff_of_false ?_ notSucceeded
      result?_name := ?_ }
  · rw [results]
    exact List.concat_ne_nil _ _
  · intro result member
    rw [results, List.dropLast_concat] at member
    obtain ⟨name, attempts, output, rfl⟩ := allPassed.exists_success member
    exact ⟨rfl, ⟨output, rfl⟩, rfl⟩
  · rintro ⟨-, succeeded⟩
    have clash := succeeded _ (List.mem_of_getLast? last)
    cases clash
  · intro succeeded
    rw [outcome] at succeeded
    cases succeeded
  · intro index other found
    refine find?_name listed named.names_nodup ?_
    rw [List.getElem?_map, found]
    rfl

/-- **Every run ends with a finished job.** This holds for each executor and for all inputs. -/
theorem run_finished {workflow : Workflow} (accepted : workflow.Accepted) (executor : Executor σ)
    (inputs : Dictionary String) (state : σ) :
    (run executor workflow inputs state).job.Finished workflow := by
  obtain ⟨ended, left, reachable⟩ := reachable_run executor workflow inputs state
  have stage := reachable.stage
  cases stage with
  | running _ _ status _ => exact (ended status).elim
  | succeeded passed status error =>
      exact finished_of_succeeded accepted.wellNamed passed status error
  | failed split passed results status error =>
      exact finished_of_failed accepted.wellNamed split passed results status error

theorem relay_run_finished :
    Workflow.relay.Accepted ∧
      (run (refusingFirst "Hi Ada") .relay [("name", "Ada")] 0).job.Finished .relay ∧
      (run (refusingFirst "Hi Ada") .relay [("name", "Ada")] 0).job.results.map
        TaskResult.attempts = [2, 1] :=
  ⟨Workflow.relay_accepted, run_finished Workflow.relay_accepted _ _ _, by decide +kernel⟩

end Engine

end Runbook
