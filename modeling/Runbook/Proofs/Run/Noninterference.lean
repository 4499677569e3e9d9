import Runbook.Proofs.Acceptance
import Runbook.Proofs.Context
import Runbook.Proofs.Run.Transcript

/-!
# Noninterference

An input that no task refers to has no influence on a run (`Engine.run_noninterference`). Two
contexts that agree outside the secret input stay so, since tasks see contexts only through their
references.
-/

namespace Runbook

namespace Context

/-- The contexts give the same value to each reference that does not meet the input. -/
def AgreeOutside (secret : String) (left right : Context) : Prop :=
  ∀ reference : Reference, ¬ reference.Comparable (inputPath secret) →
    left.lookup reference = right.lookup reference

/-- Contexts of inputs that differ in the secret only agree outside it. -/
theorem agreeOutside_withInputs {secret : String} {parameters : List String}
    {inputs others : Dictionary String}
    (agree : ∀ name ∈ parameters, name ≠ secret → inputs.get? name = others.get? name) :
    AgreeOutside secret (withInputs parameters inputs) (withInputs parameters others) := by
  obtain ⟨members, supplied, bindings⟩ := exists_supplied parameters inputs
  obtain ⟨otherMembers, otherSupplied, otherBindings⟩ := exists_supplied parameters others
  rintro ⟨space, path⟩ apart
  rw [bindings, otherBindings]
  by_cases foreign : space = workflowSpace
  · subst foreign
    cases path with
    | nil => exact (apart (Or.inl ⟨[inputSpace, secret], rfl⟩)).elim
    | cons segment path =>
        by_cases inputs : segment = inputSpace
        · subst inputs
          cases path with
          | nil => exact (apart (Or.inl ⟨[secret], rfl⟩)).elim
          | cons name rest =>
              by_cases same : name = secret
              · subst same
                exact (apart (Or.inr ⟨rest, rfl⟩)).elim
              · rw [lookup_inputBindings_input, lookup_inputBindings_input, supplied.get?_eq,
                  otherSupplied.get?_eq]
                by_cases declared : name ∈ parameters
                · rw [if_pos declared, if_pos declared, agree name declared same]
                · rw [if_neg declared, if_neg declared]
        · rw [lookup_inputBindings_eq_none (Or.inr ⟨segment, path, rfl, inputs⟩),
            lookup_inputBindings_eq_none (Or.inr ⟨segment, path, rfl, inputs⟩)]
  · rw [lookup_inputBindings_eq_none (Or.inl foreign),
      lookup_inputBindings_eq_none (Or.inl foreign)]

theorem AgreeOutside.publish {secret : String} {left right : Context}
    (agree : AgreeOutside secret left right) (task : String) (output : Output) :
    AgreeOutside secret (left.publish task output) (right.publish task output) := by
  intro reference apart
  rw [lookup_publish, lookup_publish, agree reference apart]

end Context

/-- The requirements and the templates of a task do not meet the input. -/
def Task.Ignores (secret : String) (task : Task) : Prop :=
  ∀ reference ∈ task.requires ++ task.templateReferences,
    ¬ reference.Comparable (inputPath secret)

instance (secret : String) (task : Task) : Decidable (task.Ignores secret) :=
  inferInstanceAs (Decidable (∀ reference ∈ task.requires ++ task.templateReferences, _))

namespace Engine

variable {σ : Type} {secret : String}

/-- A task that ignores an input comes to the same invocation, or to the same error, with and
without it. -/
theorem prepare_eq_of_agreeOutside {task : Task} (ignores : task.Ignores secret)
    {left right : Context} (agree : left.AgreeOutside secret right) :
    prepare task left = prepare task right :=
  prepare_congr fun reference member => agree reference (ignores reference member)

/-- Two runs that differ in what their contexts bind to the secret. -/
structure Indistinguishable (secret : String) (left right : Run σ) : Prop where
  calls : left.calls = right.calls
  state : left.state = right.state
  status : left.job.status = right.job.status
  results : left.job.results = right.job.results
  error : left.job.error = right.job.error
  context : left.job.context.AgreeOutside secret right.job.context

theorem Indistinguishable.advance {left right : Run σ}
    (same : Indistinguishable secret left right) {task : Task} (ignores : task.Ignores secret)
    (executor : Executor σ) :
    Indistinguishable secret (advance executor task left) (advance executor task right) := by
  have done : runTask executor task left.job.context left.state =
      runTask executor task right.job.context right.state := by
    rw [runTask, runTask, prepare_eq_of_agreeOutside ignores same.context, same.state]
  rw [advance_eq, advance_eq, done, same.calls]
  rcases runTask_result executor task right.job.context right.state with
    ⟨attempts, output, result⟩ | ⟨attempts, cause, result⟩
  · rw [result, record_success, record_success]
    exact ⟨rfl, rfl, same.status, by simp only [Job.pass, same.results], same.error,
      same.context.publish task.name output⟩
  · rw [result, record_failure, record_failure]
    exact ⟨rfl, rfl, rfl, by simp only [Job.abort, same.results], rfl, same.context⟩

theorem Indistinguishable.runTasks {tasks : List Task}
    (ignores : ∀ task ∈ tasks, task.Ignores secret) (executor : Executor σ) {left right : Run σ}
    (same : Indistinguishable secret left right) (running : left.job.status = .running) :
    Indistinguishable secret (runTasks executor tasks left) (runTasks executor tasks right) := by
  induction tasks generalizing left right with
  | nil => exact ⟨same.calls, same.state, rfl, same.results, same.error, same.context⟩
  | cons task tasks ih =>
      have next := same.advance (ignores task List.mem_cons_self) executor
      rw [runTasks_cons executor task tasks running,
        runTasks_cons executor task tasks (same.status ▸ running), ← next.status]
      by_cases goesOn : (Engine.advance executor task left).job.status = .running
      · rw [if_pos goesOn, if_pos goesOn]
        exact ih (fun task member => ignores task (List.mem_cons_of_mem _ member)) next goesOn
      · rw [if_neg goesOn, if_neg goesOn]
        exact next

/-- **An input that no task refers to does not influence a run.** The executor sees the same calls
and gives the same answers, and the jobs have the same status, results and error. -/
theorem run_noninterference {workflow : Workflow} {inputs others : Dictionary String}
    (agree : ∀ name ∈ workflow.inputParameters, name ≠ secret →
      inputs.get? name = others.get? name)
    (ignores : ∀ task ∈ workflow.tasks, task.Ignores secret) (executor : Executor σ) (state : σ) :
    transcript executor workflow inputs state = transcript executor workflow others state ∧
      Indistinguishable secret (run executor workflow inputs state)
        (run executor workflow others state) := by
  have start : Context.AgreeOutside secret
      (.withInputs workflow.inputParameters inputs) (.withInputs workflow.inputParameters others) :=
    Context.agreeOutside_withInputs agree
  have recorded : Indistinguishable secret (run executor.recorded workflow inputs (state, []))
      (run executor.recorded workflow others (state, [])) :=
    Indistinguishable.runTasks ignores executor.recorded ⟨rfl, rfl, rfl, rfl, rfl, start⟩ rfl
  have plain : Indistinguishable secret (run executor workflow inputs state)
      (run executor workflow others state) :=
    Indistinguishable.runTasks ignores executor ⟨rfl, rfl, rfl, rfl, rfl, start⟩ rfl
  exact ⟨congrArg Prod.snd recorded.state, plain⟩

/-- The token of the relay may be given or not. -/
theorem relay_run_noninterference :
    (∀ name ∈ Workflow.relay.inputParameters, name ≠ "token" →
      Dictionary.get? [("name", "Ada"), ("token", "a")] name =
        Dictionary.get? [("name", "Ada")] name) ∧
    (∀ task ∈ Workflow.relay.tasks, task.Ignores "token") ∧
      transcript (refusingFirst "Hi Ada") .relay [("name", "Ada"), ("token", "a")] 0 =
        transcript (refusingFirst "Hi Ada") .relay [("name", "Ada")] 0 := by
  have agree : ∀ name ∈ Workflow.relay.inputParameters, name ≠ "token" →
      Dictionary.get? [("name", "Ada"), ("token", "a")] name =
        Dictionary.get? [("name", "Ada")] name := by
    decide
  have ignores : ∀ task ∈ Workflow.relay.tasks, task.Ignores "token" := by
    decide
  exact ⟨agree, ignores, (run_noninterference agree ignores (refusingFirst "Hi Ada") 0).1⟩

end Engine

end Runbook
