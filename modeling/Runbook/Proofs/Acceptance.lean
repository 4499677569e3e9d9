import Mathlib.Data.List.Forall2
import Runbook.Builder
import Runbook.Document
import Runbook.Proofs.Validation.Task

/-!
# Accepted workflows and well-formed drafts

What runs rely on in the workflows that documents and builders give, and which drafts of workflows
are accepted.
-/

namespace Runbook

/-! ## Accepted workflows

The workflows that documents and builders give (`Workflow.Accepted`) have been validated. What runs
rely on is that their names and parameters are told apart (`Workflow.WellNamed`). -/

/-- A workflow that a document or a builder gives. -/
inductive Workflow.Accepted : Workflow → Prop
  | parsed {bytes : List UInt8} {workflow : Workflow} :
      Document.parse bytes = .ok workflow → Accepted workflow
  | built {name : String} {settings : List WorkflowSetting} {workflow : Workflow} :
      buildWorkflow name settings = .ok workflow → Accepted workflow

/-- A workflow of two programs, the second of which repeats what the first one says. Nothing refers
to its second parameter. -/
def Workflow.relay : Workflow where
  name := "relay"
  description := ""
  version := 0
  schemaVersion := 0
  inputParameters := ["name", "token"]
  tasks := [
    ⟨"say", [], 1, .cli ⟨[⟨"echo", [.literal "echo"]⟩,
      ⟨"Hi $\x7bworkflow.input.name\x7d",
        [.literal "Hi ", .reference ⟨"workflow", ["input", "name"]⟩]⟩], none⟩⟩,
    ⟨"repeat", [⟨"say", ["output"]⟩], 0, .cli ⟨[⟨"echo", [.literal "echo"]⟩,
      ⟨"$\x7bsay.output\x7d", [.reference ⟨"say", ["output"]⟩]⟩], none⟩⟩]

theorem Workflow.relay_accepted : relay.Accepted := by
  have built : buildWorkflow "relay" [
      .input "name", .input "token",
      .task ((TaskDraft.runProgram "say" ["echo", "Hi $\x7bworkflow.input.name\x7d"]).set
        (.retries 1)),
      .task ((TaskDraft.runProgram "repeat" ["echo", "$\x7bsay.output\x7d"]).set
        (.requires "$\x7bsay.output\x7d"))] = .ok relay := by
    decide +kernel
  exact .built built

/-- Parameters are validated when they are named and differ from each other. -/
theorem validateParameters_eq_ok_iff {seen names : List String} :
    validateParameters seen names = .ok () ↔
      names.Nodup ∧ ∀ name ∈ names, name ≠ "" ∧ name ∉ seen := by
  induction names generalizing seen with
  | nil => simp [validateParameters]
  | cons name names ih =>
      rw [validateParameters]
      by_cases blank : name = ""
      · simp [blank]
      · have named : name.isEmpty = false := by
          simpa using blank
        by_cases repeated : name ∈ seen
        · simp [named, repeated]
        · simp only [named, List.contains_iff_mem, repeated, Bool.false_eq_true, ↓reduceIte, ih,
            List.nodup_cons, List.mem_cons, not_or, forall_eq_or_imp]
          constructor
          · rintro ⟨distinct, fresh⟩
            exact ⟨⟨fun member => (fresh name member).2.1 rfl, distinct⟩, ⟨blank, not_false⟩,
              fun other member => ⟨(fresh other member).1, (fresh other member).2.2⟩⟩
          · rintro ⟨⟨absent, distinct⟩, -, fresh⟩
            refine ⟨distinct, fun other member => ?_⟩
            obtain ⟨given, unseen⟩ := fresh other member
            refine ⟨given, ?_, unseen⟩
            rintro rfl
            exact absent member

/-- A validated task has the name of its draft, which is not reserved. -/
theorem TaskDraft.name_of_validate {draft : TaskDraft} {task : Task}
    (valid : draft.validate = .ok task) : task.name = draft.name ∧ task.name ≠ workflowSpace := by
  obtain ⟨named, payload, requires, -, -, rfl⟩ := validate_eq_ok_iff.mp valid
  obtain ⟨-, free, -⟩ := validateName_eq_ok_iff.mp named
  exact ⟨rfl, free⟩

/-- Tasks are validated when each one is and their names differ from each other. -/
theorem validateTasks_eq_ok_iff {seen : List String} {drafts : List TaskDraft}
    {tasks : List Task} :
    validateTasks seen drafts = .ok tasks ↔
      List.Forall₂ (fun draft task => draft.validate = .ok task) drafts tasks ∧
        (tasks.map Task.name).Nodup ∧ ∀ task ∈ tasks, task.name ∉ seen := by
  induction drafts generalizing seen tasks with
  | nil =>
      rw [validateTasks, List.forall₂_nil_left_iff]
      constructor
      · intro done
        cases done
        simp
      · rintro ⟨rfl, -⟩
        rfl
  | cons draft drafts ih =>
      rw [validateTasks, List.forall₂_cons_left_iff]
      constructor
      · intro done
        obtain ⟨task, valid, rest⟩ := bind_eq_ok_iff.mp done
        by_cases repeated : task.name ∈ seen
        · simp only [List.contains_iff_mem, repeated, ↓reduceIte] at rest
          cases rest
        · simp only [List.contains_iff_mem, repeated, ↓reduceIte] at rest
          obtain ⟨later, validated, built⟩ := bind_eq_ok_iff.mp rest
          cases built
          obtain ⟨all, distinct, fresh⟩ := ih.mp validated
          refine ⟨⟨task, later, valid, all, rfl⟩, ?_, ?_⟩
          · rw [List.map_cons, List.nodup_cons]
            refine ⟨fun clash => ?_, distinct⟩
            obtain ⟨other, member, named⟩ := List.mem_map.mp clash
            exact fresh other member (named ▸ List.mem_cons_self)
          · intro other member
            rcases List.mem_cons.mp member with rfl | member
            · exact repeated
            · exact fun clash => fresh other member (List.mem_cons_of_mem _ clash)
      · rintro ⟨⟨task, later, valid, all, rfl⟩, distinct, fresh⟩
        obtain ⟨absent, distinct⟩ := List.nodup_cons.mp distinct
        have validated : validateTasks (task.name :: seen) drafts = .ok later := by
          refine ih.mpr ⟨all, distinct, fun other member clash => ?_⟩
          rcases List.mem_cons.mp clash with same | clash
          · exact absent (same ▸ List.mem_map_of_mem member)
          · exact fresh other (List.mem_cons_of_mem _ member) clash
        refine bind_eq_ok_iff.mpr ⟨task, valid, ?_⟩
        simp only [List.contains_iff_mem, fresh task List.mem_cons_self, ↓reduceIte]
        exact bind_eq_ok_iff.mpr ⟨later, validated, rfl⟩

/-- What the validation of a workflow checks, and the workflow that it gives. -/
theorem WorkflowDraft.validate_eq_ok_iff {draft : WorkflowDraft} {workflow : Workflow} :
    draft.validate = .ok workflow ↔
      Text.isBlankText draft.name = false ∧
      validateParameters [] draft.inputParameters = .ok () ∧ draft.tasks ≠ [] ∧
      ∃ tasks, validateTasks [] draft.tasks = .ok tasks ∧
        workflow = ⟨draft.name, draft.description, draft.version, draft.schemaVersion,
          draft.inputParameters, tasks⟩ := by
  rw [validate]
  cases named : Text.isBlankText draft.name with
  | true =>
      simp only [↓reduceIte, Bool.true_eq_false, false_and, iff_false]
      exact fun done => nomatch done
  | false =>
      simp only [Bool.false_eq_true, ↓reduceIte, true_and, List.isEmpty_iff]
      constructor
      · intro done
        obtain ⟨_, parameters, rest⟩ := bind_eq_ok_iff.mp done
        by_cases empty : draft.tasks = []
        · simp only [empty, ↓reduceIte] at rest
          cases rest
        · simp only [empty, ↓reduceIte] at rest
          obtain ⟨tasks, validated, built⟩ := bind_eq_ok_iff.mp rest
          cases built
          exact ⟨parameters, empty, tasks, validated, rfl⟩
      · rintro ⟨parameters, nonempty, tasks, validated, rfl⟩
        refine bind_eq_ok_iff.mpr ⟨(), parameters, ?_⟩
        simp only [nonempty, ↓reduceIte]
        exact bind_eq_ok_iff.mpr ⟨tasks, validated, rfl⟩

namespace Workflow

/-- What runs rely on: there is a task, and names and parameters are told apart. -/
structure WellNamed (workflow : Workflow) : Prop where
  tasks_nonempty : workflow.tasks ≠ []
  names_nodup : (workflow.tasks.map Task.name).Nodup
  name_not_reserved : ∀ task ∈ workflow.tasks, task.name ≠ workflowSpace
  parameters_nodup : workflow.inputParameters.Nodup
  parameter_named : ∀ name ∈ workflow.inputParameters, name ≠ ""

theorem Accepted.exists_draft {workflow : Workflow} (accepted : workflow.Accepted) :
    ∃ draft : WorkflowDraft, draft.validate = .ok workflow := by
  cases accepted with
  | @built name settings _ done => exact ⟨_, done⟩
  | @parsed bytes _ done =>
      rw [Document.parse] at done
      cases decoded : Document.decode bytes with
      | none =>
          rw [decoded] at done
          cases done
      | some value =>
          rw [decoded] at done
          cases read : Document.interpret value with
          | error cause =>
              simp only [read] at done
              cases done
          | ok found =>
              simp only [read] at done
              cases done
              obtain ⟨draft, -, valid⟩ := bind_eq_ok_iff.mp read
              exact ⟨draft, valid⟩

/-- Accepted workflows are well named. -/
theorem Accepted.wellNamed {workflow : Workflow} (accepted : workflow.Accepted) :
    workflow.WellNamed := by
  obtain ⟨draft, valid⟩ := accepted.exists_draft
  obtain ⟨-, parameters, nonempty, tasks, validated, rfl⟩ :=
    WorkflowDraft.validate_eq_ok_iff.mp valid
  obtain ⟨distinctParameters, named⟩ := validateParameters_eq_ok_iff.mp parameters
  obtain ⟨all, distinct, -⟩ := validateTasks_eq_ok_iff.mp validated
  refine ⟨?_, distinct, ?_, distinctParameters, fun name member => (named name member).1⟩
  · rintro rfl
    exact nonempty (List.forall₂_nil_right_iff.mp all)
  · intro task member
    obtain ⟨index, inside, rfl⟩ := List.getElem_of_mem member
    exact (TaskDraft.name_of_validate (all.get (all.length_eq ▸ inside) inside)).2

end Workflow

/-! ## Well-formed workflows

What the draft of a workflow has to satisfy (`WorkflowDraft.WellFormed`), and what a workflow keeps
of its draft (`Workflow.CarriesOver`). Validation accepts exactly the well-formed drafts and carries
them over (`WorkflowDraft.exists_validate_iff_and_carriesOver`). -/

/-- What the draft of a workflow has to satisfy. -/
structure WorkflowDraft.WellFormed (draft : WorkflowDraft) : Prop where
  name_given : Text.Given draft.name
  parameters_given : ∀ parameter ∈ draft.inputParameters, parameter ≠ ""
  parameters_nodup : draft.inputParameters.Nodup
  tasks_nonempty : draft.tasks ≠ []
  tasks : ∀ task ∈ draft.tasks, task.WellFormed
  names_nodup : (draft.tasks.map TaskDraft.name).Nodup

/-- What a workflow keeps of its draft. -/
structure Workflow.CarriesOver (workflow : Workflow) (draft : WorkflowDraft) : Prop where
  name : workflow.name = draft.name
  description : workflow.description = draft.description
  version : workflow.version = draft.version
  schemaVersion : workflow.schemaVersion = draft.schemaVersion
  inputParameters : workflow.inputParameters = draft.inputParameters
  tasks : List.Forall₂ Task.CarriesOver workflow.tasks draft.tasks

/-- Validated tasks have the names of their drafts, in order. -/
theorem TaskDraft.names_of_validate {drafts : List TaskDraft} {tasks : List Task}
    (valid : List.Forall₂ (fun draft task => draft.validate = .ok task) drafts tasks) :
    tasks.map Task.name = drafts.map TaskDraft.name := by
  induction valid with
  | nil => rfl
  | cons first _ ih => exact congrArg₂ List.cons (TaskDraft.name_of_validate first).1 ih

/-- Tasks are validated exactly if each one is well formed and their names differ. -/
theorem exists_validateTasks_iff {drafts : List TaskDraft} :
    (∃ tasks, validateTasks [] drafts = .ok tasks) ↔
      (∀ draft ∈ drafts, draft.WellFormed) ∧ (drafts.map TaskDraft.name).Nodup := by
  have wellFormed : (∀ draft ∈ drafts, draft.WellFormed) ↔
      ∃ tasks, List.Forall₂ (fun draft task => draft.validate = .ok task) drafts tasks := by
    simp only [exists_forall₂_iff, TaskDraft.exists_validate_iff]
  rw [wellFormed]
  constructor
  · rintro ⟨tasks, validated⟩
    obtain ⟨valid, distinct, -⟩ := validateTasks_eq_ok_iff.mp validated
    exact ⟨⟨tasks, valid⟩, TaskDraft.names_of_validate valid ▸ distinct⟩
  · rintro ⟨⟨tasks, valid⟩, distinct⟩
    have named := TaskDraft.names_of_validate valid
    exact ⟨tasks, validateTasks_eq_ok_iff.mpr
      ⟨valid, named ▸ distinct, fun task _ => List.not_mem_nil⟩⟩

namespace WorkflowDraft

/-- Workflows are validated exactly if they are well formed. -/
theorem exists_validate_iff {draft : WorkflowDraft} :
    (∃ workflow, draft.validate = .ok workflow) ↔ draft.WellFormed := by
  constructor
  · rintro ⟨workflow, valid⟩
    obtain ⟨named, parameters, nonempty, tasks, validated, -⟩ := validate_eq_ok_iff.mp valid
    obtain ⟨distinct, given⟩ := validateParameters_eq_ok_iff.mp parameters
    obtain ⟨wellFormed, names⟩ := exists_validateTasks_iff.mp ⟨tasks, validated⟩
    exact {
      name_given := Text.isBlankText_eq_false_iff.mp named
      parameters_given := fun parameter member => (given parameter member).1
      parameters_nodup := distinct
      tasks_nonempty := nonempty
      tasks := wellFormed
      names_nodup := names }
  · intro wellFormed
    obtain ⟨tasks, validated⟩ :=
      exists_validateTasks_iff.mpr ⟨wellFormed.tasks, wellFormed.names_nodup⟩
    have parameters : validateParameters [] draft.inputParameters = .ok () :=
      validateParameters_eq_ok_iff.mpr ⟨wellFormed.parameters_nodup, fun parameter member =>
        ⟨wellFormed.parameters_given parameter member, List.not_mem_nil⟩⟩
    exact ⟨_, validate_eq_ok_iff.mpr ⟨Text.isBlankText_eq_false_iff.mpr wellFormed.name_given,
      parameters, wellFormed.tasks_nonempty, tasks, validated, rfl⟩⟩

/-- A validated workflow carries its draft over. -/
theorem carriesOver_of_validate {draft : WorkflowDraft} {workflow : Workflow}
    (valid : draft.validate = .ok workflow) : workflow.CarriesOver draft := by
  obtain ⟨-, -, -, tasks, validated, rfl⟩ := validate_eq_ok_iff.mp valid
  obtain ⟨each, -, -⟩ := validateTasks_eq_ok_iff.mp validated
  exact ⟨rfl, rfl, rfl, rfl, rfl, (each.imp fun _ _ => Task.carriesOver_of_validate).flip⟩

/-- **Exactness of validation.** Validation accepts a draft exactly if the draft is well formed, and
the workflow that it then gives carries the draft over. -/
theorem exists_validate_iff_and_carriesOver (draft : WorkflowDraft) :
    ((∃ workflow, draft.validate = .ok workflow) ↔ draft.WellFormed) ∧
      ∀ workflow, draft.validate = .ok workflow → workflow.CarriesOver draft :=
  ⟨exists_validate_iff, fun _ => carriesOver_of_validate⟩

end WorkflowDraft

end Runbook
