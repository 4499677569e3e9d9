import Runbook.Proofs.Acceptance
import Runbook.Proofs.Builder.Script
import Runbook.Proofs.Schema.Fields

/-!
# Drafts behind tasks

Which parts of drafts the members of a document give, and which items of a document
(`drafts_of_parse`) or scripts of a builder (`scripts_of_buildWorkflow`) the tasks of a workflow
come from.
-/

namespace Runbook

open Schema

/-! ## Parts of drafts -/

theorem TaskDraft.holds_http : TaskDraft.record.Holds "http"
    (Schema.optional HttpDraft.record.read) TaskDraft.http := by
  refine Record.Holds.of_field (List.mem_of_getElem? (rfl : TaskDraft.record.fields[4]? = some _))
    (by decide) (by decide) (fun _ _ => rfl) ?_
  intro field member different built value next set
  simp only [TaskDraft.record, List.mem_cons, List.not_mem_nil, or_false] at member
  rcases member with rfl | rfl | rfl | rfl | rfl | rfl
  all_goals obtain ⟨found, -, rfl⟩ := map_eq_ok_iff.mp set
  on_goal 5 => exact absurd rfl different
  all_goals rfl

theorem TaskDraft.holds_cli : TaskDraft.record.Holds "cli"
    (Schema.optional CliDraft.record.read) TaskDraft.cli := by
  refine Record.Holds.of_field (List.mem_of_getElem? (rfl : TaskDraft.record.fields[5]? = some _))
    (by decide) (by decide) (fun _ _ => rfl) ?_
  intro field member different built value next set
  simp only [TaskDraft.record, List.mem_cons, List.not_mem_nil, or_false] at member
  rcases member with rfl | rfl | rfl | rfl | rfl | rfl
  all_goals obtain ⟨found, -, rfl⟩ := map_eq_ok_iff.mp set
  on_goal 6 => exact absurd rfl different
  all_goals rfl

theorem HttpDraft.holds_connectionTimeout : HttpDraft.record.Holds "connectionTimeOut"
    (Schema.optional word64) HttpDraft.connectionTimeout := by
  refine Record.Holds.of_field (List.mem_of_getElem? (rfl : HttpDraft.record.fields[8]? = some _))
    (by decide) (by decide) (fun _ _ => rfl) ?_
  intro field member different built value next set
  simp only [HttpDraft.record, List.mem_cons, List.not_mem_nil, or_false] at member
  rcases member with rfl | rfl | rfl | rfl | rfl | rfl | rfl | rfl | rfl | rfl
  all_goals obtain ⟨found, -, rfl⟩ := map_eq_ok_iff.mp set
  on_goal 9 => exact absurd rfl different
  all_goals rfl

theorem HttpDraft.holds_readTimeout : HttpDraft.record.Holds "readTimeOut"
    (Schema.optional word64) HttpDraft.readTimeout := by
  refine Record.Holds.of_field (List.mem_of_getElem? (rfl : HttpDraft.record.fields[9]? = some _))
    (by decide) (by decide) (fun _ _ => rfl) ?_
  intro field member different built value next set
  simp only [HttpDraft.record, List.mem_cons, List.not_mem_nil, or_false] at member
  rcases member with rfl | rfl | rfl | rfl | rfl | rfl | rfl | rfl | rfl | rfl
  all_goals obtain ⟨found, -, rfl⟩ := map_eq_ok_iff.mp set
  on_goal 10 => exact absurd rfl different
  all_goals rfl

theorem CliDraft.holds_executionTimeout : CliDraft.record.Holds "executionTimeOut"
    (Schema.optional word64) CliDraft.executionTimeout := by
  refine Record.Holds.of_field (List.mem_of_getElem? (rfl : CliDraft.record.fields[1]? = some _))
    (by decide) (by decide) (fun _ _ => rfl) ?_
  intro field member different built value next set
  simp only [CliDraft.record, List.mem_cons, List.not_mem_nil, or_false] at member
  rcases member with rfl | rfl
  all_goals obtain ⟨found, -, rfl⟩ := map_eq_ok_iff.mp set
  · rfl
  · exact absurd rfl different

theorem WorkflowDraft.holds_tasks : WorkflowDraft.record.Holds "tasks"
    (Schema.list TaskDraft.record.read) WorkflowDraft.tasks := by
  refine Record.Holds.of_field
    (List.mem_of_getElem? (rfl : WorkflowDraft.record.fields[5]? = some _))
    (by decide) (by decide) (fun _ _ => rfl) ?_
  intro field member different built value next set
  simp only [WorkflowDraft.record, List.mem_cons, List.not_mem_nil, or_false] at member
  rcases member with rfl | rfl | rfl | rfl | rfl | rfl
  all_goals obtain ⟨found, -, rfl⟩ := map_eq_ok_iff.mp set
  on_goal 6 => exact absurd rfl different
  all_goals rfl

/-! ## Tasks in their places -/

/-- The tasks of a workflow are those of its drafts, in order. -/
theorem validates_of_validate {draft : WorkflowDraft} {workflow : Workflow}
    (valid : draft.validate = .ok workflow) :
    List.Forall₂ (fun given task => given.validate = .ok task) draft.tasks workflow.tasks := by
  obtain ⟨-, -, -, tasks, validated, rfl⟩ := WorkflowDraft.validate_eq_ok_iff.mp valid
  exact (validateTasks_eq_ok_iff.mp validated).1

/-- The items of a document are read into drafts, from which its tasks come. -/
theorem drafts_of_parse {bytes : List UInt8} {value : Json} {workflow : Workflow}
    (decoded : Document.decode bytes = some value) (parsed : Document.parse bytes = .ok workflow) :
    ∃ items drafts, WorkflowDraft.record.given? "tasks" value = some (.array items) ∧
      List.Forall₂ (fun item draft => TaskDraft.record.read item = .ok draft) items drafts ∧
      List.Forall₂ (fun draft task => draft.validate = .ok task) drafts workflow.tasks := by
  simp only [Document.parse, decoded] at parsed
  obtain ⟨draft, shaped, valid⟩ := bind_eq_ok_iff.mp (mapError_eq_ok_iff.mp parsed)
  unfold Document.draft at shaped
  split_ifs at shaped
  have given := WorkflowDraft.holds_tasks.of_read (mapError_eq_ok_iff.mp shaped)
  cases listed : WorkflowDraft.record.given? "tasks" value with
  | none =>
      rw [listed] at given
      have some := (WorkflowDraft.validate_eq_ok_iff.mp valid).2.2.1
      exact absurd given some
  | some tasks =>
      rw [listed] at given
      cases tasks with
      | array items =>
          exact ⟨items, draft.tasks, rfl, mapM_eq_ok_iff.mp given, validates_of_validate valid⟩
      | _ => cases given

/-- Related lists are related place by place. -/
theorem related_of_getElem? {α β : Type} {related : α → β → Prop} {left : List α} {right : List β}
    (all : List.Forall₂ related left right) {index : Nat} {image : β}
    (place : right[index]? = some image) :
    ∃ item, left[index]? = some item ∧ related item image := by
  obtain ⟨inside, rfl⟩ := List.getElem?_eq_some_iff.mp place
  have listed : index < left.length := all.length_eq ▸ inside
  exact ⟨left[index], List.getElem?_eq_getElem listed, all.get listed inside⟩

/-- A workflow that is built has the tasks of the scripts, in order. -/
theorem scripts_of_buildWorkflow {name : String} {calls : List WorkflowCall} {workflow : Workflow}
    (assembled : buildWorkflow name (calls.map WorkflowCall.setting) = .ok workflow) :
    List.Forall₂ (fun script task => script.build = .ok task)
      (calls.filterMap WorkflowCall.task?) workflow.tasks := by
  have valid := validates_of_validate assembled
  rw [WorkflowCall.setAll_eq] at valid
  exact List.forall₂_map_left_iff.mp valid

end Runbook
