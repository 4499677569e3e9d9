import Runbook.Proofs.Acceptance
import Runbook.Proofs.Builder.Script
import Runbook.Proofs.Yaml.Reader

/-!
# Names in accepted tasks

Every task that a document or a builder gives (`Task.Accepted`) has its headers, its form fields and
the members of its JSON value in order of their names (`Task.Accepted.inOrder`). Drafts take this
order over from their documents (`TaskDraft.inOrder_of_read`) or get it from the calls of a builder
(`TaskScript.inOrder_draft`), and validation keeps it.
-/

namespace Runbook

open JsonTree (InOrder)
open Schema

/-! ## Records -/

section Records

variable {α β : Type} {record : Record α} {kept : α → Prop}

theorem Schema.Record.kept_of_setMembers
    (sets : ∀ field ∈ record.fields, ∀ built value after, kept built → InOrder value →
      field.set built value = .ok after → kept after)
    {members : List (String × Json)} (each : ∀ member ∈ members, InOrder member.2)
    {seen last : List String} {built after : α} (start : kept built)
    (read : record.setMembers seen built members = .ok (last, after)) : kept after := by
  induction members generalizing seen built with
  | nil =>
      cases read
      exact start
  | cons member members ih =>
      obtain ⟨name, value⟩ := member
      obtain ⟨first, rest⟩ := List.forall_mem_cons.mp each
      rw [setMembers] at read
      split at read
      · exact ih rest start read
      · rename_i field found
        split_ifs at read
        split at read
        · cases read
        · rename_i next set
          exact ih rest (sets field (List.mem_of_find?_eq_some found) _ _ _ start first set) read

theorem Schema.Record.kept_of_setItems {fields : List (Field α)}
    (sets : ∀ field ∈ fields, ∀ built value after, kept built → InOrder value →
      field.set built value = .ok after → kept after)
    {items extra : List Json} (each : ∀ item ∈ items, InOrder item) {index : Nat} {built after : α}
    (start : kept built) (read : record.setItems index built fields items = .ok (after, extra)) :
    kept after := by
  induction fields generalizing index built items with
  | nil =>
      cases read
      exact start
  | cons field fields ih =>
      obtain ⟨set, others⟩ := List.forall_mem_cons.mp sets
      cases items with
      | nil =>
          rw [setItems] at read
          split_ifs at read
          exact ih others each start read
      | cons item items =>
          obtain ⟨first, rest⟩ := List.forall_mem_cons.mp each
          rw [setItems] at read
          split at read
          · cases read
          · rename_i next done
            exact ih others rest (set _ _ _ start first done) read

/-- What holds of the initial record, and is kept by each field that is set from a value with its
names in order, holds of the record that is read from such a value. -/
theorem Schema.Record.kept_of_read (kept : α → Prop) (start : kept record.initial)
    (sets : ∀ field ∈ record.fields, ∀ built value after, kept built → InOrder value →
      field.set built value = .ok after → kept after)
    {value : Json} (inOrder : InOrder value) {after : α} (read : record.read value = .ok after) :
    kept after := by
  cases inOrder with
  | object _ each =>
      obtain ⟨⟨seen, built⟩, set, done⟩ := bind_eq_ok_iff.mp read
      have held := kept_of_setMembers sets each start set
      dsimp only at done
      split at done
      · cases done
        exact held
      · cases done
  | array each =>
      obtain ⟨⟨built, extra⟩, set, done⟩ := bind_eq_ok_iff.mp read
      have held := kept_of_setItems sets each start set
      cases extra with
      | nil =>
          cases done
          exact held
      | cons => cases done
  | _ => cases read

/-- A dictionary is in order if its object is. -/
theorem Schema.sorted_of_dictionary {shape : Reader β} {value : Json} (inOrder : InOrder value)
    {entries : Dictionary β} (read : dictionary shape value = .ok entries) : entries.Sorted := by
  cases inOrder with
  | object sorted _ => exact sorted.of_traverse read
  | _ => cases read

/-- What holds of what a shape gives holds of what its optional form gives. -/
theorem Schema.forall_mem_of_optional {shape : Reader β} {holds : β → Prop} {value : Json}
    (each : ∀ found, shape value = .ok found → holds found) {given : Option β}
    (read : optional shape value = .ok given) : ∀ found ∈ given, holds found := by
  unfold optional at read
  split at read
  · cases read
    exact fun _ member => nomatch member
  · obtain ⟨found, done, rfl⟩ := map_eq_ok_iff.mp read
    intro other member
    cases member
    exact each _ done

end Records

/-! ## Drafts -/

/-- The names in the draft of a request are in order. -/
structure HttpDraft.InOrder (draft : HttpDraft) : Prop where
  headers : ∀ fields ∈ draft.headers, fields.Sorted
  form : ∀ fields ∈ draft.form, fields.Sorted
  json : ∀ value ∈ draft.json, value.InOrder

/-- The names in the request of a draft are in order, if it has one. -/
def TaskDraft.InOrder (draft : TaskDraft) : Prop :=
  ∀ http ∈ draft.http, http.InOrder

theorem HttpDraft.inOrder_of_read {value : Json} (inOrder : value.InOrder) {draft : HttpDraft}
    (read : HttpDraft.record.read value = .ok draft) : draft.InOrder := by
  refine Record.kept_of_read HttpDraft.InOrder ⟨?_, ?_, ?_⟩ ?_ inOrder read
  · exact fun _ member => nomatch member
  · exact fun _ member => nomatch member
  · exact fun _ member => nomatch member
  · intro field member built value after kept inOrder set
    simp only [HttpDraft.record, List.mem_cons, List.not_mem_nil, or_false] at member
    rcases member with rfl | rfl | rfl | rfl | rfl | rfl | rfl | rfl | rfl | rfl
    all_goals obtain ⟨given, found, rfl⟩ := map_eq_ok_iff.mp set
    · exact ⟨kept.headers, kept.form, kept.json⟩
    · exact ⟨kept.headers, kept.form, kept.json⟩
    · exact ⟨forall_mem_of_optional (fun _ => sorted_of_dictionary inOrder) found, kept.form,
        kept.json⟩
    · exact ⟨kept.headers, kept.form, kept.json⟩
    · exact ⟨kept.headers, forall_mem_of_optional (fun _ => sorted_of_dictionary inOrder) found,
        kept.json⟩
    · refine ⟨kept.headers, kept.form, forall_mem_of_optional (fun json same => ?_) found⟩
      cases same
      exact inOrder
    all_goals exact ⟨kept.headers, kept.form, kept.json⟩

theorem TaskDraft.inOrder_of_read {value : Json} (inOrder : value.InOrder) {draft : TaskDraft}
    (read : TaskDraft.record.read value = .ok draft) : draft.InOrder := by
  refine Record.kept_of_read TaskDraft.InOrder ?_ ?_ inOrder read
  · exact fun _ member => nomatch member
  · intro field member built value after kept inOrder set
    simp only [TaskDraft.record, List.mem_cons, List.not_mem_nil, or_false] at member
    rcases member with rfl | rfl | rfl | rfl | rfl | rfl
    all_goals obtain ⟨given, found, rfl⟩ := map_eq_ok_iff.mp set
    · exact kept
    · exact kept
    · exact kept
    · exact kept
    · exact forall_mem_of_optional (fun _ => HttpDraft.inOrder_of_read inOrder) found
    · exact kept

/-- The tasks of a document have their names in order. -/
theorem WorkflowDraft.inOrder_of_read {value : Json} (inOrder : value.InOrder)
    {draft : WorkflowDraft} (read : WorkflowDraft.record.read value = .ok draft) :
    ∀ task ∈ draft.tasks, task.InOrder := by
  refine Record.kept_of_read (fun draft => ∀ task ∈ draft.tasks, task.InOrder) ?_ ?_ inOrder read
  · exact fun _ member => nomatch member
  · intro field member built value after kept inOrder set
    simp only [WorkflowDraft.record, List.mem_cons, List.not_mem_nil, or_false] at member
    rcases member with rfl | rfl | rfl | rfl | rfl | rfl
    all_goals obtain ⟨given, found, rfl⟩ := map_eq_ok_iff.mp set
    · exact kept
    · exact kept
    · exact kept
    · exact kept
    · exact kept
    · cases inOrder with
      | array each =>
          intro task member
          obtain ⟨item, listed, read⟩ := exists_of_mem_mapM found member
          exact TaskDraft.inOrder_of_read (each item listed) read
      | _ => cases found

/-- The JSON values that the calls give have their names in order. -/
def TaskScript.ValuesInOrder (script : TaskScript) : Prop :=
  ∀ value, .json value ∈ script.settings → value.InOrder

/-- A value that counts is given by one of the calls. -/
theorem mem_of_lastOf {σ β : Type} {pick : σ → Option β} {calls : List σ} {value : β}
    (last : lastOf pick calls = some value) : ∃ call ∈ calls, pick call = some value :=
  List.mem_filterMap.mp (List.mem_of_getLast? last)

theorem sorted_of_dictionaryOf {σ : Type} {pick : σ → Option (String × String)} {calls : List σ} :
    ∀ fields ∈ dictionaryOf pick calls, fields.Sorted := by
  intro fields member
  obtain ⟨entries, -, rfl⟩ := Option.map_eq_some_iff.mp member
  exact Dictionary.sorted_ofList entries

/-- The draft of a script has its names in order. -/
theorem TaskScript.inOrder_draft {script : TaskScript} (values : script.ValuesInOrder) :
    script.draft.InOrder := by
  rw [draft_eq]
  intro http given
  obtain ⟨service, -, rfl⟩ := Option.map_eq_some_iff.mp given
  refine ⟨sorted_of_dictionaryOf, sorted_of_dictionaryOf, fun value last => ?_⟩
  obtain ⟨call, member, picked⟩ := mem_of_lastOf last
  cases call with
  | json found =>
      cases picked
      exact values _ member
  | _ => cases picked

/-! ## Tasks -/

/-- Headers, form fields and the members of the JSON value of a task stand in order of their
names. -/
def Task.InOrder (task : Task) : Prop :=
  ∀ http, task.payload = .http http → http.headers.Sorted ∧ http.body.InOrder

/-- Validation keeps the order. -/
theorem Task.inOrder_of_validate {draft : TaskDraft} (inOrder : draft.InOrder) {task : Task}
    (valid : draft.validate = .ok task) : task.InOrder := by
  obtain ⟨-, payload, requires, checked, -, rfl⟩ := TaskDraft.validate_eq_ok_iff.mp valid
  rintro http rfl
  rcases TaskDraft.validatePayload_eq_ok_iff.mp checked with
    ⟨given, task, -, present, -, valid, same⟩ | ⟨_, _, -, -, -, -, same⟩
  · cases same
    obtain ⟨headers, form, json⟩ := inOrder given present
    obtain ⟨_, _, _, _, -, -, -, named, sent, -, rfl⟩ := HttpDraft.validate_eq_ok_iff.mp valid
    constructor
    · refine Dictionary.Sorted.of_traverse ?_ named
      cases listed : given.headers with
      | none => exact List.Pairwise.nil
      | some fields => exact headers fields listed
    · obtain ⟨body, sends, read⟩ := HttpDraft.validateBody_eq_ok_iff.mp sent
      refine Body.InOrder.of_traverse ?_ read
      cases sends with
      | empty => trivial
      | raw => trivial
      | form _ present _ => exact form _ present
      | json _ _ present => exact json _ present
  · cases same

/-- A task that a document or a builder gives. The values that a builder is given have their names
in order, as all JSON values have. -/
inductive Task.Accepted : Task → Prop
  | parsed {bytes : List UInt8} {workflow : Workflow} {task : Task} :
      Document.parse bytes = .ok workflow → task ∈ workflow.tasks → Accepted task
  | built {script : TaskScript} {task : Task} :
      script.ValuesInOrder → script.build = .ok task → Accepted task
  | assembled {name : String} {calls : List WorkflowCall} {workflow : Workflow} {task : Task} :
      (∀ script ∈ calls.filterMap WorkflowCall.task?, script.ValuesInOrder) →
        buildWorkflow name (calls.map WorkflowCall.setting) = .ok workflow →
          task ∈ workflow.tasks → Accepted task

/-- Each task of a workflow is that of a draft. -/
theorem exists_draft_of_mem_tasks {draft : WorkflowDraft} {workflow : Workflow}
    (valid : draft.validate = .ok workflow) {task : Task} (member : task ∈ workflow.tasks) :
    ∃ given ∈ draft.tasks, given.validate = .ok task := by
  obtain ⟨-, -, -, tasks, validated, rfl⟩ := WorkflowDraft.validate_eq_ok_iff.mp valid
  obtain ⟨all, -⟩ := validateTasks_eq_ok_iff.mp validated
  exact exists_of_mem_mapM (mapM_eq_ok_iff.mpr all) member

/-- The value of a document has its names in order. -/
theorem Document.inOrder_of_decode {bytes : List UInt8} {value : Json}
    (decoded : decode bytes = some value) : value.InOrder := by
  obtain ⟨chars, -, read⟩ := Option.bind_eq_some_iff.mp decoded
  cases json : Json.ofChars chars with
  | some found =>
      rw [json] at read
      cases read
      exact (Json.readable_of_ofChars json).inOrder
  | none =>
      rw [json] at read
      exact Yaml.inOrder_of_ofChars read

/-- **Accepted tasks have their names in order.** -/
theorem Task.Accepted.inOrder {task : Task} (accepted : task.Accepted) : task.InOrder := by
  cases accepted with
  | built values valid => exact inOrder_of_validate (TaskScript.inOrder_draft values) valid
  | @assembled name calls workflow _ values valid member =>
      obtain ⟨draft, listed, valid⟩ := exists_draft_of_mem_tasks valid member
      rw [WorkflowCall.setAll_eq] at listed
      obtain ⟨script, given, rfl⟩ := List.mem_map.mp listed
      exact inOrder_of_validate (TaskScript.inOrder_draft (values script given)) valid
  | @parsed bytes workflow _ done member =>
      rw [Document.parse] at done
      cases decoded : Document.decode bytes with
      | none =>
          rw [decoded] at done
          cases done
      | some value =>
          rw [decoded] at done
          obtain ⟨draft, read, valid⟩ := bind_eq_ok_iff.mp (mapError_eq_ok_iff.mp done)
          obtain ⟨given, listed, valid⟩ := exists_draft_of_mem_tasks valid member
          unfold Document.draft at read
          split_ifs at read
          have inOrder := WorkflowDraft.inOrder_of_read (Document.inOrder_of_decode decoded)
            (mapError_eq_ok_iff.mp read)
          exact inOrder_of_validate (inOrder given listed) valid

end Runbook
