import Mathlib.Data.Nat.Find
import Runbook.Proofs.Acceptance

/-!
# Blame for refused workflows

The tasks of a workflow are validated in order, and the first one that cannot be accepted is the
reason why the workflow is refused (`WorkflowDraft.blameLaw`): the error is that of this task alone,
and what stands behind the task does not count. A validation of tasks is that of the first ones,
followed by that of the others with all earlier names seen (`validateTasks_append`).
-/

namespace Runbook

/-- The task at a position cannot be validated, or it has the name of an earlier one. -/
inductive Offends (drafts : List TaskDraft) (position : Nat) : SchemaError → Prop
  | invalid {draft : TaskDraft} {cause : SchemaError} (found : drafts[position]? = some draft)
      (refused : draft.validate = .error cause) : Offends drafts position cause
  | repeated {draft : TaskDraft} {task : Task} (found : drafts[position]? = some draft)
      (valid : draft.validate = .ok task)
      (earlier : ∃ other ∈ drafts.take position, other.name = task.name) :
      Offends drafts position (.duplicateTask task.name)

/-- The task at the position offends, and none in front of it does. -/
structure FirstOffence (drafts : List TaskDraft) (position : Nat) (cause : SchemaError) :
    Prop where
  offends : Offends drafts position cause
  first : ∀ earlier < position, ∀ other, ¬ Offends drafts earlier other

/-! ## Validation in parts -/

section Parts

variable {seen : List String} {draft : TaskDraft} {task : Task} {cause : SchemaError}

theorem validateTasks_cons_of_error (refused : draft.validate = .error cause)
    (drafts : List TaskDraft) : validateTasks seen (draft :: drafts) = .error cause := by
  rw [validateTasks, refused]
  rfl

theorem validateTasks_cons_of_ok (valid : draft.validate = .ok task) (drafts : List TaskDraft) :
    validateTasks seen (draft :: drafts) =
      if task.name ∈ seen then .error (.duplicateTask task.name)
      else (validateTasks (task.name :: seen) drafts).map (task :: ·) := by
  have passed : draft.validate = pure task := valid
  rw [validateTasks, passed, pure_bind]
  by_cases repeated : task.name ∈ seen
  · simp only [List.contains_iff_mem, repeated, ↓reduceIte]
    rfl
  · simp only [List.contains_iff_mem, repeated, ↓reduceIte]
    rfl

/-- The tasks behind others are validated with the names of these seen. -/
theorem validateTasks_append (seen : List String) (front behind : List TaskDraft) :
    validateTasks seen (front ++ behind) = (validateTasks seen front).bind fun tasks =>
      (validateTasks ((tasks.map Task.name).reverse ++ seen) behind).map (tasks ++ ·) := by
  induction front generalizing seen with
  | nil =>
      have whole : (validateTasks seen behind).map ([] ++ ·) = validateTasks seen behind := by
        cases validateTasks seen behind <;> rfl
      exact whole.symm
  | cons draft front ih =>
      cases validated : draft.validate with
      | error cause =>
          rw [List.cons_append, validateTasks_cons_of_error validated,
            validateTasks_cons_of_error validated]
          rfl
      | ok task =>
          rw [List.cons_append, validateTasks_cons_of_ok validated,
            validateTasks_cons_of_ok validated, ih]
          split_ifs with repeated
          · rfl
          · cases validateTasks (task.name :: seen) front with
            | error cause => rfl
            | ok tasks =>
                have names : ((task :: tasks).map Task.name).reverse ++ seen =
                    (tasks.map Task.name).reverse ++ task.name :: seen := by
                  simp
                simp only [Except.map, Except.bind, names]
                cases validateTasks ((tasks.map Task.name).reverse ++ task.name :: seen) behind <;>
                  rfl

/-- What stands behind a task that is refused does not count. -/
theorem validateTasks_append_of_error {front : List TaskDraft}
    (refused : validateTasks seen front = .error cause) (behind : List TaskDraft) :
    validateTasks seen (front ++ behind) = .error cause := by
  rw [validateTasks_append, refused]
  rfl

/-- A further task is refused for itself, or for its name if this is seen. -/
theorem validateTasks_concat_eq_error_iff {front : List TaskDraft} {tasks : List Task}
    (accepted : validateTasks [] front = .ok tasks) :
    validateTasks [] (front ++ [draft]) = .error cause ↔
      draft.validate = .error cause ∨ ∃ task, draft.validate = .ok task ∧
        (∃ other ∈ front, other.name = task.name) ∧ cause = .duplicateTask task.name := by
  have names := TaskDraft.names_of_validate (validateTasks_eq_ok_iff.mp accepted).1
  have concat : validateTasks [] (front ++ [draft]) =
      (validateTasks ((tasks.map Task.name).reverse ++ []) [draft]).map (tasks ++ ·) := by
    rw [validateTasks_append, accepted]
    rfl
  rw [concat, map_eq_error_iff]
  cases validated : draft.validate with
  | error found =>
      rw [validateTasks_cons_of_error validated]
      simp
  | ok task =>
      have seen_iff : task.name ∈ (tasks.map Task.name).reverse ++ [] ↔
          ∃ other ∈ front, other.name = task.name := by
        rw [List.append_nil, List.mem_reverse, names, List.mem_map]
      rw [validateTasks_cons_of_ok validated, validateTasks]
      split_ifs with repeated
      · have earlier := seen_iff.mp repeated
        constructor
        · intro refused
          cases refused
          exact Or.inr ⟨task, rfl, earlier, rfl⟩
        · rintro (refused | ⟨_, same, -, rfl⟩)
          · cases refused
          · cases same
            rfl
      · have free := seen_iff.not.mp repeated
        constructor
        · intro refused
          cases refused
        · rintro (refused | ⟨_, same, earlier, -⟩)
          · cases refused
          · cases same
            exact (free earlier).elim

theorem validateTasks_take {drafts : List TaskDraft} {tasks : List Task}
    (accepted : validateTasks seen drafts = .ok tasks) (count : Nat) :
    validateTasks seen (drafts.take count) = .ok (tasks.take count) := by
  obtain ⟨valid, distinct, fresh⟩ := validateTasks_eq_ok_iff.mp accepted
  refine validateTasks_eq_ok_iff.mpr ⟨List.forall₂_take count valid, ?_, ?_⟩
  · rw [List.map_take]
    exact distinct.sublist (List.take_sublist count _)
  · exact fun task member => fresh task (List.mem_of_mem_take member)

end Parts

/-! ## The first offence -/

section FirstOffence

variable {drafts : List TaskDraft} {position : Nat} {cause : SchemaError}

theorem Offends.lt_length (offends : Offends drafts position cause) :
    position < drafts.length := by
  cases offends with
  | invalid found _ => exact (List.getElem?_eq_some_iff.mp found).1
  | repeated found _ _ => exact (List.getElem?_eq_some_iff.mp found).1

/-- Where the tasks in front of a position are accepted, the task there is refused if it offends. -/
theorem validateTasks_take_succ_eq_error_iff {tasks : List Task}
    (accepted : validateTasks [] (drafts.take position) = .ok tasks) :
    validateTasks [] (drafts.take (position + 1)) = .error cause ↔
      Offends drafts position cause := by
  rw [List.take_add_one]
  cases found : drafts[position]? with
  | none =>
      rw [Option.toList_none, List.append_nil, accepted]
      refine iff_of_false (fun refused => nomatch refused) fun offends => ?_
      rw [List.getElem?_eq_none_iff] at found
      exact Nat.not_lt_of_le found offends.lt_length
  | some draft =>
      rw [Option.toList_some, validateTasks_concat_eq_error_iff accepted]
      constructor
      · rintro (refused | ⟨task, valid, earlier, rfl⟩)
        · exact .invalid found refused
        · exact .repeated found valid earlier
      · intro offends
        cases offends with
        | invalid same refused =>
            cases found.symm.trans same
            exact Or.inl refused
        | repeated same valid earlier =>
            cases found.symm.trans same
            exact Or.inr ⟨_, valid, earlier, rfl⟩

/-- Tasks are accepted as long as none of them offends. -/
theorem exists_validateTasks_take
    (innocent : ∀ earlier < position, ∀ other, ¬ Offends drafts earlier other) :
    ∃ tasks, validateTasks [] (drafts.take position) = .ok tasks := by
  induction position with
  | zero => exact ⟨[], by rw [List.take_zero, validateTasks]⟩
  | succ position ih =>
      obtain ⟨tasks, accepted⟩ := ih fun earlier before =>
        innocent earlier (Nat.lt_succ_of_lt before)
      cases last : validateTasks [] (drafts.take (position + 1)) with
      | ok tasks => exact ⟨tasks, rfl⟩
      | error cause =>
          have offends := (validateTasks_take_succ_eq_error_iff accepted).mp last
          exact (innocent position (Nat.lt_succ_self _) cause offends).elim

/-- Tasks are refused up to the first offence already. -/
theorem FirstOffence.validateTasks_take (offence : FirstOffence drafts position cause) :
    validateTasks [] (drafts.take (position + 1)) = .error cause := by
  obtain ⟨tasks, accepted⟩ := exists_validateTasks_take offence.first
  exact (validateTasks_take_succ_eq_error_iff accepted).mpr offence.offends

/-- Tasks that have the first offence in common are refused for it. -/
theorem FirstOffence.validateTasks_eq (offence : FirstOffence drafts position cause)
    {others : List TaskDraft}
    (same : others.take (position + 1) = drafts.take (position + 1)) :
    validateTasks [] others = .error cause := by
  rw [← List.take_append_drop (position + 1) others, same]
  exact validateTasks_append_of_error offence.validateTasks_take _

theorem validateTasks_eq_error_iff :
    validateTasks [] drafts = .error cause ↔
      ∃ position, FirstOffence drafts position cause := by
  constructor
  · intro refused
    have offended : ∃ position other, Offends drafts position other := by
      by_contra innocent
      push Not at innocent
      obtain ⟨tasks, accepted⟩ := @exists_validateTasks_take drafts drafts.length
        fun earlier _ => innocent earlier
      rw [List.take_length, refused] at accepted
      cases accepted
    classical
    obtain ⟨other, offends⟩ := Nat.find_spec offended
    have offence : FirstOffence drafts (Nat.find offended) other :=
      ⟨offends, fun earlier before other offends =>
        Nat.find_min offended before ⟨other, offends⟩⟩
    cases refused.symm.trans (offence.validateTasks_eq rfl)
    exact ⟨_, offence⟩
  · rintro ⟨position, offence⟩
    exact offence.validateTasks_eq rfl

end FirstOffence

/-! ## The reason why a workflow is refused -/

namespace WorkflowDraft

/-- What a draft has to satisfy apart from its tasks, of which there is one at least. -/
structure Headed (draft : WorkflowDraft) : Prop where
  name_given : Text.Given draft.name
  parameters_given : ∀ parameter ∈ draft.inputParameters, parameter ≠ ""
  parameters_nodup : draft.inputParameters.Nodup
  tasks_nonempty : draft.tasks ≠ []

/-- The workflow with these tasks that carries over all else. -/
def withTasks (draft : WorkflowDraft) (tasks : List Task) : Workflow :=
  ⟨draft.name, draft.description, draft.version, draft.schemaVersion, draft.inputParameters, tasks⟩

variable {draft : WorkflowDraft}

theorem Headed.validate_eq (headed : draft.Headed) :
    draft.validate = (validateTasks [] draft.tasks).map draft.withTasks := by
  have named := Text.isBlankText_eq_false_iff.mpr headed.name_given
  have parameters : validateParameters [] draft.inputParameters = pure () :=
    validateParameters_eq_ok_iff.mpr ⟨headed.parameters_nodup, fun parameter member =>
      ⟨headed.parameters_given parameter member, List.not_mem_nil⟩⟩
  rw [validate, named, parameters]
  simp only [Bool.false_eq_true, ↓reduceIte, List.isEmpty_iff, headed.tasks_nonempty, pure_bind]
  rfl

/-- Other tasks do not change the rest. -/
theorem Headed.replace (headed : draft.Headed) {tasks : List TaskDraft} (nonempty : tasks ≠ []) :
    Headed { draft with tasks := tasks } where
  name_given := headed.name_given
  parameters_given := headed.parameters_given
  parameters_nodup := headed.parameters_nodup
  tasks_nonempty := nonempty

theorem Headed.validate_eq_error_iff (headed : draft.Headed) {cause : SchemaError} :
    draft.validate = .error cause ↔ ∃ position, FirstOffence draft.tasks position cause := by
  rw [headed.validate_eq, map_eq_error_iff, validateTasks_eq_error_iff]

/-- A workflow whose tasks are accepted is accepted, with these tasks. -/
theorem Headed.validate_eq_ok_iff_exists (headed : draft.Headed) {workflow : Workflow} :
    draft.validate = .ok workflow ↔
      ∃ tasks, validateTasks [] draft.tasks = .ok tasks ∧ draft.withTasks tasks = workflow := by
  rw [headed.validate_eq, map_eq_ok_iff]

/-- What a draft is accepted as, or what it is refused for. -/
structure BlameLaw (draft : WorkflowDraft) : Prop where
  /-- The tasks are those that the drafts give one by one. -/
  accepted : ∀ workflow, draft.validate = .ok workflow →
    List.Forall₂ (fun task image => task.validate = .ok image) draft.tasks workflow.tasks
  refused_iff : ∀ cause, draft.validate = .error cause ↔
    ∃ position, FirstOffence draft.tasks position cause
  /-- The tasks in front of the first offence can be validated, and their names differ. -/
  innocent : ∀ position cause, FirstOffence draft.tasks position cause →
    ∃ images, List.Forall₂ (fun task image => task.validate = .ok image)
      (draft.tasks.take position) images ∧ (images.map Task.name).Nodup
  /-- The tasks behind the first offence may be any others. -/
  behind : ∀ position cause, FirstOffence draft.tasks position cause →
    ∀ others : List TaskDraft, others.take (position + 1) = draft.tasks.take (position + 1) →
      ({ draft with tasks := others } : WorkflowDraft).validate = .error cause
  /-- An error behind the name of a task says which task it is in. -/
  labelled : ∀ task ∈ draft.tasks, task.validateName = .ok () →
    ∀ inner, task.validateContent = .error inner → ∃ cause, task.validate = .error cause ∧
      cause.message = "task '" ++ task.name ++ "': " ++ inner.message
  /-- The first tasks of an accepted workflow are accepted alone. -/
  front : ∀ workflow, draft.validate = .ok workflow → ∀ count, 0 < count →
    ({ draft with tasks := draft.tasks.take count } : WorkflowDraft).validate =
      .ok { workflow with tasks := workflow.tasks.take count }

/-- **The first task that offends is the reason why a workflow is refused.** -/
theorem blameLaw (headed : draft.Headed) : draft.BlameLaw where
  accepted workflow done := by
    obtain ⟨tasks, validated, rfl⟩ := headed.validate_eq_ok_iff_exists.mp done
    exact (validateTasks_eq_ok_iff.mp validated).1
  refused_iff cause := headed.validate_eq_error_iff
  innocent position cause offence := by
    obtain ⟨images, validated⟩ := exists_validateTasks_take offence.first
    obtain ⟨valid, distinct, -⟩ := validateTasks_eq_ok_iff.mp validated
    exact ⟨images, valid, distinct⟩
  behind position cause offence others same := by
    have nonempty : others ≠ [] := by
      rintro rfl
      rw [List.take_nil] at same
      have short := congrArg List.length same
      rw [List.length_nil, List.length_take] at short
      have inside := offence.offends.lt_length
      omega
    rw [(headed.replace nonempty).validate_eq, map_eq_error_iff]
    exact offence.validateTasks_eq same
  labelled task _ named inner refused := by
    refine ⟨.inTask task.name inner, ?_, rfl⟩
    rw [TaskDraft.validate, named, refused]
    rfl
  front workflow done count positive := by
    obtain ⟨tasks, validated, rfl⟩ := headed.validate_eq_ok_iff_exists.mp done
    have nonempty : draft.tasks.take count ≠ [] := by
      rw [Ne, List.take_eq_nil_iff, not_or]
      exact ⟨Nat.ne_of_gt positive, headed.tasks_nonempty⟩
    exact (headed.replace nonempty).validate_eq_ok_iff_exists.mpr
      ⟨tasks.take count, validateTasks_take validated count, rfl⟩

/-- A draft in which the third task has the name of the first one, and the fourth one cannot be
validated. -/
def crowded : WorkflowDraft where
  name := "crowded"
  description := ""
  version := 0
  schemaVersion := 0
  inputParameters := []
  tasks := [.runProgram "say" ["echo"], .runProgram "repeat" ["echo", "$\x7bsay.output\x7d"],
    .runProgram "say" ["true"], .runProgram "never" []]

theorem crowded_blameLaw : crowded.Headed ∧ crowded.BlameLaw ∧
    crowded.validate = .error (.duplicateTask "say") := by
  have headed : crowded.Headed := by
    refine ⟨Text.isBlankText_eq_false_iff.mp rfl, ?_, List.nodup_nil, List.cons_ne_nil _ _⟩
    exact fun parameter member => nomatch member
  exact ⟨headed, blameLaw headed, by decide +kernel⟩

end WorkflowDraft

end Runbook
