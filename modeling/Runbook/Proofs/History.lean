import Runbook.Proofs.Context

/-!
# Histories of contexts

A context is begun anew with inputs, and inputs are bound and outputs are published in it, in any
order and under any names (`Context.after`). Whatever has been done to it, the values it holds are
objects, and the inputs are texts in an object of their own (`Context.Regular`), so that an input
that is bound is never lost. `Context.storeLaw` says what each operation changes and what it leaves
alone.
-/

namespace Runbook

/-- What may be done to a context. -/
inductive ContextOperation where
  /-- Replace the context by one with these inputs. -/
  | restart (parameters : List String) (inputs : Dictionary String)
  | update (change : ContextUpdate)

namespace ContextOperation

/-- Carry out an operation. -/
def apply (context : Context) : ContextOperation → Context
  | .restart parameters inputs => .withInputs parameters inputs
  | .update change => change.apply context

/-- The task has published an output, and the context has not been replaced since. -/
def HasPublished (history : List ContextOperation) (task : String) : Prop :=
  ∃ before output behind, history = before ++ .update (.publish task output) :: behind ∧
    ∀ parameters inputs, .restart parameters inputs ∉ behind

variable {history : List ContextOperation} {operation : ContextOperation} {task : String}

theorem not_hasPublished_nil : ¬ HasPublished [] task := by
  rintro ⟨before, output, behind, split, -⟩
  exact List.append_ne_nil_of_right_ne_nil before (List.cons_ne_nil _ behind) split.symm

/-- The last operation publishes the task, or it leaves what was published before. -/
theorem hasPublished_concat_iff :
    HasPublished (history ++ [operation]) task ↔
      (∃ output, operation = .update (.publish task output)) ∨
        (∀ parameters inputs, operation ≠ .restart parameters inputs) ∧
          HasPublished history task := by
  constructor
  · rintro ⟨before, output, behind, split, kept⟩
    rcases List.eq_nil_or_concat behind with rfl | ⟨later, last, rfl⟩
    · obtain ⟨-, same⟩ := List.append_inj' split rfl
      exact Or.inl ⟨output, (List.cons.inj same).1⟩
    · rw [List.concat_eq_append] at split kept
      rw [← List.cons_append, ← List.append_assoc] at split
      obtain ⟨rfl, same⟩ := List.append_inj' split rfl
      obtain ⟨rfl, -⟩ := List.cons.inj same
      refine Or.inr ⟨fun parameters inputs clash => ?_, before, output, later, rfl,
        fun parameters inputs member => ?_⟩
      · exact kept parameters inputs (clash ▸ List.mem_concat_self)
      · exact kept parameters inputs (List.mem_append_left _ member)
  · rintro (⟨output, rfl⟩ | ⟨going, before, output, behind, rfl, kept⟩)
    · exact ⟨history, output, [], rfl, fun _ _ => List.not_mem_nil⟩
    · refine ⟨before, output, behind ++ [operation], by simp, fun parameters inputs member => ?_⟩
      rcases List.mem_append.mp member with earlier | last
      · exact kept parameters inputs earlier
      · exact going parameters inputs (List.mem_singleton.mp last).symm

end ContextOperation

open ContextOperation (HasPublished)

/-- An output has no member that is called as the inputs are. -/
theorem Output.exists_published (output : Output) :
    ∃ members, output.published = .object members ∧
      Dictionary.get? members Context.inputSpace = none := by
  refine ⟨_, rfl, ?_⟩
  rw [← Option.not_isSome_iff_eq_none, ← Dictionary.mem_keys_iff, Dictionary.mem_keys_ofList]
  rintro ⟨value, member⟩
  revert member
  cases output.statusCode <;> cases output.exitCode <;> simp [Context.inputSpace]

namespace Context

/-- The context that a history leads to. -/
def after (history : List ContextOperation) : Context :=
  history.foldl ContextOperation.apply empty

theorem after_concat (history : List ContextOperation) (operation : ContextOperation) :
    after (history ++ [operation]) = operation.apply (after history) := by
  rw [after, List.foldl_append]
  rfl

/-- All values are objects, and the inputs are texts in an object of their own. -/
structure Regular (context : Context) : Prop where
  objects : ∀ entry ∈ context.bindings, ∃ members, entry.2 = .object members
  inputs : ∀ spaces value, context.bindings.get? workflowSpace = some (.object spaces) →
    Dictionary.get? spaces inputSpace = some value →
      ∃ members, value = .object members ∧ ∀ entry ∈ members, ∃ text, entry.2 = .string text

section Regular

variable {context : Context}

theorem regular_empty : empty.Regular where
  objects _ member := nomatch member
  inputs _ _ found := nomatch found

/-- In a regular context neither the name space nor the inputs in it can be in the way of an input
that is bound. -/
theorem Regular.bindInput_eq (regular : context.Regular) (name value : String) :
    ∃ spaces inputs : Dictionary Json, (∀ entry ∈ inputs, ∃ text, entry.2 = .string text) ∧
      context.bindInput name value =
        ⟨context.bindings.insert workflowSpace
          (.object (spaces.insert inputSpace (.object (inputs.insert name (.string value)))))⟩ := by
  have none : ∀ entry ∈ ([] : Dictionary Json), ∃ text, entry.2 = .string text :=
    List.forall_mem_nil _
  cases found : context.bindings.get? workflowSpace with
  | none => exact ⟨[], [], none, by rw [bindInput, bindAt, found]; rfl⟩
  | some space =>
      obtain ⟨spaces, same⟩ := regular.objects _ (Dictionary.mem_of_get?_eq_some found)
      subst same
      cases inside : Dictionary.get? spaces inputSpace with
      | none =>
          refine ⟨spaces, [], none, ?_⟩
          simp only [bindInput, bindAt, found, inside]
      | some value =>
          obtain ⟨inputs, rfl, texts⟩ := regular.inputs spaces value found inside
          refine ⟨spaces, inputs, texts, ?_⟩
          simp only [bindInput, bindAt, found, inside]

theorem Regular.insert (regular : context.Regular) (key : String) (members : Dictionary Json)
    (inputs : key = workflowSpace → ∀ value, members.get? inputSpace = some value →
      ∃ inputs, value = .object inputs ∧ ∀ entry ∈ inputs, ∃ text, entry.2 = .string text) :
    Regular ⟨context.bindings.insert key (.object members)⟩ where
  objects entry member := by
    rcases Dictionary.mem_insert member with rfl | earlier
    · exact ⟨members, rfl⟩
    · exact regular.objects entry earlier
  inputs spaces value found inside := by
    rw [Dictionary.get?_insert] at found
    split_ifs at found with same
    · cases found
      exact inputs same.symm value inside
    · exact regular.inputs spaces value found inside

theorem Regular.bindInput (regular : context.Regular) (name value : String) :
    (context.bindInput name value).Regular := by
  obtain ⟨spaces, inputs, texts, bound⟩ := regular.bindInput_eq name value
  rw [bound]
  refine regular.insert _ _ fun _ value found => ?_
  rw [Dictionary.get?_insert_self] at found
  cases found
  refine ⟨_, rfl, fun entry member => ?_⟩
  rcases Dictionary.mem_insert member with rfl | earlier
  · exact ⟨_, rfl⟩
  · exact texts entry earlier

theorem Regular.publish (regular : context.Regular) (task : String) (output : Output) :
    (context.publish task output).Regular := by
  obtain ⟨members, published, absent⟩ := output.exists_published
  rw [Context.publish, published]
  refine regular.insert _ _ fun _ value found => ?_
  rw [absent] at found
  cases found

theorem regular_withInputs (parameters : List String) (inputs : Dictionary String) :
    (withInputs parameters inputs).Regular := by
  refine List.foldlRecOn parameters _ regular_empty fun context regular name _ => ?_
  split
  · exact regular.bindInput name _
  · exact regular

theorem Regular.apply (regular : context.Regular) (operation : ContextOperation) :
    (operation.apply context).Regular := by
  cases operation with
  | restart parameters inputs => exact regular_withInputs parameters inputs
  | update change =>
      cases change with
      | input name value => exact regular.bindInput name value
      | publish task output => exact regular.publish task output

theorem regular_after (history : List ContextOperation) : (after history).Regular := by
  induction history using List.reverseRecOn with
  | nil => exact regular_empty
  | append_singleton history operation ih =>
      rw [after_concat]
      exact ih.apply operation

theorem Regular.lookup_bindInput_self (regular : context.Regular) (name value : String) :
    (context.bindInput name value).lookup ⟨workflowSpace, [inputSpace, name]⟩ =
      some (.string value) := by
  obtain ⟨spaces, inputs, -, bound⟩ := regular.bindInput_eq name value
  rw [lookup, bound, Dictionary.get?_insert_self]
  simp [Json.descend, Json.step]

end Regular

/-! ## Tasks that have published -/

/-- A job does not start with outputs. -/
theorem get?_withInputs_of_ne {name : String} (apart : name ≠ workflowSpace)
    (parameters : List String) (inputs : Dictionary String) :
    (withInputs parameters inputs).bindings.get? name = none := by
  obtain ⟨members, -, start⟩ := exists_supplied parameters inputs
  rw [start]
  cases members with
  | nil => rfl
  | cons entry rest => rw [inputBindings, Dictionary.get?_cons, if_neg (Ne.symm apart)]; rfl

theorem get?_after_isSome_iff {task : String} (apart : task ≠ workflowSpace)
    (history : List ContextOperation) :
    ((after history).bindings.get? task).isSome ↔ HasPublished history task := by
  induction history using List.reverseRecOn with
  | nil =>
      exact iff_of_false (fun found => nomatch found) ContextOperation.not_hasPublished_nil
  | append_singleton history operation ih =>
      rw [after_concat, ContextOperation.hasPublished_concat_iff, ← ih]
      cases operation with
      | restart parameters inputs =>
          rw [ContextOperation.apply, get?_withInputs_of_ne apart]
          simp
      | update change =>
          cases change with
          | input name value =>
              rw [ContextOperation.apply, ContextUpdate.apply, Context.bindInput,
                get?_bindAt_of_ne apart]
              simp
          | publish other output =>
              rw [ContextOperation.apply, ContextUpdate.apply, Context.publish,
                Dictionary.get?_insert]
              by_cases same : task = other
              · simp [same]
              · simp [same, Ne.symm same]

/-- What holds of a context with this history, and what one more operation does to it. -/
structure StoreLaw (history : List ContextOperation) : Prop where
  objects : ∀ entry ∈ (after history).bindings, ∃ members, entry.2 = .object members
  /-- The inputs, if there are any, are texts in an object. -/
  inputs : ∀ spaces value, (after history).bindings.get? workflowSpace = some (.object spaces) →
    Dictionary.get? spaces inputSpace = some value →
      ∃ members, value = .object members ∧ ∀ entry ∈ members, ∃ text, entry.2 = .string text
  bound : ∀ name value, ((after history).bindInput name value).lookup
    ⟨workflowSpace, [inputSpace, name]⟩ = some (.string value)
  bound_elsewhere : ∀ name value (reference : Reference),
    ¬ reference.Comparable (inputPath name) →
      ((after history).bindInput name value).lookup reference = (after history).lookup reference
  published : ∀ task output,
    ((after history).publish task output).lookup ⟨task, []⟩ = some output.published
  published_elsewhere : ∀ task output (reference : Reference), reference.space ≠ task →
    ((after history).publish task output).lookup reference = (after history).lookup reference
  hasTask_iff : ∀ task, (after history).hasTask task = true ↔
    task ≠ workflowSpace ∧ HasPublished history task

/-- **Contexts keep what is put into them.** This holds after any history, also where an output has
been published under the name of the workflow. -/
theorem storeLaw (history : List ContextOperation) : StoreLaw history where
  objects := (regular_after history).objects
  inputs := (regular_after history).inputs
  bound := (regular_after history).lookup_bindInput_self
  bound_elsewhere name value reference apart :=
    lookup_bindInput_of_not_comparable apart (after history) value
  published task output := by
    rw [lookup_publish, if_pos rfl]
    rfl
  published_elsewhere task output reference foreign := by
    rw [lookup_publish, if_neg foreign]
  hasTask_iff task := by
    simp only [hasTask, Bool.and_eq_true, decide_eq_true_eq, Dictionary.contains]
    exact and_congr_right fun apart => get?_after_isSome_iff apart history

/-- An output that takes the place of the inputs does not keep a later input out. -/
example : (after [.restart ["a"] [("a", "1")],
      .update (.publish "workflow" ⟨"\x7b\"input\": 0\x7d", none, [], none⟩),
      .update (.input "b" "2")]).bindings =
    [("workflow", .object [("input", .object [("b", .string "2")]),
      ("output", .object [("input", .number (.int 0))])])] := by
  decide +kernel

end Context

end Runbook
