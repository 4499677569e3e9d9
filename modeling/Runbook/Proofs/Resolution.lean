import Runbook.Invocation
import Runbook.Proofs.Traversal

/-!
# Resolution

What a task resolves to depends on its context only through the values of the references in its
templates (`Task.resolve_congr`). A task is resolved exactly if all of them have values
(`Task.exists_resolve_iff`), and fails with the first one that has none
(`Task.resolve_eq_error_iff_firstMissing`).
-/

namespace Runbook

variable {context left right : Context} {cause : ResolutionError} {reference : Reference}

namespace Template

theorem mem_references_iff {template : Template} :
    reference ∈ template.references ↔ .reference reference ∈ template.segments := by
  rw [references, List.mem_filterMap]
  constructor
  · rintro ⟨segment, member, found⟩
    cases segment with
    | literal text => cases found
    | reference target =>
        cases found
        exact member
  · exact fun member => ⟨_, member, rfl⟩

theorem resolve_eq_error_iff {template : Template} :
    template.resolve context = .error cause ↔
      template.segments.mapM (Segment.resolve context) = .error cause := by
  rw [resolve, bind_eq_error_iff]
  constructor
  · rintro (failed | ⟨texts, _, done⟩)
    · exact failed
    · cases done
  · exact Or.inl

/-- A template depends on its context only through its references. -/
theorem resolve_congr {template : Template}
    (agree : ∀ reference ∈ template.references, left.lookup reference = right.lookup reference) :
    template.resolve left = template.resolve right := by
  have segments : template.segments.mapM (Segment.resolve left) =
      template.segments.mapM (Segment.resolve right) := by
    apply mapM_congr
    intro segment member
    cases segment with
    | literal text => rfl
    | reference target =>
        rw [Segment.resolve, Segment.resolve, agree target (mem_references_iff.mpr member)]
  rw [resolve, resolve, segments]

/-- A placeholder and nothing else stands for the value of its reference. -/
theorem resolve_single {value : Json} (raw : String)
    (found : context.lookup reference = some value) :
    resolve context ⟨raw, [.reference reference]⟩ = .ok (Json.rendered value) := by
  rw [resolve, List.mapM_cons, List.mapM_nil, Segment.resolve, found]
  exact congrArg Except.ok String.empty_append

end Template

/-- The texts of a request, in the order in which they are resolved. -/
def HttpTask.texts (task : HttpTask) : List Template :=
  task.headers.values ++ (task.body.leaves ++ [task.uri])

/-- The texts of a task, in the order in which they are resolved. -/
def Task.texts (task : Task) : List Template :=
  match task.payload with
  | .http http => http.texts
  | .cli cli => cli.command

/-- The references of a task are those of its texts. -/
theorem Task.mem_templateReferences_iff {task : Task} :
    reference ∈ task.templateReferences ↔ ∃ text ∈ task.texts, reference ∈ text.references := by
  unfold templateReferences texts
  cases task.payload with
  | http http =>
      simp only [HttpTask.references, HttpTask.texts, List.mem_append, List.mem_flatMap,
        List.mem_singleton]
      constructor
      · rintro ((member | ⟨text, listed, member⟩) | ⟨text, listed, member⟩)
        · exact ⟨http.uri, Or.inr (Or.inr rfl), member⟩
        · exact ⟨text, Or.inl listed, member⟩
        · exact ⟨text, Or.inr (Or.inl listed), member⟩
      · rintro ⟨text, listed | listed | rfl, member⟩
        · exact Or.inl (Or.inr ⟨text, listed, member⟩)
        · exact Or.inr ⟨text, listed, member⟩
        · exact Or.inl (Or.inl member)
  | cli cli => exact List.mem_flatMap

/-- A request cannot be resolved for the reason that its texts cannot be. -/
theorem HttpTask.resolve_eq_error_iff {task : HttpTask} :
    task.resolve context = .error cause ↔
      task.texts.mapM (Template.resolve context) = .error cause := by
  rw [resolve, texts, List.mapM_append, List.mapM_append, ← Dictionary.values_traverse,
    ← Body.leaves_traverse]
  cases Dictionary.traverse (Template.resolve context) task.headers with
  | error found => simp only [bind, Except.bind, Except.map, Except.error.injEq]
  | ok headers =>
      cases task.body.traverse (Template.resolve context) with
      | error found => simp only [bind, Except.bind, Except.map, Except.error.injEq]
      | ok body =>
          rw [List.mapM_cons]
          cases task.uri.resolve context with
          | error found => simp only [bind, Except.bind, Except.map, Except.error.injEq]
          | ok url =>
              simp only [bind, Except.bind, Except.map, pure, Except.pure, List.mapM_nil,
                reduceCtorEq]

/-- A task cannot be resolved for the reason that its texts cannot be. -/
theorem Task.resolve_eq_error_iff {task : Task} :
    task.resolve context = .error cause ↔
      task.texts.mapM (Template.resolve context) = .error cause := by
  unfold Task.resolve texts
  cases task.payload with
  | http http => exact map_eq_error_iff.trans HttpTask.resolve_eq_error_iff
  | cli cli =>
      refine map_eq_error_iff.trans ?_
      rw [CliTask.resolve, bind_eq_error_iff]
      constructor
      · rintro (failed | ⟨texts, _, done⟩)
        · exact failed
        · cases done
      · exact Or.inl

/-- A task depends on its context only through its template references. -/
theorem Task.resolve_congr {task : Task}
    (agree : ∀ reference ∈ task.templateReferences,
      left.lookup reference = right.lookup reference) :
    task.resolve left = task.resolve right := by
  have texts : ∀ text ∈ task.texts, text.resolve left = text.resolve right := fun text listed =>
    Template.resolve_congr fun reference member =>
      agree reference (mem_templateReferences_iff.mpr ⟨text, listed, member⟩)
  unfold Task.texts at texts
  unfold Task.resolve
  cases payload : task.payload with
  | http http =>
      simp only [payload, HttpTask.texts, List.mem_append, List.mem_singleton] at texts
      have headers : Dictionary.traverse (Template.resolve left) http.headers =
          Dictionary.traverse (Template.resolve right) http.headers :=
        Dictionary.traverse_congr fun text listed => texts text (Or.inl listed)
      have body : http.body.traverse (Template.resolve left) =
          http.body.traverse (Template.resolve right) :=
        Body.traverse_congr fun text listed => texts text (Or.inr (Or.inl listed))
      have uri := texts http.uri (Or.inr (Or.inr rfl))
      simp only [HttpTask.resolve, headers, body, uri]
  | cli cli =>
      simp only [payload] at texts
      simp only [CliTask.resolve, mapM_congr texts]

/-! ## The first reference without a value -/

/-- The error of the first of the references that has no value, if there is one. -/
def Context.firstMissing (context : Context) (references : List Reference) :
    Option ResolutionError :=
  (references.find? fun reference => !context.contains reference).map fun reference =>
    .missing reference.text

theorem Context.firstMissing_eq_some_iff {references : List Reference} :
    context.firstMissing references = some cause ↔
      ∃ before reference behind, references = before ++ reference :: behind ∧
        (∀ earlier ∈ before, context.lookup earlier ≠ none) ∧ context.lookup reference = none ∧
          cause = .missing reference.text := by
  simp only [firstMissing, Option.map_eq_some_iff, List.find?_eq_some_iff_append, contains,
    Bool.not_eq_true', Option.isSome_eq_false_iff, Option.isNone_iff_eq_none, Bool.not_not,
    ← Option.isSome_iff_ne_none]
  constructor
  · rintro ⟨reference, ⟨missing, before, behind, split, bound⟩, rfl⟩
    exact ⟨before, reference, behind, split, bound, missing, rfl⟩
  · rintro ⟨before, reference, behind, split, bound, missing, rfl⟩
    exact ⟨reference, ⟨missing, before, behind, split, bound⟩, rfl⟩

theorem Context.firstMissing_eq_none_iff {references : List Reference} :
    context.firstMissing references = none ↔
      ∀ reference ∈ references, context.lookup reference ≠ none := by
  simp only [firstMissing, Option.map_eq_none_iff, List.find?_eq_none, contains,
    Bool.not_eq_true', Bool.not_eq_false, ← Option.isSome_iff_ne_none]

/-- What fails with the first of the references that has no value succeeds exactly if all of them
have values. -/
theorem Context.exists_ok_iff_of_firstMissing {α : Type} {result : Except ResolutionError α}
    {references : List Reference}
    (fails : ∀ cause, result = .error cause ↔ context.firstMissing references = some cause) :
    (∃ image, result = .ok image) ↔ ∀ reference ∈ references, context.lookup reference ≠ none := by
  rw [← firstMissing_eq_none_iff]
  cases result with
  | error cause =>
      rw [(fails cause).mp rfl]
      exact iff_of_false (fun ⟨_, done⟩ => nomatch done) fun found => nomatch found
  | ok image =>
      refine iff_of_true ⟨image, rfl⟩ (Option.eq_none_iff_forall_ne_some.mpr ?_)
      intro cause found
      exact nomatch (fails cause).mpr found

/-- Where each item fails with the first of its references that has no value, a list fails with the
first of all of them. -/
theorem mapM_eq_error_iff_firstMissing {α β : Type} {f : α → Except ResolutionError β}
    {references : α → List Reference}
    (fails : ∀ item cause,
      f item = .error cause ↔ context.firstMissing (references item) = some cause)
    {items : List α} :
    items.mapM f = .error cause ↔
      context.firstMissing (items.flatMap references) = some cause := by
  rw [mapM_eq_error_iff_findSome? fails, Context.firstMissing, List.find?_flatMap,
    List.map_findSome?]
  rfl

/-- The references of a segment. -/
def Segment.references : Segment → List Reference
  | .literal _ => []
  | .reference target => [target]

theorem Template.references_eq_flatMap (template : Template) :
    template.references = template.segments.flatMap Segment.references := by
  unfold references
  induction template.segments with
  | nil => rfl
  | cons segment segments ih =>
      rw [List.flatMap_cons, ← ih]
      cases segment <;> rfl

theorem Segment.resolve_eq_error_iff {segment : Segment} :
    segment.resolve context = .error cause ↔
      context.firstMissing segment.references = some cause := by
  cases segment with
  | literal text => exact iff_of_false (fun failed => nomatch failed) fun found => nomatch found
  | reference target =>
      rw [resolve, references, Context.firstMissing, List.find?_singleton, Context.contains]
      cases context.lookup target with
      | none => simp
      | some value => simp

/-- A template fails with the first of its references that has no value. -/
theorem Template.resolve_eq_error_iff_firstMissing {template : Template} :
    template.resolve context = .error cause ↔
      context.firstMissing template.references = some cause := by
  rw [resolve_eq_error_iff, references_eq_flatMap]
  exact mapM_eq_error_iff_firstMissing fun _ _ => Segment.resolve_eq_error_iff

/-- A template can be resolved exactly if its references have values. -/
theorem Template.exists_resolve_iff {template : Template} :
    (∃ text, template.resolve context = .ok text) ↔
      ∀ reference ∈ template.references, context.lookup reference ≠ none :=
  Context.exists_ok_iff_of_firstMissing fun _ => resolve_eq_error_iff_firstMissing

/-- The references of a task in the order in which they are looked up. -/
def Task.resolutionOrder (task : Task) : List Reference :=
  task.texts.flatMap Template.references

theorem Task.mem_resolutionOrder_iff {task : Task} :
    reference ∈ task.resolutionOrder ↔ reference ∈ task.templateReferences := by
  rw [resolutionOrder, List.mem_flatMap, mem_templateReferences_iff]

/-- A task fails with the first of its references that has no value. -/
theorem Task.resolve_eq_error_iff_firstMissing {task : Task} :
    task.resolve context = .error cause ↔
      context.firstMissing task.resolutionOrder = some cause := by
  rw [resolve_eq_error_iff]
  exact mapM_eq_error_iff_firstMissing fun _ _ => Template.resolve_eq_error_iff_firstMissing

/-- A task that cannot be resolved has a template reference without a value, and the error names
it. -/
theorem Task.exists_missing_of_resolve_error {task : Task}
    (failed : task.resolve context = .error cause) :
    ∃ reference ∈ task.templateReferences,
      context.lookup reference = none ∧ cause = .missing reference.text := by
  obtain ⟨before, reference, behind, split, -, unbound, named⟩ :=
    Context.firstMissing_eq_some_iff.mp (resolve_eq_error_iff_firstMissing.mp failed)
  have member : reference ∈ task.resolutionOrder :=
    split ▸ List.mem_append_right _ List.mem_cons_self
  exact ⟨reference, mem_resolutionOrder_iff.mp member, unbound, named⟩

/-- A task can be resolved exactly if its template references have values. -/
theorem Task.exists_resolve_iff {task : Task} :
    (∃ invocation, task.resolve context = .ok invocation) ↔
      ∀ reference ∈ task.templateReferences, context.lookup reference ≠ none := by
  simp only [← mem_resolutionOrder_iff]
  exact Context.exists_ok_iff_of_firstMissing fun _ => resolve_eq_error_iff_firstMissing

end Runbook
