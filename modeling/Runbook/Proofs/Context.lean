import Runbook.Context
import Runbook.Proofs.Dictionary

/-!
# Laws of contexts

The inputs that a job starts with stand in one object (`Context.exists_supplied`). Publishing
changes the values of one name space (`Context.lookup_publish`), and binding an input changes the
values on the path of the input only (`Context.lookup_bindInput_of_not_comparable`).
-/

namespace Runbook

/-- The members hold the values that are given for the declared parameters, and nothing else. -/
structure Supplied (parameters : List String) (inputs : Dictionary String)
    (members : Dictionary Json) : Prop where
  sorted : members.Sorted
  get?_eq : ∀ name, members.get? name =
    if name ∈ parameters then (inputs.get? name).map .string else none

/-- Whether a value is given for a declared parameter. -/
def AnySupplied (parameters : List String) (inputs : Dictionary String) : Prop :=
  ∃ name ∈ parameters, (inputs.get? name).isSome

theorem Supplied.ne_nil_iff {parameters : List String} {inputs : Dictionary String}
    {members : Dictionary Json} (supplied : Supplied parameters inputs members) :
    members ≠ [] ↔ AnySupplied parameters inputs := by
  constructor
  · intro nonempty
    obtain ⟨entry, rest, rfl⟩ := List.exists_cons_of_ne_nil nonempty
    have found := supplied.get?_eq entry.1
    rw [Dictionary.get?_cons, if_pos rfl] at found
    by_cases declared : entry.1 ∈ parameters
    · rw [if_pos declared] at found
      refine ⟨entry.1, declared, ?_⟩
      rw [← Option.isSome_map, ← found]
      rfl
    · rw [if_neg declared] at found
      cases found
  · rintro ⟨name, declared, given⟩ rfl
    have found := supplied.get?_eq name
    rw [if_pos declared, Dictionary.get?_nil] at found
    rw [← Option.isSome_map, ← found] at given
    cases given

namespace Context

/-- The bindings of a context that holds these inputs and nothing else. -/
def inputBindings (members : Dictionary Json) : Dictionary Json :=
  match members with
  | [] => []
  | _ :: _ => [(workflowSpace, .object [(inputSpace, .object members)])]

theorem inputBindings_insert (members : Dictionary Json) (name : String) (value : Json) :
    inputBindings (members.insert name value) =
      [(workflowSpace, .object [(inputSpace, .object (members.insert name value))])] := by
  cases inserted : members.insert name value with
  | cons entry rest => rfl
  | nil =>
      have found := Dictionary.get?_insert_self name value members
      rw [inserted] at found
      cases found

/-- Binding an input keeps the inputs in their object. -/
theorem bindInput_inputBindings (members : Dictionary Json) (name value : String) :
    bindInput ⟨inputBindings members⟩ name value =
      ⟨inputBindings (members.insert name (.string value))⟩ := by
  rw [inputBindings_insert]
  cases members with
  | nil => rfl
  | cons entry rest =>
      simp only [bindInput, inputBindings, bindAt, Dictionary.get?_cons, Dictionary.insert,
        String.lt_irrefl, ↓reduceIte]

/-- Bind the input of a parameter, if it is given. -/
def bindSupplied (inputs : Dictionary String) (context : Context) (name : String) : Context :=
  match inputs.get? name with
  | some value => context.bindInput name value
  | none => context

theorem withInputs_eq_foldl (parameters : List String) (inputs : Dictionary String) :
    withInputs parameters inputs = parameters.foldl (bindSupplied inputs) ⟨inputBindings []⟩ := rfl

private theorem foldl_bindSupplied (parameters : List String) (inputs : Dictionary String)
    {built : Dictionary Json} (sorted : built.Sorted) :
    ∃ members : Dictionary Json, members.Sorted ∧
      (∀ name, members.get? name = if name ∈ parameters ∧ (inputs.get? name).isSome then
        (inputs.get? name).map .string else built.get? name) ∧
      parameters.foldl (bindSupplied inputs) ⟨inputBindings built⟩ = ⟨inputBindings members⟩ := by
  induction parameters generalizing built with
  | nil => exact ⟨built, sorted, fun name => by simp, rfl⟩
  | cons parameter parameters ih =>
      rw [List.foldl_cons]
      cases given : inputs.get? parameter with
      | none =>
          obtain ⟨members, ordered, values, folded⟩ := ih sorted
          refine ⟨members, ordered, fun name => ?_, ?_⟩
          · rw [values name]
            by_cases same : name = parameter
            · simp [same, given]
            · simp [same]
          · rw [bindSupplied, given]
            exact folded
      | some value =>
          obtain ⟨members, ordered, values, folded⟩ :=
            ih (Dictionary.sorted_insert parameter (.string value) sorted)
          refine ⟨members, ordered, fun name => ?_, ?_⟩
          · rw [values name, Dictionary.get?_insert]
            by_cases same : name = parameter
            · simp [same, given]
            · simp [same]
          · rw [bindSupplied, given]
            simp only [bindInput_inputBindings]
            exact folded

/-- The context that a job starts with holds the supplied inputs. -/
theorem exists_supplied (parameters : List String) (inputs : Dictionary String) :
    ∃ members, Supplied parameters inputs members ∧
      withInputs parameters inputs = ⟨inputBindings members⟩ := by
  obtain ⟨members, sorted, values, folded⟩ :=
    @foldl_bindSupplied parameters inputs [] List.Pairwise.nil
  refine ⟨members, ⟨sorted, fun name => ?_⟩, (withInputs_eq_foldl parameters inputs).trans folded⟩
  rw [values name, Dictionary.get?_nil]
  by_cases declared : name ∈ parameters
  · cases given : inputs.get? name <;> simp [declared]
  · simp [declared]

/-- The inputs are found in their own place only. -/
theorem lookup_inputBindings_eq_none {members : Dictionary Json} {reference : Reference}
    (apart : reference.space ≠ workflowSpace ∨
      ∃ segment rest, reference.path = segment :: rest ∧ segment ≠ inputSpace) :
    lookup ⟨inputBindings members⟩ reference = none := by
  cases members with
  | nil => rfl
  | cons entry members =>
      rw [lookup, inputBindings]
      rcases apart with foreign | ⟨segment, rest, path, foreign⟩
      · rw [Dictionary.get?_cons, if_neg (Ne.symm foreign), Dictionary.get?_nil]
        rfl
      · rw [Dictionary.get?_cons, path]
        by_cases same : workflowSpace = reference.space
        · rw [if_pos same]
          have absent : Dictionary.get? [(inputSpace, JsonTree.object (entry :: members))] segment =
              none := by
            rw [Dictionary.get?_cons, if_neg (Ne.symm foreign), Dictionary.get?_nil]
          simp [Json.descend, Json.step, absent]
        · rw [if_neg same, Dictionary.get?_nil]
          rfl

theorem lookup_inputBindings_input (members : Dictionary Json) (name : String)
    (rest : List String) :
    lookup ⟨inputBindings members⟩ ⟨workflowSpace, inputSpace :: name :: rest⟩ =
      (members.get? name).bind fun value => value.descend rest := by
  cases members with
  | nil => rfl
  | cons entry members =>
      simp [lookup, inputBindings, Dictionary.get?_cons, Json.descend, Json.step]

/-- Publishing changes the values of one name space. -/
theorem lookup_publish (context : Context) (task : String) (output : Output)
    (reference : Reference) :
    (context.publish task output).lookup reference =
      if reference.space = task then output.published.descend reference.path
      else context.lookup reference := by
  simp only [lookup, publish, Dictionary.get?_insert]
  by_cases same : reference.space = task
  · rw [if_pos same, if_pos same]
    rfl
  · rw [if_neg same, if_neg same]

end Context

/-! ## Paths and updates -/

/-- The path of an input, from the name space of the workflow on. -/
def inputPath (name : String) : List String := [workflowSpace, Context.inputSpace, name]

/-- One of the reference and the path leads on from the other. -/
def Reference.Comparable (reference : Reference) (path : List String) : Prop :=
  reference.segments <+: path ∨ path <+: reference.segments

instance (reference : Reference) (path : List String) : Decidable (reference.Comparable path) :=
  inferInstanceAs (Decidable (_ ∨ _))

/-- What may be added to a context. -/
inductive ContextUpdate where
  | input (name value : String)
  | publish (task : String) (output : Output)

namespace ContextUpdate

/-- Add to a context. -/
def apply (context : Context) : ContextUpdate → Context
  | .input name value => context.bindInput name value
  | .publish task output => context.publish task output

/-- Whether the output of a task is left as it is. -/
def Spares (task : String) : ContextUpdate → Prop
  | .input _ _ => True
  | .publish other _ => other ≠ task

end ContextUpdate

namespace Context

theorem get?_bindAt_of_ne {key other : String} (different : other ≠ key)
    (bindings : Dictionary Json) (bind : Dictionary Json → Dictionary Json) :
    (bindAt bindings key bind).get? other = bindings.get? other := by
  rw [bindAt]
  split
  · exact Dictionary.get?_insert_of_ne different _ _
  · exact Dictionary.get?_insert_of_ne different _ _
  · rfl

/-- Inputs have a name space of their own. -/
theorem lookup_bindInput_of_ne {reference : Reference} (apart : reference.space ≠ workflowSpace)
    (context : Context) (name value : String) :
    (context.bindInput name value).lookup reference = context.lookup reference := by
  rw [lookup, lookup, bindInput, get?_bindAt_of_ne apart]

/-- A look-up descends from the object of all bindings. -/
theorem lookup_eq_descend (context : Context) (reference : Reference) :
    context.lookup reference = Json.descend context.json reference.segments := by
  rw [Json.descend, Reference.segments, List.foldlM_cons]
  rfl

theorem descend_object_cons (members : Dictionary Json) (segment : String) (rest : List String) :
    Json.descend (.object members) (segment :: rest) =
      (members.get? segment).bind fun value => value.descend rest := by
  rw [Json.descend, List.foldlM_cons]
  rfl

/-- Where binding in an object changes nothing off a path, binding one level further up changes
nothing off the path that leads on to it. -/
theorem descend_bindAt {key : String} {tail path : List String}
    {bind : Dictionary Json → Dictionary Json}
    (kept : ∀ members path, ¬ (path <+: tail ∨ tail <+: path) →
      Json.descend (.object (bind members)) path = Json.descend (.object members) path)
    (apart : ¬ (path <+: key :: tail ∨ key :: tail <+: path)) (bindings : Dictionary Json) :
    Json.descend (.object (bindAt bindings key bind)) path =
      Json.descend (.object bindings) path := by
  cases path with
  | nil => exact (apart (Or.inl List.nil_prefix)).elim
  | cons segment rest =>
      rw [descend_object_cons, descend_object_cons]
      by_cases same : segment = key
      · subst same
        simp only [List.cons_prefix_cons, true_and] at apart
        rw [bindAt]
        split
        · rename_i absent
          rw [Dictionary.get?_insert_self, absent, Option.bind_some, kept _ _ apart]
          -- An object without members has no value off the path.
          cases rest with
          | nil => exact (apart (Or.inl List.nil_prefix)).elim
          | cons next rest => rw [descend_object_cons, Dictionary.get?_nil]; rfl
        · rename_i members found
          rw [Dictionary.get?_insert_self, found, Option.bind_some, Option.bind_some,
            kept _ _ apart]
        · rfl
      · rw [get?_bindAt_of_ne same]

theorem descend_insert {key : String} {path : List String}
    (apart : ¬ (path <+: [key] ∨ [key] <+: path)) (value : Json) (members : Dictionary Json) :
    Json.descend (.object (members.insert key value)) path =
      Json.descend (.object members) path := by
  cases path with
  | nil => exact (apart (Or.inl List.nil_prefix)).elim
  | cons segment rest =>
      have different : segment ≠ key := by
        rintro rfl
        exact apart (Or.inr ⟨rest, rfl⟩)
      rw [descend_object_cons, descend_object_cons, Dictionary.get?_insert_of_ne different]

/-- Binding an input changes nothing off the path of the input. -/
theorem lookup_bindInput_of_not_comparable {reference : Reference} {name : String}
    (apart : ¬ reference.Comparable (inputPath name)) (context : Context) (value : String) :
    (context.bindInput name value).lookup reference = context.lookup reference := by
  have spaces : ∀ spaces path, ¬ (path <+: [inputSpace, name] ∨ [inputSpace, name] <+: path) →
      Json.descend (.object (bindAt spaces inputSpace fun inputs =>
        inputs.insert name (.string value))) path = Json.descend (.object spaces) path :=
    fun spaces path apart =>
      descend_bindAt (fun inputs path apart => descend_insert apart _ inputs) apart spaces
  rw [lookup_eq_descend, lookup_eq_descend]
  exact descend_bindAt spaces apart context.bindings

end Context

/-- What is added later does not change the output of a task that is spared. -/
theorem ContextUpdate.lookup_foldl_apply {task : String} (apart : task ≠ workflowSpace)
    {updates : List ContextUpdate} (spared : ∀ update ∈ updates, update.Spares task)
    (context : Context) (path : List String) :
    (updates.foldl apply context).lookup ⟨task, path⟩ = context.lookup ⟨task, path⟩ := by
  induction updates generalizing context with
  | nil => rfl
  | cons update updates ih =>
      obtain ⟨first, rest⟩ := List.forall_mem_cons.mp spared
      rw [List.foldl_cons, ih rest]
      cases update with
      | input name value => exact Context.lookup_bindInput_of_ne apart context name value
      | publish other output =>
          rw [apply, Context.lookup_publish]
          exact if_neg (Ne.symm first)

end Runbook
