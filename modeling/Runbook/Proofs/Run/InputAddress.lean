import Runbook.Proofs.Run.DataFlow
import Runbook.Proofs.Template.Grammar

/-!
# Addresses of inputs

An input is referred to by its name behind `workflow.input.` in a placeholder. The names of
parameters are only checked to be given and to differ, and not every such name is found again in its
placeholder: it is cut into pieces at its dots, ends at its first closing, and loses the blanks at
its end. A declared parameter can be referred to exactly if none of this happens to its name
(`Workflow.referenceable_iff`).
-/

namespace Runbook

/-- The placeholder of an input. -/
def inputPlaceholder (name : String) : String :=
  "$\x7bworkflow.input." ++ name ++ "\x7d"

/-- The reference to an input. -/
def inputReference (name : String) : Reference :=
  ⟨workflowSpace, [Context.inputSpace, name]⟩

/-- The placeholder of a parameter is read as a single reference, and wherever a run has come to, it
stands for the value that has been supplied. -/
structure Workflow.Referenceable (workflow : Workflow) (name : String) : Prop where
  single : ∃ reference, Template.parse (inputPlaceholder name) =
    .ok ⟨inputPlaceholder name, [.reference reference]⟩
  value : ∀ template, Template.parse (inputPlaceholder name) = .ok template →
    ∀ (inputs : Dictionary String) (value : String), inputs.get? name = some value →
      ∀ (σ : Type) (executor : Executor σ) (state : σ) (point : Engine.Point σ),
        Engine.Reachable executor workflow inputs state point →
          template.resolve point.run.job.context = .ok value

/-! ## Reading the placeholder -/

namespace Reference

theorem pieces_append_dot {piece : List Char} (whole : '.' ∉ piece) (rest : List Char) :
    pieces (piece ++ '.' :: rest) = piece :: pieces rest := by
  have letters : ∀ c ∈ piece, (c == '.') = false := by
    intro c member
    rw [beq_eq_false_iff_ne]
    rintro rfl
    exact whole member
  exact List.splitOnP_append_cons_of_forall_mem letters '.' rfl rest

theorem pieces_eq_singleton_iff {chars piece : List Char} :
    pieces chars = [piece] ↔ chars = piece ∧ '.' ∉ piece := by
  constructor
  · intro single
    have joined : ['.'].intercalate (pieces chars) = chars := List.intercalate_splitOn '.'
    rw [single, List.intercalate_singleton] at joined
    subst joined
    refine ⟨rfl, fun dot => ?_⟩
    obtain ⟨front, rest, split⟩ := List.append_of_mem dot
    -- At a dot there are two pieces at least.
    rw [split, pieces, List.splitOn, List.splitOnP_append_cons front rest rfl,
      List.append_eq_singleton_iff] at single
    rcases single with ⟨nothing, -⟩ | ⟨-, nothing⟩
    · exact List.splitOnP_ne_nil _ front nothing
    · exact List.splitOnP_ne_nil _ rest nothing
  · rintro ⟨rfl, whole⟩
    exact List.splitOn_eq_singleton whole

end Reference

section Placeholder

variable {name : String} {reference : Reference}

/-- The path in the placeholder of an input, without the blanks at its end. -/
theorem pieces_trimChars_input (name : String) :
    Reference.pieces (Text.trimChars ("workflow.input." ++ name).toList) =
      workflowSpace.toList :: Context.inputSpace.toList ::
        Reference.pieces (Text.dropEndWhile Text.isBlank name.toList) := by
  have front : "workflow.input.".toList =
      workflowSpace.toList ++ '.' :: (Context.inputSpace.toList ++ ['.']) := by
    decide
  have begins : ∀ c, "workflow.input.".toList.head? = some c → Text.isBlank c = false := by
    rintro c ⟨⟩
    rfl
  have ends : ∀ c, "workflow.input.".toList.getLast? = some c → Text.isBlank c = false := by
    rintro c ⟨⟩
    rfl
  rw [String.toList_append, Text.trimChars_append (by decide) begins ends, front,
    List.append_assoc, List.cons_append, List.append_assoc, List.singleton_append,
    Reference.pieces_append_dot (by decide), Reference.pieces_append_dot (by decide)]

theorem parse_inputPlaceholder_iff :
    Template.parse (inputPlaceholder name) =
        .ok ⟨inputPlaceholder name, [.reference reference]⟩ ↔
      Template.closing ∉ name.toList ∧
        Reference.Dotted ("workflow.input." ++ name).toList reference := by
  have written : inputPlaceholder name = "$\x7b" ++ ("workflow.input." ++ name) ++ "\x7d" := by
    rw [← String.append_assoc]
    rfl
  have inside : Template.closing ∈ ("workflow.input." ++ name).toList ↔
      Template.closing ∈ name.toList := by
    rw [String.toList_append, List.mem_append, or_iff_right]
    decide
  rw [written, Template.parse_single_iff, inside]

/-- The path to an input is read as the reference to it if its name is one piece of the path. -/
theorem dotted_input_iff (given : name ≠ "") :
    Reference.Dotted ("workflow.input." ++ name).toList (inputReference name) ↔
      '.' ∉ name.toList ∧
        ∀ c, name.toList.getLast? = some c → Text.isBlank c = false := by
  constructor
  · intro dotted
    have segments := dotted.segments
    rw [pieces_trimChars_input, List.map_cons, List.map_cons] at segments
    have last := (List.cons.inj (List.cons.inj segments).2).2.symm
    obtain ⟨piece, single, rfl⟩ := List.map_eq_singleton_iff.mp last
    obtain ⟨kept, whole⟩ := Reference.pieces_eq_singleton_iff.mp single
    rw [String.toList_ofList] at kept ⊢
    refine ⟨whole, fun c ends => ?_⟩
    rw [← kept] at ends
    exact Text.not_test_of_dropEndWhile_getLast? ends
  · rintro ⟨whole, ends⟩
    have split : Reference.pieces (Text.trimChars ("workflow.input." ++ name).toList) =
        [workflowSpace.toList, Context.inputSpace.toList, name.toList] := by
      rw [pieces_trimChars_input, Text.dropEndWhile_eq_self ends,
        Reference.pieces_eq_singleton_iff.mpr ⟨rfl, whole⟩]
    refine ⟨fun empty => ?_, fun piece member => ?_, ?_⟩
    · rw [empty] at split
      cases split
    · rw [split] at member
      simp only [List.mem_cons, List.not_mem_nil, or_false] at member
      rcases member with rfl | rfl | rfl
      · decide
      · decide
      · exact String.toList_eq_nil_iff.not.mpr given
    · rw [split]
      simp [inputReference, Reference.segments]

end Placeholder

/-! ## The value of the placeholder -/

namespace Context

variable {workflow : Workflow} {inputs : Dictionary String} {results : List TaskResult}
  {context : Context}

/-- Where the inputs are, there are the texts that are supplied and nothing else. -/
theorem Bound.lookup_inputs (bound : Bound workflow inputs results context) (name : String)
    (rest : List String) :
    context.lookup ⟨workflowSpace, inputSpace :: name :: rest⟩ =
      (if name ∈ workflow.inputParameters then inputs.get? name else none).bind fun value =>
        Json.descend (.string value) rest := by
  obtain ⟨members, supplied, start⟩ := exists_supplied workflow.inputParameters inputs
  rw [bound.lookup_workflowSpace, start, lookup_inputBindings_input, supplied.get?_eq]
  split_ifs with declared
  · rw [Option.bind_map]
    rfl
  · rfl

theorem Bound.lookup_inputReference (bound : Bound workflow inputs results context)
    {name value : String} (declared : name ∈ workflow.inputParameters)
    (supplied : inputs.get? name = some value) :
    context.lookup (inputReference name) = some (.string value) := by
  rw [inputReference, bound.lookup_inputs, if_pos declared, supplied]
  rfl

/-- Where a single input is supplied, what stands behind the inputs is this input. -/
theorem Bound.eq_of_lookup_inputs {name value : String}
    (bound : Bound workflow [(name, value)] results context) {other : String}
    {rest : List String}
    (found : context.lookup ⟨workflowSpace, inputSpace :: other :: rest⟩ ≠ none) :
    other = name ∧ rest = [] := by
  rw [bound.lookup_inputs, Ne, Option.bind_eq_none_iff] at found
  push Not at found
  obtain ⟨text, supplied, inside⟩ := found
  split_ifs at supplied with declared
  rw [Dictionary.get?_cons, Dictionary.get?_nil] at supplied
  split_ifs at supplied with same
  refine ⟨same.symm, ?_⟩
  -- There is no way from a text to a part of it.
  cases rest with
  | nil => rfl
  | cons segment rest => exact (inside rfl).elim

end Context

namespace Workflow

variable {workflow : Workflow} {name : String}

theorem referenceable_of_dotted (accepted : workflow.Accepted)
    (declared : name ∈ workflow.inputParameters) (closed : Template.closing ∉ name.toList)
    (dotted : Reference.Dotted ("workflow.input." ++ name).toList (inputReference name)) :
    workflow.Referenceable name := by
  have read := parse_inputPlaceholder_iff.mpr ⟨closed, dotted⟩
  refine ⟨⟨_, read⟩, fun template found inputs value supplied σ executor state point reached => ?_⟩
  cases read.symm.trans found
  have bound := reached.bound accepted.wellNamed
  exact Template.resolve_single _ (bound.lookup_inputReference declared supplied)

/-- What the placeholder is read as can only be the reference to the input, since nothing else has a
value when no other input is supplied. -/
theorem Referenceable.dotted (referenceable : workflow.Referenceable name) :
    Template.closing ∉ name.toList ∧
      Reference.Dotted ("workflow.input." ++ name).toList (inputReference name) := by
  obtain ⟨reference, read⟩ := referenceable.single
  obtain ⟨closed, dotted⟩ := parse_inputPlaceholder_iff.mp read
  refine ⟨closed, ?_⟩
  have supplied : Dictionary.get? [(name, "")] name = some "" := by
    rw [Dictionary.get?_cons, if_pos rfl]
  have resolved := referenceable.value _ read [(name, "")] "" supplied Nat
    (Engine.refusingFirst "") 0 _ .initial
  have found : (Context.withInputs workflow.inputParameters [(name, "")]).lookup reference ≠ none :=
    Template.exists_resolve_iff.mp ⟨_, resolved⟩ reference List.mem_cons_self
  obtain ⟨first, rest, split⟩ := List.exists_cons_of_ne_nil
    (List.splitOn_ne_nil '.' (Text.dropEndWhile Text.isBlank name.toList))
  have segments := dotted.segments
  rw [pieces_trimChars_input, Reference.pieces, split, List.map_cons, List.map_cons, List.map_cons,
    String.ofList_toList, String.ofList_toList] at segments
  obtain ⟨space, path⟩ := reference
  cases segments
  obtain ⟨same, nothing⟩ :=
    (Context.bound_withInputs workflow [(name, "")]).eq_of_lookup_inputs found
  rw [same, nothing] at dotted
  exact dotted

/-- **A declared parameter can be referred to exactly if its name is a single piece of a path**: it
has no dot and no closing brace in it, and no blank at its end. -/
theorem referenceable_iff (accepted : workflow.Accepted)
    (declared : name ∈ workflow.inputParameters) :
    workflow.Referenceable name ↔
      '.' ∉ name.toList ∧ '\x7d' ∉ name.toList ∧
        ∀ c, name.toList.getLast? = some c → Text.isBlank c = false := by
  have dotted_iff := dotted_input_iff (accepted.wellNamed.parameter_named name declared)
  constructor
  · intro referenceable
    obtain ⟨closed, dotted⟩ := referenceable.dotted
    obtain ⟨whole, ends⟩ := dotted_iff.mp dotted
    exact ⟨whole, closed, ends⟩
  · rintro ⟨whole, closed, ends⟩
    exact referenceable_of_dotted accepted declared closed (dotted_iff.mpr ⟨whole, ends⟩)

/-- The name of the relay's first parameter is a single piece. -/
theorem relay_referenceable :
    relay.Accepted ∧ "name" ∈ relay.inputParameters ∧ relay.Referenceable "name" := by
  have declared : "name" ∈ relay.inputParameters := by decide
  refine ⟨relay_accepted, declared, (referenceable_iff relay_accepted declared).mpr ?_⟩
  refine ⟨by decide, by decide, ?_⟩
  rintro c ⟨⟩
  rfl

/-- A workflow that says what it is given under a name with a dot in it. -/
def dottedInput : Workflow where
  name := "dotted input"
  description := ""
  version := 0
  schemaVersion := 0
  inputParameters := ["a.b"]
  tasks := [⟨"say", [], 0, .cli ⟨[⟨"echo", [.literal "echo"]⟩,
    ⟨"$\x7bworkflow.input.a.b\x7d", [.reference ⟨"workflow", ["input", "a", "b"]⟩]⟩], none⟩⟩]

/-- Names with dots in them are accepted, and their placeholders have no value. -/
theorem dottedInput_not_referenceable :
    dottedInput.Accepted ∧ "a.b" ∈ dottedInput.inputParameters ∧
      ¬ dottedInput.Referenceable "a.b" := by
  have built : buildWorkflow "dotted input" [.input "a.b",
      .task (TaskDraft.runProgram "say" ["echo", "$\x7bworkflow.input.a.b\x7d"])] =
        .ok dottedInput := by
    decide +kernel
  refine ⟨.built built, by decide, fun referenceable => ?_⟩
  have read : Template.parse (inputPlaceholder "a.b") =
      .ok ⟨inputPlaceholder "a.b", [.reference ⟨"workflow", ["input", "a", "b"]⟩]⟩ := by
    decide +kernel
  have resolved := referenceable.value _ read [("a.b", "x")] "x" rfl Nat
    (Engine.refusingFirst "") 0 _ .initial
  have unbound : Template.resolve (Context.withInputs dottedInput.inputParameters [("a.b", "x")])
      ⟨inputPlaceholder "a.b", [.reference ⟨"workflow", ["input", "a", "b"]⟩]⟩ =
        .error (.missing "workflow.input.a.b") := by
    decide +kernel
  cases unbound.symm.trans resolved

end Workflow

end Runbook
