import Runbook.Proofs.NameOrder
import Runbook.Proofs.Output
import Runbook.Proofs.Template.Grammar

/-!
# Addresses of outputs

Every part of an output has an address: the name of the task, `output`, and the steps that lead from
the value of the body to the part, with a dot in front of each. The placeholder of an address is
read as a single reference, and the reference has the part as its value once the task has published
its output, whatever inputs are bound and whatever other tasks publish later on
(`PathStep.addressed`).
-/

namespace Runbook

/-- A step from a value to one of its parts. -/
inductive PathStep where
  /-- To the member of an object. -/
  | key (name : String)
  /-- To the item of an array. -/
  | position (index : UInt64)
deriving DecidableEq, Repr

/-- Steps lead from a value to one of its parts. -/
inductive JsonTree.PartAt : Json → List PathStep → Json → Prop
  | here (value : Json) : PartAt value [] value
  | member {members : List (String × Json)} {name : String} {value part : Json}
      {steps : List PathStep} (listed : (name, value) ∈ members)
      (inside : PartAt value steps part) : PartAt (.object members) (.key name :: steps) part
  | item {items : List Json} {index : UInt64} {value part : Json} {steps : List PathStep}
      (listed : items[index.toNat]? = some value) (inside : PartAt value steps part) :
      PartAt (.array items) (.position index :: steps) part

open JsonTree (InOrder PartAt)

namespace PathStep

/-- How a step is written. Positions are written in decimal. -/
def text : PathStep → String
  | .key name => name
  | .position index => Decimal.digitText index.toNat

/-- The dotted path from a task to a part of its output. -/
def path (task : String) (steps : List PathStep) : String :=
  task ++ ".output" ++ String.join (steps.map fun step => "." ++ step.text)

/-- The placeholder of a part of an output. -/
def placeholder (task : String) (steps : List PathStep) : String :=
  "$\x7b" ++ path task steps ++ "\x7d"

/-- The reference to a part of an output. -/
def reference (task : String) (steps : List PathStep) : Reference :=
  ⟨task, "output" :: steps.map text⟩

/-- All keys can be segments of a path, and no blanks are lost at its end. -/
structure Writable (steps : List PathStep) : Prop where
  key_ne_empty : ∀ name, .key name ∈ steps → name ≠ ""
  dot_not_mem : ∀ name, .key name ∈ steps → '.' ∉ name.toList
  closing_not_mem : ∀ name, .key name ∈ steps → '\x7d' ∉ name.toList
  ink_at_end : ∀ name, steps.getLast? = some (.key name) →
    ∀ c, name.toList.getLast? = some c → Text.isBlank c = false

end PathStep

/-! ## Dotted forms -/

namespace Reference

variable {reference : Reference}

/-- The dotted form begins with the name space, and has a dot in front of each other segment. -/
theorem text_toList (reference : Reference) :
    reference.text.toList =
      reference.space.toList ++ reference.path.flatMap fun segment => '.' :: segment.toList := by
  obtain ⟨space, path⟩ := reference
  rw [text, String.toList_intercalate, segments]
  induction path generalizing space with
  | nil => simp
  | cons segment path ih =>
      rw [List.map_cons, List.map_cons, List.intercalate_cons_cons, ← List.map_cons, ih segment,
        List.flatMap_cons]
      simp

/-- The dotted form ends as its last segment does. -/
theorem getLast?_text_toList {last : String} (given : last ≠ "")
    (ends : reference.path.getLast? = some last) :
    reference.text.toList.getLast? = last.toList.getLast? := by
  obtain ⟨before, listed⟩ := List.getLast?_eq_some_iff.mp ends
  obtain ⟨before_last, c, split⟩ :=
    List.eq_nil_or_concat last.toList |>.resolve_left (String.toList_eq_nil_iff.not.mpr given)
  rw [text_toList, listed, List.flatMap_append, List.flatMap_singleton, split,
    List.getLast?_append, List.getLast?_append, List.concat_eq_append, ← List.cons_append,
    List.getLast?_concat, List.getLast?_concat]
  rfl

/-- A reference is read from its dotted form if its segments have characters and no dots, and no
blanks stand at the ends. -/
theorem dotted_text (given : ∀ segment ∈ reference.segments, segment ≠ "")
    (whole : ∀ segment ∈ reference.segments, '.' ∉ segment.toList)
    (begins : ∀ c, reference.space.toList.head? = some c → Text.isBlank c = false)
    (ends : ∀ c, reference.text.toList.getLast? = some c → Text.isBlank c = false) :
    Dotted reference.text.toList reference := by
  have spaceGiven : reference.space.toList ≠ [] :=
    String.toList_eq_nil_iff.not.mpr (given _ List.mem_cons_self)
  have trimmed : Text.trimChars reference.text.toList = reference.text.toList := by
    refine Text.trimChars_eq_self (fun c first => begins c ?_) ends
    rwa [text_toList, List.head?_append_of_ne_nil _ spaceGiven] at first
  have split : pieces reference.text.toList = reference.segments.map String.toList := by
    rw [pieces, text, String.toList_intercalate]
    refine List.splitOn_intercalate '.' (fun piece member => ?_) (List.cons_ne_nil _ _)
    obtain ⟨segment, listed, rfl⟩ := List.mem_map.mp member
    exact whole segment listed
  constructor
  · rw [trimmed, text_toList]
    exact List.append_ne_nil_of_left_ne_nil spaceGiven _
  · rw [trimmed, split]
    intro piece member
    obtain ⟨segment, listed, rfl⟩ := List.mem_map.mp member
    exact String.toList_eq_nil_iff.not.mpr (given segment listed)
  · rw [trimmed, split, List.map_map]
    exact (List.map_id'' (fun _ => String.ofList_toList) _).symm

end Reference

/-! ## Steps -/

namespace PathStep

theorem path_eq_text (task : String) (steps : List PathStep) :
    path task steps = (reference task steps).text := by
  rw [← String.toList_inj, Reference.text_toList, path, reference]
  simp [String.toList_join, List.flatMap_map]

/-- Decimal digits are ink, and neither dots nor closings. -/
theorem position_addressable {index : UInt64} {c : Char}
    (member : c ∈ (position index).text.toList) :
    c ≠ '.' ∧ c ≠ '\x7d' ∧ Text.isBlank c = false := by
  rw [text, Decimal.digitText, String.toList_ofList] at member
  have digit : c.isDigit = true := Decimal.isDigit_of_mem_toDigits member
  refine ⟨?_, ?_, ?_⟩
  · rintro rfl
    cases digit
  · rintro rfl
    cases digit
  · have bounds : 48 ≤ c.toNat ∧ c.toNat ≤ 57 := by
      simpa [Char.isDigit, UInt32.le_iff_toNat_le] using digit
    simp only [Text.isBlank, Bool.or_eq_false_iff, Bool.and_eq_false_iff, decide_eq_false_iff_not,
      beq_eq_false_iff_ne]
    omega


theorem text_ne_empty {steps : List PathStep} (writable : Writable steps) {step : PathStep}
    (member : step ∈ steps) : step.text ≠ "" := by
  cases step with
  | key name => exact writable.key_ne_empty name member
  | position index =>
      rw [text, Decimal.digitText, Ne, String.ofList_eq_empty_iff]
      exact Nat.toDigits_ne_nil

theorem dot_not_mem_text {steps : List PathStep} (writable : Writable steps) {step : PathStep}
    (member : step ∈ steps) : '.' ∉ step.text.toList := by
  cases step with
  | key name => exact writable.dot_not_mem name member
  | position index => exact fun inside => (position_addressable inside).1 rfl

theorem closing_not_mem_text {steps : List PathStep} (writable : Writable steps)
    {step : PathStep} (member : step ∈ steps) : '\x7d' ∉ step.text.toList := by
  cases step with
  | key name => exact writable.closing_not_mem name member
  | position index => exact fun inside => (position_addressable inside).2.1 rfl

/-- The path to a part does not end with a blank. -/
theorem ink_at_end_path {steps : List PathStep} (writable : Writable steps) (task : String)
    {c : Char} (last : (reference task steps).text.toList.getLast? = some c) :
    Text.isBlank c = false := by
  rcases List.eq_nil_or_concat steps with rfl | ⟨before, step, rfl⟩
  · have ends : (reference task []).path.getLast? = some "output" := rfl
    rw [Reference.getLast?_text_toList (by decide) ends] at last
    cases last
    decide
  · rw [List.concat_eq_append] at writable last
    have member : step ∈ before ++ [step] := List.mem_append_right _ List.mem_cons_self
    have ends : (reference task (before ++ [step])).path.getLast? = some step.text := by
      rw [reference, List.map_append, List.map_singleton, ← List.cons_append,
        List.getLast?_concat]
    rw [Reference.getLast?_text_toList (text_ne_empty writable member) ends] at last
    cases step with
    | key name => exact writable.ink_at_end name List.getLast?_concat c last
    | position index => exact (position_addressable (List.mem_of_getLast? last)).2.2

section Placeholder

variable {draft : TaskDraft} {steps : List PathStep}

/-- The segments of a path to a part of the output of a task that may have this name. -/
theorem mem_segments {task segment : String}
    (member : segment ∈ (reference task steps).segments) :
    segment = task ∨ segment = "output" ∨ ∃ step ∈ steps, step.text = segment := by
  simpa [Reference.segments, reference] using member

/-- The path to a part of an output is read as the reference to this part. -/
theorem dotted_path (named : draft.validateName = .ok ()) (writable : Writable steps) :
    Reference.Dotted (path draft.name steps).toList (reference draft.name steps) := by
  obtain ⟨given, -, addressable⟩ := TaskDraft.validateName_eq_ok_iff.mp named
  rw [path_eq_text]
  refine Reference.dotted_text (fun segment member => ?_) (fun segment member => ?_)
    (fun c first => ?_) fun c => ink_at_end_path writable draft.name
  · rcases mem_segments member with rfl | rfl | ⟨step, listed, rfl⟩
    · exact given
    · decide
    · exact text_ne_empty writable listed
  · rcases mem_segments member with rfl | rfl | ⟨step, listed, rfl⟩
    · exact fun inside => (addressable '.' inside).1 (by decide)
    · decide
    · exact dot_not_mem_text writable listed
  · exact (addressable c (List.mem_of_head? first)).2

theorem closing_not_mem_path (named : draft.validateName = .ok ()) (writable : Writable steps) :
    Template.closing ∉ (path draft.name steps).toList := by
  obtain ⟨-, -, addressable⟩ := TaskDraft.validateName_eq_ok_iff.mp named
  rw [path_eq_text, Reference.text_toList, List.mem_append, List.mem_flatMap]
  rintro (inside | ⟨segment, listed, inside⟩)
  · exact (addressable _ inside).1 (by decide)
  · rcases List.mem_cons.mp inside with dot | inside
    · cases dot
    · rcases mem_segments (List.mem_cons_of_mem _ listed) with rfl | rfl | ⟨step, member, rfl⟩
      · exact (addressable _ inside).1 (by decide)
      · revert inside
        decide
      · exact closing_not_mem_text writable member inside

/-- The placeholder of a part of an output is one placeholder and nothing else. -/
theorem placeholder_written (named : draft.validateName = .ok ()) (writable : Writable steps) :
    Reference.Placeholder (placeholder draft.name steps) (reference draft.name steps) := by
  refine ⟨(path draft.name steps).toList, ?_, closing_not_mem_path named writable,
    dotted_path named writable⟩
  simp [placeholder, Template.opening, Template.closing]

theorem parse_placeholder (named : draft.validateName = .ok ()) (writable : Writable steps) :
    Template.parse (placeholder draft.name steps) =
      .ok ⟨placeholder draft.name steps, [.reference (reference draft.name steps)]⟩ :=
  Template.parse_single_iff.mpr
    ⟨closing_not_mem_path named writable, dotted_path named writable⟩

end Placeholder

/-! ## Values -/

/-- A step to a part is found by its text. -/
theorem descend_of_partAt {value part : Json} {steps : List PathStep} (inOrder : InOrder value)
    (at_part : PartAt value steps part) : Json.descend value (steps.map text) = some part := by
  induction at_part with
  | here => rfl
  | @member members name value part steps listed inside ih =>
      cases inOrder with
      | object sorted each =>
          have found : Json.step (.object members) name = some value :=
            Dictionary.get?_of_mem sorted listed
          rw [List.map_cons, Json.descend, List.foldlM_cons, text, found]
          exact ih (each _ listed)
  | @item items index value part steps listed inside ih =>
      cases inOrder with
      | array each =>
          have bound : index.toNat ≤ greatestIndex := Nat.le_sub_one_of_lt index.toNat_lt
          have found : Json.step (.array items) (position index).text = some value := by
            rw [Json.step, text, Decimal.digitText, String.toList_ofList,
              Decimal.readNatural_toDigits bound]
            exact listed
          rw [List.map_cons, Json.descend, List.foldlM_cons, found]
          exact ih (each _ (List.mem_of_getElem? listed))

end PathStep

/-- The body of an output has its names in order. -/
theorem Output.inOrder_decodeBody (body : String) : InOrder (decodeBody body) := by
  rcases decodeBody_cases body with ⟨value, read, -, decoded⟩ | ⟨-, decoded⟩
  · rw [decoded]
    exact (Json.readable_of_ofChars read).inOrder
  · rw [decoded]
    exact .string _

namespace PathStep

/-- What the placeholder of a part of an output is read as, and what it stands for. -/
structure Addressed (task : String) (output : Output) (steps : List PathStep) (part : Json) :
    Prop where
  template : Template.parse (placeholder task steps) =
    .ok ⟨placeholder task steps, [.reference (reference task steps)]⟩
  single : Reference.parsePlaceholder (placeholder task steps) = .ok (reference task steps)
  /-- Inputs that are bound and outputs of other tasks that are published later change nothing. -/
  value : ∀ (context : Context) (updates : List ContextUpdate),
    (∀ update ∈ updates, update.Spares task) →
      (updates.foldl ContextUpdate.apply (context.publish task output)).lookup
        (reference task steps) = some part
  resolved : ∀ (context : Context) (updates : List ContextUpdate),
    (∀ update ∈ updates, update.Spares task) →
      ∀ template, Template.parse (placeholder task steps) = .ok template →
        template.resolve (updates.foldl ContextUpdate.apply (context.publish task output)) =
          .ok (Json.rendered part)

/-- The steps from an output to a part of its body lead to this part. -/
theorem lookup_publish_reference {task : String} {output : Output} {steps : List PathStep}
    {part : Json} (at_part : PartAt (Output.decodeBody output.body) steps part)
    (context : Context) :
    (context.publish task output).lookup (reference task steps) = some part := by
  have body := Output.lookup_publish_output context task output
  rw [Context.lookup_publish, if_pos rfl] at body
  rw [Context.lookup_publish, reference, if_pos rfl]
  rw [Json.descend, List.foldlM_cons] at body ⊢
  obtain ⟨value, found, rfl⟩ : ∃ value, Json.step output.published "output" = some value ∧
      value = Output.decodeBody output.body := by
    simpa using body
  rw [found]
  exact descend_of_partAt (Output.inOrder_decodeBody output.body) at_part

/-- **Every part of an output can be addressed** by a task name that the parser accepts. -/
theorem addressed {draft : TaskDraft} (named : draft.validateName = .ok ()) {output : Output}
    {steps : List PathStep} {part : Json}
    (at_part : PartAt (Output.decodeBody output.body) steps part) (writable : Writable steps) :
    Addressed draft.name output steps part := by
  obtain ⟨-, apart, -⟩ := TaskDraft.validateName_eq_ok_iff.mp named
  have template := parse_placeholder named writable
  have value : ∀ (context : Context) (updates : List ContextUpdate),
      (∀ update ∈ updates, update.Spares draft.name) →
        (updates.foldl ContextUpdate.apply (context.publish draft.name output)).lookup
          (reference draft.name steps) = some part := by
    intro context updates spared
    rw [reference, ContextUpdate.lookup_foldl_apply apart spared]
    exact lookup_publish_reference at_part context
  refine
    { template
      single := Reference.parsePlaceholder_eq_ok_iff.mpr (placeholder_written named writable)
      value
      resolved := fun context updates spared found read => ?_ }
  cases template.symm.trans read
  have resolved := value context updates spared
  rw [Template.resolve, List.mapM_cons, List.mapM_nil, Segment.resolve, resolved]
  exact congrArg Except.ok String.empty_append

/-- The second item of an array in an object. -/
theorem addressed_item :
    PartAt (Output.decodeBody "\x7b\"items\": [1, \x7b\"id \": 7\x7d]\x7d")
        [.key "items", .position 1] (.object [("id ", .number (.int 7))]) ∧
      Addressed "fetch" ⟨"\x7b\"items\": [1, \x7b\"id \": 7\x7d]\x7d", none, [], some 0⟩
        [.key "items", .position 1] (.object [("id ", .number (.int 7))]) := by
  have decoded : Output.decodeBody "\x7b\"items\": [1, \x7b\"id \": 7\x7d]\x7d" =
      .object [("items", .array [.number (.int 1), .object [("id ", .number (.int 7))]])] := by
    decide +kernel
  have at_part : PartAt (Output.decodeBody "\x7b\"items\": [1, \x7b\"id \": 7\x7d]\x7d")
      [.key "items", .position 1] (.object [("id ", .number (.int 7))]) := by
    rw [decoded]
    exact .member List.mem_cons_self (.item rfl (.here _))
  have named : (TaskDraft.new "fetch" "CLI").validateName = .ok () := by decide
  refine ⟨at_part, addressed named at_part ?_⟩
  constructor <;> simp

end PathStep

end Runbook
