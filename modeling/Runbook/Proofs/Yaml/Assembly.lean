import Runbook.Proofs.Yaml.Flow
import Runbook.Yaml.Assembly

/-!
# The node of a flow mapping

The tokens of an object are put together to one node (`Yaml.document_flowTokens`), in which no node
has properties and every word is a plain scalar.
-/

namespace Runbook.Yaml

open Json (Portable chars)

/-! ## The node of a value -/

mutual

/-- The node of a value in flow style. -/
def flowNode {α : Type} : Json → Node α
  | .string s => .scalar .absent s.toList false
  | .array items => .sequence .absent (flowItems items)
  | .object members => .mapping .absent (flowEntries members)
  | word => .scalar .absent (chars word) true

/-- The nodes of the items of an array. -/
def flowItems {α : Type} : List Json → List (Node α)
  | [] => []
  | item :: items => flowNode item :: flowItems items

/-- The nodes of the members of an object. -/
def flowEntries {α : Type} : List (String × Json) → List (Node α × Node α)
  | [] => []
  | (name, value) :: members =>
    (.scalar .absent name.toList false, flowNode value) :: flowEntries members

end

/-! ## Putting a node together -/

namespace Assembly

variable (assembly : Assembly)

/-- The state in which one more collection is open. -/
def inside (frame : Frame) : Assembly :=
  { assembly with frames := frame :: assembly.frames, properties := .absent }

/-- A node comes next in a flow collection. -/
inductive AwaitsNode : Frame → Prop
  | item {properties : Properties (List Char)} {items : List WrittenNode} :
      AwaitsNode (.flowSequence properties items .entry)
  | value {properties : Properties (List Char)} {entries : List (WrittenNode × WrittenNode)}
      {key : WrittenNode} : AwaitsNode (.flowMapping properties entries (.value key))

/-- Where a node comes next, the tokens of a value are put together to its node. -/
def Builds (value : Json) : Prop :=
  ∀ (assembly : Assembly) {frame : Frame}, AwaitsNode frame →
    (flowTokens value).foldlM step (assembly.inside frame) =
      some ((assembly.inside frame).complete (flowNode value))

theorem builds_scalar {value : Json} {text : List Char} {plain : Bool}
    (tokens : flowTokens value = [.scalar text plain])
    (node : flowNode value = (.scalar .absent text plain : WrittenNode)) : Builds value := by
  intro assembly frame awaits
  rw [tokens, node]
  cases awaits <;> rfl

/-- An array is put together from behind one of its items. -/
theorem foldlM_itemsTokens {items : List Json} (each : ∀ item ∈ items, Builds item)
    (done : List WrittenNode) :
    (itemsTokens items).foldlM step (assembly.inside (.flowSequence .absent done .separator)) =
      some (assembly.complete (.sequence .absent (done.reverse ++ flowItems items))) := by
  -- On the items; those that are complete are kept newest first in the frame.
  induction items generalizing done with
  | nil =>
      rw [flowItems, List.append_nil]
      rfl
  | cons item items ih =>
      obtain ⟨first, later⟩ := List.forall_mem_cons.mp each
      have opens : step (assembly.inside (.flowSequence .absent done .separator)) .comma =
          some (assembly.inside (.flowSequence .absent done .entry)) := rfl
      have fills : (assembly.inside (.flowSequence .absent done .entry)).complete (flowNode item) =
          assembly.inside (.flowSequence .absent (flowNode item :: done) .separator) := rfl
      rw [itemsTokens, List.foldlM_cons, opens, Option.bind_eq_bind, Option.bind_some,
        List.foldlM_append, first assembly .item, Option.bind_eq_bind, Option.bind_some, fills,
        ih later, flowItems, List.reverse_cons, List.append_assoc]
      rfl

/-- A member of an object is put together from its name and its value. -/
theorem foldlM_member (name : String) {value : Json} (builds : Builds value)
    (done : List (WrittenNode × WrittenNode)) :
    (nameTokens name ++ flowTokens value).foldlM step
        (assembly.inside (.flowMapping .absent done .entry)) =
      some (assembly.inside (.flowMapping .absent
        ((.scalar .absent name.toList false, flowNode value) :: done) .separator)) := by
  have named : (nameTokens name).foldlM step
        (assembly.inside (.flowMapping .absent done .entry)) =
      some (assembly.inside (.flowMapping .absent done
        (.value (.scalar .absent name.toList false)))) := rfl
  rw [List.foldlM_append, named, Option.bind_eq_bind, Option.bind_some, builds assembly .value]
  rfl

/-- An object is put together from behind one of its members. -/
theorem foldlM_membersTokens {members : List (String × Json)}
    (each : ∀ member ∈ members, Builds member.2) (done : List (WrittenNode × WrittenNode)) :
    (membersTokens members).foldlM step (assembly.inside (.flowMapping .absent done .separator)) =
      some (assembly.complete (.mapping .absent (done.reverse ++ flowEntries members))) := by
  induction members generalizing done with
  | nil =>
      rw [flowEntries, List.append_nil]
      rfl
  | cons member members ih =>
      obtain ⟨name, value⟩ := member
      obtain ⟨first, later⟩ := List.forall_mem_cons.mp each
      have opens : step (assembly.inside (.flowMapping .absent done .separator)) .comma =
          some (assembly.inside (.flowMapping .absent done .entry)) := rfl
      rw [membersTokens, ← List.append_assoc, List.foldlM_cons, opens, Option.bind_eq_bind,
        Option.bind_some, List.foldlM_append, foldlM_member assembly name first,
        Option.bind_eq_bind, Option.bind_some, ih later, flowEntries, List.reverse_cons,
        List.append_assoc]
      rfl

/-- An object is put together wherever a flow mapping may be opened. -/
theorem foldlM_object {members : List (String × Json)}
    (each : ∀ member ∈ members, Builds member.2) {before : Assembly}
    (opens : before.step .openFlowMapping =
      some (assembly.inside (.flowMapping .absent [] .entry))) :
    (flowTokens (.object members)).foldlM step before =
      some (assembly.complete (flowNode (.object members))) := by
  cases members with
  | nil =>
      rw [flowTokens, List.foldlM_cons, opens]
      rfl
  | cons member members =>
      obtain ⟨name, value⟩ := member
      obtain ⟨first, later⟩ := List.forall_mem_cons.mp each
      rw [flowTokens, ← List.append_assoc, List.foldlM_cons, opens, Option.bind_eq_bind,
        Option.bind_some, List.foldlM_append, foldlM_member assembly name first,
        Option.bind_eq_bind, Option.bind_some, foldlM_membersTokens assembly later, flowNode,
        flowEntries]
      rfl

theorem builds_array {items : List Json} (each : ∀ item ∈ items, Builds item) :
    Builds (.array items) := by
  intro assembly frame awaits
  have opens : step (assembly.inside frame) .openFlowSequence =
      some ((assembly.inside frame).inside (.flowSequence .absent [] .entry)) := by
    cases awaits <;> rfl
  cases items with
  | nil =>
      rw [flowTokens, List.foldlM_cons, opens]
      rfl
  | cons item items =>
      obtain ⟨first, later⟩ := List.forall_mem_cons.mp each
      rw [flowTokens, List.foldlM_cons, opens, Option.bind_eq_bind, Option.bind_some,
        List.foldlM_append, first _ .item, Option.bind_eq_bind, Option.bind_some]
      exact foldlM_itemsTokens (assembly.inside frame) later [flowNode item]

theorem builds_of_portable {room : Nat} {value : Json} (portable : Portable room value) :
    Builds value := by
  induction portable with
  | array _ _ ih => exact builds_array ih
  | object _ _ _ _ ih =>
      intro assembly frame awaits
      refine foldlM_object _ ih ?_
      cases awaits <;> rfl
  | bool value => cases value <;> exact builds_scalar rfl rfl
  | _ => exact builds_scalar rfl rfl

end Assembly

/-- **The document of an object.** -/
theorem document_flowTokens {room : Nat} {members : List (String × Json)}
    (portable : Portable room (.object members)) :
    document (flowTokens (.object members) ++ [.streamEnd]) =
      some (some (flowNode (.object members))) := by
  cases portable with
  | object _ _ _ each =>
      have opens : Assembly.start.step .openFlowMapping = some
          ((Assembly.start.beginDocument false).inside (.flowMapping .absent [] .entry)) := rfl
      rw [document, List.foldlM_append, Assembly.foldlM_object _
        (fun member listed => Assembly.builds_of_portable (each member listed)) opens]
      rfl

end Runbook.Yaml
