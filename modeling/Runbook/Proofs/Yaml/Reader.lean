import Runbook.Proofs.Json.Order
import Runbook.Yaml.Reader

/-!
# Values of YAML documents

Mappings are read with their keys in order, so that the names in the value of a document are in
order (`Yaml.inOrder_of_ofChars`).
-/

namespace Runbook.Yaml

open JsonTree (isContainer InOrder)

/-! ## Scalars -/

section Scalars

variable {text : List Char} {value : Json}

theorem isContainer_of_readFloating (found : readFloating text = some value) :
    isContainer value = false := by
  unfold readFloating at found
  split_ifs at found
  · cases found
    rfl
  · obtain ⟨_, -, rfl⟩ := Option.map_eq_some_iff.mp found
    rfl

theorem isContainer_of_plainValue (found : plainValue text = some value) :
    isContainer value = false := by
  unfold plainValue at found
  split at found
  · cases found
    rfl
  · split at found
    · cases found
      rfl
    · cases found
      rfl
    · cases found
    · split_ifs at found
      · cases found
        rfl
      · cases read : readFloating text with
        | none =>
            rw [read] at found
            cases found
            rfl
        | some other =>
            rw [read] at found
            cases found
            exact isContainer_of_readFloating read

/-- A scalar is no container. -/
theorem isContainer_of_scalarValue {tag : Option (List UInt8)} {plain : Bool}
    (found : scalarValue tag text plain = some value) : isContainer value = false := by
  have bare : (if plain then plainValue text else some (.string (String.ofList text))) =
      some value → isContainer value = false := by
    intro found
    split_ifs at found
    · exact isContainer_of_plainValue found
    · cases found
      rfl
  unfold scalarValue at found
  generalize (if plain then plainValue text else some (.string (String.ofList text))) = untagged
    at bare found
  dsimp only at found
  split at found
  · exact bare found
  · split_ifs at found
    · exact bare found
    · obtain ⟨_, -, rfl⟩ := Option.map_eq_some_iff.mp found
      rfl
    · unfold integerValue at found
      split at found
      · cases found
        rfl
      · cases found
    · exact isContainer_of_readFloating found
    · cases found
      rfl
    · cases found
      rfl

end Scalars

/-! ## Nodes -/

section Run

variable {σ α β : Type}

theorem bind_run_eq_some_iff {step : StateT σ Option α} {next : α → StateT σ Option β}
    {state after : σ} {image : β} :
    (step >>= next).run state = some (image, after) ↔
      ∃ found middle, step.run state = some (found, middle) ∧
        (next found).run middle = some (image, after) := by
  rw [StateT.run_bind, Option.bind_eq_bind, Option.bind_eq_some_iff, Prod.exists]

/-- What holds of the image of each item holds of the images of a list. -/
theorem forall_of_mapM {f : α → StateT σ Option β} {holds : β → Prop} {items : List α}
    (each : ∀ item ∈ items, ∀ state image after,
      (f item).run state = some (image, after) → holds image) {state after : σ} {images : List β}
    (done : (items.mapM f).run state = some (images, after)) : ∀ image ∈ images, holds image := by
  induction items generalizing state images with
  | nil =>
      cases done
      exact fun _ member => nomatch member
  | cons item items ih =>
      obtain ⟨first, rest⟩ := List.forall_mem_cons.mp each
      rw [List.mapM_cons] at done
      obtain ⟨image, middle, found, done⟩ := bind_run_eq_some_iff.mp done
      obtain ⟨later, last, others, built⟩ := bind_run_eq_some_iff.mp done
      cases built
      exact List.forall_mem_cons.mpr ⟨first _ _ _ found, ih rest others⟩

end Run

/-! The depth and the node that is followed are matched at once, which leaves `nodeValue` without
equations of its own. These are the two that it has. -/

/-- Where no collection may be nested, a node is a scalar. -/
theorem nodeValue_zero (targets : Targets) (node : NumberedNode) :
    nodeValue targets 0 node = (do
      match ← follow targets node with
      | .scalar properties text plain => StateT.lift (scalarValue properties.tag text plain)
      | _ => failure) := by
  delta nodeValue
  refine bind_congr (m := StateT Nat Option) fun node => ?_
  cases node <;> rfl

/-- Collections are read one level further down. -/
theorem nodeValue_succ (targets : Targets) (depth : Nat) (node : NumberedNode) :
    nodeValue targets (depth + 1) node = (do
      match ← follow targets node with
      | .scalar properties text plain => StateT.lift (scalarValue properties.tag text plain)
      | .sequence properties items => do
        checkTag properties
        return .array (← items.mapM (nodeValue targets depth))
      | .mapping properties entries => do
        checkTag properties
        let members ← entries.mapM fun (key, value) => do
          return (← keyName targets key, ← nodeValue targets depth value)
        return .object (Dictionary.ofList members)
      | _ => failure) := by
  delta nodeValue
  refine bind_congr (m := StateT Nat Option) fun node => ?_
  cases node <;> rfl

section Nodes

variable {targets : Targets} {left after : Nat} {value : Json}

theorem inOrder_of_lift_scalarValue {tag : Option (List UInt8)} {text : List Char} {plain : Bool}
    (found : (StateT.lift (scalarValue tag text plain)).run left = some (value, after)) :
    InOrder value := by
  obtain ⟨scalar, read, built⟩ := Option.bind_eq_some_iff.mp found
  cases built
  exact JsonTree.inOrder_of_not_isContainer (isContainer_of_scalarValue read)

/-- The names in the value of a node are in order. -/
theorem inOrder_of_nodeValue {depth : Nat} {node : NumberedNode}
    (found : (nodeValue targets depth node).run left = some (value, after)) : InOrder value := by
  induction depth generalizing node left after value with
  | zero =>
      rw [nodeValue_zero] at found
      obtain ⟨target, middle, -, found⟩ := bind_run_eq_some_iff.mp found
      cases target with
      | scalar => exact inOrder_of_lift_scalarValue found
      | _ => cases found
  | succ depth ih =>
      rw [nodeValue_succ] at found
      obtain ⟨target, middle, -, found⟩ := bind_run_eq_some_iff.mp found
      cases target with
      | «alias» => cases found
      | scalar => exact inOrder_of_lift_scalarValue found
      | sequence properties items =>
          obtain ⟨-, _, -, found⟩ := bind_run_eq_some_iff.mp found
          obtain ⟨values, _, read, built⟩ := bind_run_eq_some_iff.mp found
          cases built
          exact .array (forall_of_mapM (fun _ _ _ _ _ found => ih found) read)
      | mapping properties entries =>
          obtain ⟨-, _, -, found⟩ := bind_run_eq_some_iff.mp found
          obtain ⟨members, _, read, built⟩ := bind_run_eq_some_iff.mp found
          cases built
          have each : ∀ member ∈ members, InOrder member.2 := by
            refine forall_of_mapM (fun entry _ state member later found => ?_) read
            obtain ⟨name, _, -, found⟩ := bind_run_eq_some_iff.mp found
            obtain ⟨value, _, valued, built⟩ := bind_run_eq_some_iff.mp found
            cases built
            exact ih valued
          exact .object (Dictionary.sorted_ofList members) fun member listed =>
            each member (Dictionary.mem_of_mem_ofList listed)

end Nodes

/-- **The names in the value of a document are in order.** -/
theorem inOrder_of_ofChars {chars : List Char} {value : Json} (read : ofChars chars = some value) :
    InOrder value := by
  obtain ⟨lexed, -, read⟩ := Option.bind_eq_some_iff.mp read
  obtain ⟨parsed, -, read⟩ := Option.bind_eq_some_iff.mp read
  cases parsed with
  | none =>
      cases read
      exact .null
  | some root =>
      obtain ⟨numbered, -, read⟩ := Option.bind_eq_some_iff.mp read
      obtain ⟨⟨found, left⟩, valued, built⟩ := Option.bind_eq_some_iff.mp read
      cases built
      exact inOrder_of_nodeValue valued

end Runbook.Yaml
