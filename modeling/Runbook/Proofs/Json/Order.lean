import Runbook.Proofs.Image
import Runbook.Proofs.Json.Reader

/-!
# The order of names

Trees whose objects have their members in order of the names (`JsonTree.InOrder`). Values that are
read from JSON texts are such trees (`Json.Readable.inOrder`), and traversals keep the names in
their places (`JsonTree.InOrder.of_traverse`).
-/

namespace Runbook

variable {α β ε : Type} {f : α → Except ε β}

namespace Dictionary

/-- A traversal keeps the keys. -/
theorem keys_of_traverse {entries : Dictionary α} {images : Dictionary β}
    (done : traverse f entries = .ok images) : images.keys = entries.keys := by
  induction entries generalizing images with
  | nil =>
      cases done
      rfl
  | cons entry rest ih =>
      rw [traverse] at done
      obtain ⟨image, -, done⟩ := bind_eq_ok_iff.mp done
      obtain ⟨later, others, built⟩ := bind_eq_ok_iff.mp done
      cases built
      exact congrArg (List.cons entry.1) (ih others)

theorem Sorted.of_traverse {entries : Dictionary α} (sorted : entries.Sorted)
    {images : Dictionary β} (done : traverse f entries = .ok images) : images.Sorted := by
  rw [sorted_iff_pairwise_keys, keys_of_traverse done]
  exact sorted_iff_pairwise_keys.mp sorted

end Dictionary

namespace JsonTree

/-- The members of all objects stand in increasing order of their names. -/
inductive InOrder : JsonTree α → Prop
  | null : InOrder .null
  | bool (value : Bool) : InOrder (.bool value)
  | number (value : Number) : InOrder (.number value)
  | string (text : α) : InOrder (.string text)
  | array {items : List (JsonTree α)} (each : ∀ item ∈ items, InOrder item) :
      InOrder (.array items)
  | object {members : List (String × JsonTree α)} (sorted : Dictionary.Sorted members)
      (each : ∀ member ∈ members, InOrder member.2) : InOrder (.object members)

/-- What holds no other values holds no names either. -/
theorem inOrder_of_not_isContainer {value : JsonTree α} (scalar : isContainer value = false) :
    value.InOrder := by
  cases value with
  | null => exact .null
  | bool b => exact .bool b
  | number n => exact .number n
  | string text => exact .string text
  | array items => cases scalar
  | object members => cases scalar

theorem traverseItems_eq_mapM (f : α → Except ε β) (items : List (JsonTree α)) :
    traverseItems f items = items.mapM (traverse f) := by
  induction items with
  | nil => rfl
  | cons item items ih =>
      rw [traverseItems, List.mapM_cons, ih]

theorem traverseMembers_eq_traverse (f : α → Except ε β) (members : List (String × JsonTree α)) :
    traverseMembers f members = Dictionary.traverse (traverse f) members := by
  induction members with
  | nil => rfl
  | cons member members ih =>
      obtain ⟨name, value⟩ := member
      rw [traverseMembers, Dictionary.traverse, ih]

/-- A traversal keeps the names in their places. -/
theorem InOrder.of_traverse {value : JsonTree α} (inOrder : value.InOrder) {image : JsonTree β}
    (done : traverse f value = .ok image) : image.InOrder := by
  induction inOrder generalizing image with
  | null =>
      cases done
      exact .null
  | bool b =>
      cases done
      exact .bool b
  | number n =>
      cases done
      exact .number n
  | string text =>
      obtain ⟨found, -, rfl⟩ := map_eq_ok_iff.mp done
      exact .string found
  | array _ ih =>
      obtain ⟨images, read, rfl⟩ := map_eq_ok_iff.mp done
      rw [traverseItems_eq_mapM] at read
      refine .array fun image member => ?_
      obtain ⟨item, listed, found⟩ := exists_of_mem_mapM read member
      exact ih item listed found
  | object sorted _ ih =>
      obtain ⟨images, read, rfl⟩ := map_eq_ok_iff.mp done
      rw [traverseMembers_eq_traverse] at read
      refine .object (sorted.of_traverse read) fun image member => ?_
      obtain ⟨value, listed, found⟩ :=
        Dictionary.exists_of_mem_values read (List.mem_map_of_mem member)
      obtain ⟨entry, among, rfl⟩ := List.mem_map.mp listed
      exact ih entry among found

end JsonTree

/-- Values that are read from JSON texts have their names in order. -/
theorem Json.Readable.inOrder {room : Nat} {value : Json} (readable : Readable room value) :
    JsonTree.InOrder value := by
  induction readable with
  | null => exact .null
  | bool b => exact .bool b
  | @number _ n _ => exact .number n
  | string text => exact .string text
  | array _ _ ih => exact .array ih
  | object _ sorted _ ih => exact .object sorted ih

/-- The fields of a form, and the members of the objects of a JSON value, stand in order of their
names. -/
def Body.InOrder : Body α → Prop
  | .form fields => fields.Sorted
  | .json value => value.InOrder
  | _ => True

theorem Body.InOrder.of_traverse {body : Body α} (inOrder : body.InOrder) {image : Body β}
    (done : traverse f body = .ok image) : image.InOrder := by
  cases body with
  | empty =>
      cases done
      trivial
  | raw text =>
      obtain ⟨found, -, rfl⟩ := map_eq_ok_iff.mp done
      trivial
  | form fields =>
      obtain ⟨found, read, rfl⟩ := map_eq_ok_iff.mp done
      exact Dictionary.Sorted.of_traverse inOrder read
  | json value =>
      obtain ⟨found, read, rfl⟩ := map_eq_ok_iff.mp done
      exact JsonTree.InOrder.of_traverse inOrder read

end Runbook
