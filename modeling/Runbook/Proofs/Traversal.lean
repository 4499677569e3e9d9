import Runbook.Task.Basic

/-!
# Laws of traversals

A traversal applies a function that may fail to the texts of a value, from left to right. Its images
and its error are those of the list of these texts, and it depends on the function only through
them.
-/

namespace Runbook

variable {α β ε : Type}

/-- A sequence of two steps succeeds when both do. -/
theorem bind_eq_ok_iff {step : Except ε α} {next : α → Except ε β} {image : β} :
    (step >>= next) = .ok image ↔ ∃ middle, step = .ok middle ∧ next middle = .ok image := by
  cases step with
  | error cause =>
      constructor
      · exact fun done => nomatch done
      · rintro ⟨_, done, _⟩
        cases done
  | ok middle =>
      constructor
      · exact fun done => ⟨middle, rfl, done⟩
      · rintro ⟨_, same, done⟩
        cases same
        exact done

/-- A sequence of two steps fails with the error of the first step that fails. -/
theorem bind_eq_error_iff {step : Except ε α} {next : α → Except ε β} {cause : ε} :
    (step >>= next) = .error cause ↔
      step = .error cause ∨ ∃ middle, step = .ok middle ∧ next middle = .error cause := by
  cases step with
  | error found =>
      constructor
      · intro failed
        cases failed
        exact Or.inl rfl
      · rintro (failed | ⟨_, done, _⟩)
        · cases failed
          rfl
        · cases done
  | ok middle =>
      constructor
      · exact fun failed => Or.inr ⟨middle, rfl, failed⟩
      · rintro (failed | ⟨_, same, failed⟩)
        · cases failed
        · cases same
          exact failed

theorem map_eq_error_iff {step : Except ε α} {f : α → β} {cause : ε} :
    step.map f = .error cause ↔ step = .error cause := by
  cases step with
  | error found => simp only [Except.map, Except.error.injEq]
  | ok image => simp only [Except.map, reduceCtorEq]

/-- A list is traversed with the error of its first item that fails. -/
theorem mapM_eq_error_iff_findSome? {f : α → Except ε β} {failure : α → Option ε}
    (fails : ∀ item cause, f item = .error cause ↔ failure item = some cause) {items : List α}
    {cause : ε} : items.mapM f = .error cause ↔ items.findSome? failure = some cause := by
  induction items with
  | nil => exact iff_of_false (fun failed => nomatch failed) fun found => nomatch found
  | cons head tail ih =>
      rw [List.mapM_cons, List.findSome?_cons]
      cases first : f head with
      | error found =>
          rw [(fails head found).mp first]
          exact ⟨fun failed => congrArg some (Except.error.inj failed),
            fun same => congrArg Except.error (Option.some.inj same)⟩
      | ok image =>
          have passes : failure head = none := by
            refine Option.eq_none_iff_forall_ne_some.mpr fun found failed => ?_
            rw [(fails head found).mpr failed] at first
            cases first
          rw [passes, ← ih]
          cases tail.mapM f with
          | error found => exact Iff.rfl
          | ok images => exact iff_of_false (fun failed => nomatch failed) fun same => nomatch same

theorem mapM_congr {f g : α → Except ε β} {items : List α}
    (agree : ∀ item ∈ items, f item = g item) : items.mapM f = items.mapM g := by
  induction items with
  | nil => rfl
  | cons head tail ih =>
      rw [List.mapM_cons, List.mapM_cons, agree head List.mem_cons_self,
        ih fun item member => agree item (List.mem_cons_of_mem _ member)]

namespace Dictionary

/-- The values of a traversal are the images of the values, in order. -/
theorem values_traverse (f : α → Except ε β) (entries : Dictionary α) :
    (Dictionary.traverse f entries).map values = entries.values.mapM f := by
  induction entries with
  | nil => rfl
  | cons entry rest ih =>
      change _ = List.mapM f (entry.2 :: values rest)
      rw [traverse, List.mapM_cons, ← ih]
      cases f entry.2 with
      | error cause => rfl
      | ok image => cases Dictionary.traverse f rest <;> rfl

theorem traverse_congr {f g : α → Except ε β} {entries : Dictionary α}
    (agree : ∀ value ∈ entries.values, f value = g value) :
    Dictionary.traverse f entries = Dictionary.traverse g entries := by
  induction entries with
  | nil => rfl
  | cons entry rest ih =>
      rw [traverse, traverse, agree entry.2 List.mem_cons_self,
        ih fun value member => agree value (List.mem_cons_of_mem _ member)]

end Dictionary

namespace JsonTree

mutual

/-- The texts of a traversal are the images of the texts, in order. -/
theorem leaves_traverse (f : α → Except ε β) (value : JsonTree α) :
    (traverse f value).map leaves = value.leaves.mapM f := by
  cases value with
  | null => rfl
  | bool b => rfl
  | number n => rfl
  | string text =>
      rw [traverse, leaves, List.mapM_cons]
      cases f text <;> rfl
  | array items =>
      rw [traverse, leaves, ← leavesOfItems_traverseItems f items]
      cases traverseItems f items <;> rfl
  | object members =>
      rw [traverse, leaves, ← leavesOfMembers_traverseMembers f members]
      cases traverseMembers f members <;> rfl

theorem leavesOfItems_traverseItems (f : α → Except ε β) (items : List (JsonTree α)) :
    (traverseItems f items).map leavesOfItems = (leavesOfItems items).mapM f := by
  cases items with
  | nil => rfl
  | cons item items =>
      rw [traverseItems, leavesOfItems, List.mapM_append, ← leaves_traverse f item,
        ← leavesOfItems_traverseItems f items]
      cases traverse f item with
      | error cause => rfl
      | ok image => cases traverseItems f items <;> rfl

theorem leavesOfMembers_traverseMembers (f : α → Except ε β)
    (members : List (String × JsonTree α)) :
    (traverseMembers f members).map leavesOfMembers = (leavesOfMembers members).mapM f := by
  cases members with
  | nil => rfl
  | cons member members =>
      obtain ⟨name, value⟩ := member
      rw [traverseMembers, leavesOfMembers, List.mapM_append, ← leaves_traverse f value,
        ← leavesOfMembers_traverseMembers f members]
      cases traverse f value with
      | error cause => rfl
      | ok image => cases traverseMembers f members <;> rfl

end

mutual

/-- A traversal depends on the function only through the texts of the value. -/
theorem traverse_congr {f g : α → Except ε β} (value : JsonTree α)
    (agree : ∀ text ∈ value.leaves, f text = g text) : traverse f value = traverse g value := by
  cases value with
  | null => rfl
  | bool b => rfl
  | number n => rfl
  | string text =>
      rw [leaves] at agree
      rw [traverse, traverse, agree text (List.mem_singleton_self _)]
  | array items =>
      rw [leaves] at agree
      rw [traverse, traverse, traverseItems_congr items agree]
  | object members =>
      rw [leaves] at agree
      rw [traverse, traverse, traverseMembers_congr members agree]

theorem traverseItems_congr {f g : α → Except ε β} (items : List (JsonTree α))
    (agree : ∀ text ∈ leavesOfItems items, f text = g text) :
    traverseItems f items = traverseItems g items := by
  cases items with
  | nil => rfl
  | cons item items =>
      rw [leavesOfItems] at agree
      rw [traverseItems, traverseItems,
        traverse_congr item fun text member => agree text (List.mem_append_left _ member),
        traverseItems_congr items fun text member => agree text (List.mem_append_right _ member)]

theorem traverseMembers_congr {f g : α → Except ε β} (members : List (String × JsonTree α))
    (agree : ∀ text ∈ leavesOfMembers members, f text = g text) :
    traverseMembers f members = traverseMembers g members := by
  cases members with
  | nil => rfl
  | cons member members =>
      obtain ⟨name, value⟩ := member
      rw [leavesOfMembers] at agree
      rw [traverseMembers, traverseMembers,
        traverse_congr value fun text member => agree text (List.mem_append_left _ member),
        traverseMembers_congr members
          fun text member => agree text (List.mem_append_right _ member)]

end

end JsonTree

namespace Body

/-- The texts of a traversal are the images of the texts, in order. -/
theorem leaves_traverse (f : α → Except ε β) (body : Body α) :
    (traverse f body).map leaves = body.leaves.mapM f := by
  cases body with
  | empty => rfl
  | raw text =>
      rw [traverse, leaves, List.mapM_cons]
      cases f text <;> rfl
  | form fields =>
      rw [traverse, leaves, ← Dictionary.values_traverse]
      cases Dictionary.traverse f fields <;> rfl
  | json value =>
      rw [traverse, leaves, ← JsonTree.leaves_traverse]
      cases JsonTree.traverse f value <;> rfl

theorem traverse_congr {f g : α → Except ε β} {body : Body α}
    (agree : ∀ text ∈ body.leaves, f text = g text) : traverse f body = traverse g body := by
  cases body with
  | empty => rfl
  | raw text => rw [traverse, traverse, agree text (List.mem_singleton_self _)]
  | form fields => rw [traverse, traverse, Dictionary.traverse_congr agree]
  | json value => rw [traverse, traverse, JsonTree.traverse_congr value agree]

end Body

end Runbook
