import Mathlib.Data.List.Forall2
import Runbook.Proofs.Traversal

/-!
# Images of traversals

A traversal succeeds exactly if the function does for each text (`Body.exists_traverse_iff`). What
holds between the texts and their images then holds between the value and its image
(`Body.map_eq_map_of_traverse`), and every text of the image is the image of a text
(`Body.exists_of_mem_leaves`).
-/

namespace Runbook

variable {α β γ ε ε' : Type} {f : α → Except ε β} {g : β → γ} {h : α → γ}

theorem map_eq_ok_iff {step : Except ε α} {h : α → β} {image : β} :
    step.map h = .ok image ↔ ∃ found, step = .ok found ∧ h found = image := by
  cases step with
  | error cause => simp only [Except.map, reduceCtorEq, false_and, exists_false]
  | ok found => simp only [Except.map, Except.ok.injEq, exists_eq_left']

theorem exists_map_iff {step : Except ε α} {h : α → β} :
    (∃ image, step.map h = .ok image) ↔ ∃ found, step = .ok found := by
  simp only [map_eq_ok_iff]
  exact exists_comm.trans (exists_congr fun found =>
    ⟨fun ⟨_, done, _⟩ => done, fun done => ⟨h found, done, rfl⟩⟩)

theorem mapError_eq_ok_iff {step : Except ε α} {h : ε → ε'} {image : α} :
    step.mapError h = .ok image ↔ step = .ok image := by
  cases step with
  | error cause => simp only [Except.mapError, reduceCtorEq]
  | ok found => simp only [Except.mapError, Except.ok.injEq]

theorem map_mapError_eq_ok_iff {step : Except ε α} {h : ε → ε'} {k : α → β} {image : β} :
    (step.mapError h).map k = .ok image ↔ step.map k = .ok image := by
  simp only [map_eq_ok_iff, mapError_eq_ok_iff]

/-- A traversal of a list gives the images of its items, in order. -/
theorem mapM_eq_ok_iff {items : List α} {images : List β} :
    items.mapM f = .ok images ↔
      List.Forall₂ (fun item image => f item = .ok image) items images := by
  induction items generalizing images with
  | nil =>
      rw [List.mapM_nil, List.forall₂_nil_left_iff]
      exact ⟨fun done => (Except.ok.inj done).symm, fun empty => congrArg Except.ok empty.symm⟩
  | cons item items ih =>
      rw [List.mapM_cons, bind_eq_ok_iff, List.forall₂_cons_left_iff]
      constructor
      · rintro ⟨image, first, rest⟩
        obtain ⟨later, done, built⟩ := bind_eq_ok_iff.mp rest
        exact ⟨image, later, first, ih.mp done, (Except.ok.inj built).symm⟩
      · rintro ⟨image, later, first, rest, rfl⟩
        exact ⟨image, first, bind_eq_ok_iff.mpr ⟨later, ih.mpr rest, rfl⟩⟩

/-- A list is related to some list exactly if each of its items is related to something. -/
theorem exists_forall₂_iff {related : α → β → Prop} {items : List α} :
    (∃ images, List.Forall₂ related items images) ↔
      ∀ item ∈ items, ∃ image, related item image := by
  induction items with
  | nil => exact iff_of_true ⟨[], .nil⟩ fun item member => nomatch member
  | cons item items ih =>
      rw [List.forall_mem_cons, ← ih]
      constructor
      · rintro ⟨_, _ | ⟨first, rest⟩⟩
        exact ⟨⟨_, first⟩, ⟨_, rest⟩⟩
      · rintro ⟨⟨image, first⟩, ⟨images, rest⟩⟩
        exact ⟨image :: images, .cons first rest⟩

/-- A list can be traversed exactly if each item has an image. -/
theorem exists_mapM_iff {items : List α} :
    (∃ images, items.mapM f = .ok images) ↔ ∀ item ∈ items, ∃ image, f item = .ok image := by
  simp only [mapM_eq_ok_iff, exists_forall₂_iff]

/-- Each image of a traversal is that of an item. -/
theorem exists_of_mem_mapM {items : List α} {images : List β} {image : β}
    (done : items.mapM f = .ok images) (member : image ∈ images) :
    ∃ item ∈ items, f item = .ok image := by
  obtain ⟨index, inside, rfl⟩ := List.getElem_of_mem member
  have related := mapM_eq_ok_iff.mp done
  have listed : index < items.length := related.length_eq ▸ inside
  exact ⟨items[index], List.getElem_mem listed, related.get listed inside⟩

/-- Each item of a traversal has an image. -/
theorem exists_image_of_mem_mapM {items : List α} {images : List β} {item : α}
    (done : items.mapM f = .ok images) (member : item ∈ items) :
    ∃ image ∈ images, f item = .ok image := by
  obtain ⟨index, inside, rfl⟩ := List.getElem_of_mem member
  have related := mapM_eq_ok_iff.mp done
  have listed : index < images.length := related.length_eq ▸ inside
  exact ⟨images[index], List.getElem_mem listed, related.get inside listed⟩

/-- Where each image agrees with its item, the images agree with the items. -/
theorem map_eq_map_of_mapM (agree : ∀ {item image}, f item = .ok image → g image = h item)
    {items : List α} {images : List β} (done : items.mapM f = .ok images) :
    images.map g = items.map h := by
  have related := mapM_eq_ok_iff.mp done
  clear done
  induction related with
  | nil => rfl
  | cons first _ ih => exact congrArg₂ List.cons (agree first) ih

/-- What takes the images back to the items takes the list of images back to the list. -/
theorem map_of_mapM {g : β → α} (back : ∀ {item image}, f item = .ok image → g image = item)
    {items : List α} {images : List β} (done : items.mapM f = .ok images) :
    images.map g = items :=
  (map_eq_map_of_mapM back done).trans (List.map_id items)

/-- Where each image is that of its item under a function, so are all of them. -/
theorem eq_map_of_mapM {h : α → β} (image : ∀ {item found}, f item = .ok found → found = h item)
    {items : List α} {images : List β} (done : items.mapM f = .ok images) :
    images = items.map h :=
  (List.map_id images).symm.trans (map_eq_map_of_mapM image done)

namespace Dictionary

/-- The dictionary with a function applied to each value. -/
def mapValues (g : β → α) (entries : Dictionary β) : Dictionary α :=
  List.map (fun entry => (entry.1, g entry.2)) entries

/-- The errors of a traversal may be changed before or after it. -/
theorem traverse_mapError (f : α → Except ε β) (h : ε → ε') (entries : Dictionary α) :
    traverse (fun value => (f value).mapError h) entries = (traverse f entries).mapError h := by
  induction entries with
  | nil => rfl
  | cons entry rest ih =>
      rw [traverse, traverse, ih]
      cases f entry.2 with
      | error cause => rfl
      | ok image => cases traverse f rest <;> rfl

theorem exists_traverse_iff {entries : Dictionary α} :
    (∃ images, traverse f entries = .ok images) ↔
      ∀ value ∈ entries.values, ∃ image, f value = .ok image := by
  rw [← exists_mapM_iff, ← values_traverse, exists_map_iff]

@[simp]
theorem mapValues_id (entries : Dictionary α) : mapValues id entries = entries :=
  List.map_id entries

@[simp]
theorem keys_mapValues (g : β → γ) (entries : Dictionary β) :
    (mapValues g entries).keys = entries.keys := by
  rw [keys, mapValues, List.map_map]
  rfl

/-- Where each image agrees with its value, the images agree with the values. -/
theorem mapValues_eq_of_traverse (agree : ∀ {text image}, f text = .ok image → g image = h text)
    {entries : Dictionary α} {images : Dictionary β} (done : traverse f entries = .ok images) :
    mapValues g images = mapValues h entries := by
  induction entries generalizing images with
  | nil =>
      cases done
      rfl
  | cons entry rest ih =>
      obtain ⟨key, value⟩ := entry
      rw [traverse] at done
      obtain ⟨image, first, done⟩ := bind_eq_ok_iff.mp done
      obtain ⟨later, others, built⟩ := bind_eq_ok_iff.mp done
      cases built
      exact congrArg₂ List.cons (congrArg (Prod.mk key) (agree first)) (ih others)

theorem mapValues_of_traverse {g : β → α}
    (back : ∀ {text image}, f text = .ok image → g image = text) {entries : Dictionary α}
    {images : Dictionary β} (done : traverse f entries = .ok images) :
    mapValues g images = entries :=
  (mapValues_eq_of_traverse back done).trans (mapValues_id entries)

theorem eq_mapValues_of_traverse {h : α → β}
    (image : ∀ {text found}, f text = .ok found → found = h text) {entries : Dictionary α}
    {images : Dictionary β} (done : traverse f entries = .ok images) :
    images = mapValues h entries :=
  (mapValues_id images).symm.trans (mapValues_eq_of_traverse image done)

theorem exists_of_mem_values {entries : Dictionary α} {images : Dictionary β} {image : β}
    (done : traverse f entries = .ok images) (member : image ∈ images.values) :
    ∃ value ∈ entries.values, f value = .ok image := by
  have listed : entries.values.mapM f = .ok images.values := by
    rw [← values_traverse, done]
    rfl
  exact exists_of_mem_mapM listed member

end Dictionary

namespace JsonTree

mutual

/-- The tree with a function applied to each text. -/
def map (g : β → α) : JsonTree β → JsonTree α
  | .null => .null
  | .bool b => .bool b
  | .number n => .number n
  | .string text => .string (g text)
  | .array items => .array (mapItems g items)
  | .object members => .object (mapMembers g members)

/-- A list of trees with a function applied to each text. -/
def mapItems (g : β → α) : List (JsonTree β) → List (JsonTree α)
  | [] => []
  | item :: items => map g item :: mapItems g items

/-- The values of an object with a function applied to each text. -/
def mapMembers (g : β → α) : List (String × JsonTree β) → List (String × JsonTree α)
  | [] => []
  | (name, value) :: members => (name, map g value) :: mapMembers g members

end

mutual

theorem map_id (value : JsonTree α) : map id value = value := by
  cases value with
  | null => rfl
  | bool b => rfl
  | number n => rfl
  | string text => rfl
  | array items => exact congrArg JsonTree.array (mapItems_id items)
  | object members => exact congrArg JsonTree.object (mapMembers_id members)

theorem mapItems_id (items : List (JsonTree α)) : mapItems id items = items := by
  cases items with
  | nil => rfl
  | cons item items => exact congrArg₂ List.cons (map_id item) (mapItems_id items)

theorem mapMembers_id (members : List (String × JsonTree α)) : mapMembers id members = members := by
  cases members with
  | nil => rfl
  | cons member members =>
      obtain ⟨name, value⟩ := member
      exact congrArg₂ List.cons (congrArg (Prod.mk name) (map_id value)) (mapMembers_id members)

end

mutual

/-- Where each image agrees with its text, the image of a tree agrees with the tree. -/
theorem map_eq_map_of_traverse (agree : ∀ {text image}, f text = .ok image → g image = h text)
    (value : JsonTree α) {image : JsonTree β} (done : traverse f value = .ok image) :
    map g image = map h value := by
  cases value with
  | null =>
      cases done
      rfl
  | bool b =>
      cases done
      rfl
  | number n =>
      cases done
      rfl
  | string text =>
      obtain ⟨found, read, rfl⟩ := map_eq_ok_iff.mp done
      exact congrArg JsonTree.string (agree read)
  | array items =>
      obtain ⟨found, read, rfl⟩ := map_eq_ok_iff.mp done
      exact congrArg JsonTree.array (mapItems_eq_of_traverseItems agree items read)
  | object members =>
      obtain ⟨found, read, rfl⟩ := map_eq_ok_iff.mp done
      exact congrArg JsonTree.object (mapMembers_eq_of_traverseMembers agree members read)

theorem mapItems_eq_of_traverseItems
    (agree : ∀ {text image}, f text = .ok image → g image = h text) (items : List (JsonTree α))
    {images : List (JsonTree β)} (done : traverseItems f items = .ok images) :
    mapItems g images = mapItems h items := by
  cases items with
  | nil =>
      cases done
      rfl
  | cons item items =>
      rw [traverseItems] at done
      obtain ⟨image, first, done⟩ := bind_eq_ok_iff.mp done
      obtain ⟨later, rest, built⟩ := bind_eq_ok_iff.mp done
      cases built
      exact congrArg₂ List.cons (map_eq_map_of_traverse agree item first)
        (mapItems_eq_of_traverseItems agree items rest)

theorem mapMembers_eq_of_traverseMembers
    (agree : ∀ {text image}, f text = .ok image → g image = h text)
    (members : List (String × JsonTree α)) {images : List (String × JsonTree β)}
    (done : traverseMembers f members = .ok images) :
    mapMembers g images = mapMembers h members := by
  cases members with
  | nil =>
      cases done
      rfl
  | cons member members =>
      obtain ⟨name, value⟩ := member
      rw [traverseMembers] at done
      obtain ⟨image, first, done⟩ := bind_eq_ok_iff.mp done
      obtain ⟨later, rest, built⟩ := bind_eq_ok_iff.mp done
      cases built
      exact congrArg₂ List.cons (congrArg (Prod.mk name) (map_eq_map_of_traverse agree value first))
        (mapMembers_eq_of_traverseMembers agree members rest)

end

theorem eq_map_of_traverse {h : α → β} (image : ∀ {text found}, f text = .ok found → found = h text)
    {value : JsonTree α} {after : JsonTree β} (done : traverse f value = .ok after) :
    after = map h value :=
  (map_id after).symm.trans (map_eq_map_of_traverse image value done)

theorem exists_traverse_iff {value : JsonTree α} :
    (∃ image, traverse f value = .ok image) ↔
      ∀ text ∈ value.leaves, ∃ image, f text = .ok image := by
  rw [← exists_mapM_iff, ← leaves_traverse, exists_map_iff]

theorem traverse_eq_error_iff {value : JsonTree α} {cause : ε} :
    traverse f value = .error cause ↔ value.leaves.mapM f = .error cause := by
  rw [← leaves_traverse, map_eq_error_iff]

theorem mapM_leaves_of_traverse {value : JsonTree α} {image : JsonTree β}
    (done : traverse f value = .ok image) : value.leaves.mapM f = .ok image.leaves := by
  rw [← leaves_traverse, done]
  rfl

mutual

/-- An image depends on the function only through the texts of the tree. -/
theorem map_congr {g h : β → α} (value : JsonTree β)
    (agree : ∀ text ∈ value.leaves, g text = h text) : map g value = map h value := by
  cases value with
  | null => rfl
  | bool b => rfl
  | number n => rfl
  | string text => exact congrArg JsonTree.string (agree text (List.mem_singleton_self _))
  | array items => exact congrArg JsonTree.array (mapItems_congr items agree)
  | object members => exact congrArg JsonTree.object (mapMembers_congr members agree)

theorem mapItems_congr {g h : β → α} (items : List (JsonTree β))
    (agree : ∀ text ∈ leavesOfItems items, g text = h text) :
    mapItems g items = mapItems h items := by
  cases items with
  | nil => rfl
  | cons item items =>
      rw [leavesOfItems] at agree
      rw [mapItems, mapItems,
        map_congr item fun text member => agree text (List.mem_append_left _ member),
        mapItems_congr items fun text member => agree text (List.mem_append_right _ member)]

theorem mapMembers_congr {g h : β → α} (members : List (String × JsonTree β))
    (agree : ∀ text ∈ leavesOfMembers members, g text = h text) :
    mapMembers g members = mapMembers h members := by
  cases members with
  | nil => rfl
  | cons member members =>
      obtain ⟨name, value⟩ := member
      rw [leavesOfMembers] at agree
      rw [mapMembers, mapMembers,
        map_congr value fun text member => agree text (List.mem_append_left _ member),
        mapMembers_congr members fun text member => agree text (List.mem_append_right _ member)]

end

end JsonTree

namespace Body

/-- The body with a function applied to each text. -/
def map (g : β → α) : Body β → Body α
  | .empty => .empty
  | .raw text => .raw (g text)
  | .form fields => .form (fields.mapValues g)
  | .json value => .json (value.map g)

theorem exists_traverse_iff {body : Body α} :
    (∃ image, traverse f body = .ok image) ↔ ∀ text ∈ body.leaves, ∃ image, f text = .ok image := by
  rw [← exists_mapM_iff, ← leaves_traverse, exists_map_iff]

theorem map_id (body : Body α) : map id body = body := by
  cases body with
  | empty => rfl
  | raw text => rfl
  | form fields => exact congrArg Body.form (Dictionary.mapValues_id fields)
  | json value => exact congrArg Body.json (JsonTree.map_id value)

/-- Where each image agrees with its text, the image of a body agrees with the body. -/
theorem map_eq_map_of_traverse (agree : ∀ {text image}, f text = .ok image → g image = h text)
    {body : Body α} {image : Body β} (done : traverse f body = .ok image) :
    map g image = map h body := by
  cases body with
  | empty =>
      cases done
      rfl
  | raw text =>
      obtain ⟨found, read, rfl⟩ := map_eq_ok_iff.mp done
      exact congrArg Body.raw (agree read)
  | form fields =>
      obtain ⟨found, read, rfl⟩ := map_eq_ok_iff.mp done
      exact congrArg Body.form (Dictionary.mapValues_eq_of_traverse agree read)
  | json value =>
      obtain ⟨found, read, rfl⟩ := map_eq_ok_iff.mp done
      exact congrArg Body.json (JsonTree.map_eq_map_of_traverse agree value read)

theorem map_of_traverse {g : β → α} (back : ∀ {text image}, f text = .ok image → g image = text)
    {body : Body α} {image : Body β} (done : traverse f body = .ok image) : map g image = body :=
  (map_eq_map_of_traverse back done).trans (map_id body)

theorem eq_map_of_traverse {h : α → β} (image : ∀ {text found}, f text = .ok found → found = h text)
    {body : Body α} {after : Body β} (done : traverse f body = .ok after) : after = map h body :=
  (map_id after).symm.trans (map_eq_map_of_traverse image done)

theorem exists_of_mem_leaves {body : Body α} {images : Body β} {image : β}
    (done : traverse f body = .ok images) (member : image ∈ images.leaves) :
    ∃ text ∈ body.leaves, f text = .ok image := by
  have listed : body.leaves.mapM f = .ok images.leaves := by
    rw [← leaves_traverse, done]
    rfl
  exact exists_of_mem_mapM listed member

end Body

end Runbook
