import Mathlib.Data.List.Nodup
import Runbook.Proofs.Dictionary
import Runbook.Proofs.Image
import Runbook.Schema.Record

/-!
# Records field by field

A document gives values to the fields of a record by their names or by their order
(`Record.given?`). A record that has been read shows in each field what the document gives to it,
and otherwise what the record held at first (`Record.Shows.of_read`). An object can be read if all
its members can (`Record.exists_setMembers`).
-/

namespace Runbook.Schema

variable {α β : Type}

theorem Field.answersTo_iff {field : Field α} {name : String} :
    field.answersTo name = true ↔ field.name = name ∨ name ∈ field.aliases := by
  rw [answersTo, Bool.or_eq_true, beq_iff_eq, List.contains_iff_mem]

theorem Field.answersTo_of_find? {fields : List (Field α)} {field : Field α} {name : String}
    (found : fields.find? (·.answersTo name) = some field) :
    field.name = name ∨ name ∈ field.aliases := by
  have answers := List.find?_some found
  exact answersTo_iff.mp answers

namespace Record

/-- The names of the fields, in order. -/
def names (record : Record α) : List String := record.fields.map (·.name)

/-- What a value gives to the field of a name. The items of a list stand under the names of the
fields, in order. -/
def given? (record : Record α) (name : String) : Json → Option Json
  | .object members => Dictionary.get? members name
  | .array items => Dictionary.get? (record.names.zip items) name
  | _ => none

/-- A part of a record is the field of a name: it changes only when this field is set, and then it
is what the value means. -/
structure Shows (record : Record α) (name : String) (means : Json → β → Prop)
    (shown : α → β) : Prop where
  listed : name ∈ record.names
  distinct : record.names.Nodup
  unaliased : ∀ field ∈ record.fields, name ∉ field.aliases ∧
    (field.name = name → field.aliases = [])
  own : ∀ field ∈ record.fields, field.name = name → ∀ built value next,
    field.set built value = .ok next → means value (shown next)
  kept : ∀ field ∈ record.fields, field.name ≠ name → ∀ built value next,
    field.set built value = .ok next → shown next = shown built

/-- A part of a record holds what a shape reads from the field of a name. -/
abbrev Holds (record : Record α) (name : String) (shape : Reader β) (shown : α → β) : Prop :=
  record.Shows name (fun value found => shape value = .ok found) shown

section Shows

variable {record : Record α} {name : String} {means : Json → β → Prop} {shown : α → β}

/-- A field that puts what it reads into a part of the record, where no other field changes it. -/
theorem Holds.of_field {required : Bool} {shape : Reader β} {put : α → β → α}
    (member : (⟨name, [], required, fun built value => (shape value).map (put built)⟩ : Field α) ∈
      record.fields)
    (distinct : record.names.Nodup) (unaliased : ∀ field ∈ record.fields, name ∉ field.aliases)
    (own : ∀ built found, shown (put built found) = found)
    (kept : ∀ field ∈ record.fields, field.name ≠ name → ∀ built value next,
      field.set built value = .ok next → shown next = shown built) :
    record.Holds name shape shown where
  listed := List.mem_map.mpr ⟨_, member, rfl⟩
  distinct := distinct
  unaliased := by
    refine fun field listed => ⟨unaliased field listed, fun named => ?_⟩
    rw [List.inj_on_of_nodup_map distinct listed member named]
  own := by
    intro field listed named built value next set
    rw [List.inj_on_of_nodup_map distinct listed member named] at set
    obtain ⟨found, read, rfl⟩ := map_eq_ok_iff.mp set
    rw [own]
    exact read
  kept := kept

theorem Shows.ne_of_unknown (shows : record.Shows name means shown) {other : String}
    (unknown : record.fields.find? (·.answersTo other) = none) : other ≠ name := by
  rintro rfl
  obtain ⟨field, member, named⟩ := List.mem_map.mp shows.listed
  exact List.find?_eq_none.mp unknown field member (Field.answersTo_iff.mpr (Or.inl named))

theorem Shows.eq_iff_of_answersTo (shows : record.Shows name means shown) {other : String}
    {field : Field α} (found : record.fields.find? (·.answersTo other) = some field) :
    other = name ↔ field.name = name := by
  have member := List.mem_of_find?_eq_some found
  have answers := Field.answersTo_of_find? found
  obtain ⟨absent, single⟩ := shows.unaliased field member
  constructor
  · rintro rfl
    exact answers.resolve_right absent
  · intro named
    rw [single named] at answers
    exact (answers.resolve_right List.not_mem_nil).symm.trans named

/-- Of the members of an object, only the one of the field's name changes what is shown. -/
theorem Shows.of_setMembers (shows : record.Shows name means shown)
    {members : List (String × Json)} {seen last : List String} {built done : α}
    (read : record.setMembers seen built members = .ok (last, done)) :
    match Dictionary.get? members name with
    | none => shown done = shown built
    | some value => name ∉ seen ∧ means value (shown done) := by
  induction members generalizing seen built with
  | nil =>
      cases read
      rfl
  | cons member members ih =>
      obtain ⟨other, value⟩ := member
      rw [Dictionary.get?_cons]
      rw [setMembers] at read
      split at read
      · rename_i unknown
        rw [if_neg (shows.ne_of_unknown unknown)]
        exact ih read
      · rename_i field found
        split_ifs at read with repeated
        split at read
        · cases read
        · rename_i next set
          have member := List.mem_of_find?_eq_some found
          have later := ih read
          rw [List.contains_iff_mem] at repeated
          by_cases named : field.name = name
          · rw [if_pos ((shows.eq_iff_of_answersTo found).mpr named)]
            -- A second member of this name would have been refused, since the field is seen now.
            cases again : Dictionary.get? members name with
            | none =>
                rw [again] at later
                refine ⟨named ▸ repeated, ?_⟩
                rw [later]
                exact shows.own field member named _ _ _ set
            | some value =>
                rw [again] at later
                exact (later.1 (named ▸ List.mem_cons_self)).elim
          · rw [if_neg (mt (shows.eq_iff_of_answersTo found).mp named)]
            have same := shows.kept field member named _ _ _ set
            cases again : Dictionary.get? members name with
            | none =>
                rw [again] at later
                exact later.trans same
            | some value =>
                rw [again] at later
                exact ⟨fun before => later.1 (List.mem_cons_of_mem _ before), later.2⟩

/-- Of the items of a list, only the one in the place of the field changes what is shown. -/
theorem Shows.of_setItems (shows : record.Shows name means shown) {fields : List (Field α)}
    (inside : fields ⊆ record.fields) (distinct : (fields.map (·.name)).Nodup) {index : Nat}
    {items extra : List Json} {built done : α}
    (read : record.setItems index built fields items = .ok (done, extra)) :
    match Dictionary.get? ((fields.map (·.name)).zip items) name with
    | none => shown done = shown built
    | some value => means value (shown done) := by
  induction fields generalizing index built items with
  | nil =>
      cases read
      rfl
  | cons field fields ih =>
      obtain ⟨member, rest⟩ := List.cons_subset.mp inside
      rw [List.map_cons, List.nodup_cons] at distinct
      obtain ⟨absent, distinct⟩ := distinct
      cases items with
      | nil =>
          rw [setItems] at read
          split_ifs at read
          have later := ih rest distinct read
          rw [List.zip_nil_right] at later ⊢
          exact later
      | cons item items =>
          rw [setItems] at read
          split at read
          · cases read
          · rename_i next set
            have later := ih rest distinct read
            rw [List.map_cons, List.zip_cons_cons, Dictionary.get?_cons]
            by_cases named : field.name = name
            · have nothing : Dictionary.get? ((fields.map (·.name)).zip items) name = none := by
                by_contra found
                obtain ⟨value, given⟩ := Option.ne_none_iff_exists'.mp found
                have listed := (List.of_mem_zip (Dictionary.mem_of_get?_eq_some given)).1
                exact absent (named ▸ listed)
              rw [nothing] at later
              rw [if_pos named, later]
              exact shows.own field member named _ _ _ set
            · rw [if_neg named]
              have same := shows.kept field member named _ _ _ set
              cases again : Dictionary.get? ((fields.map (·.name)).zip items) name with
              | none =>
                  rw [again] at later
                  exact later.trans same
              | some value =>
                  rw [again] at later
                  exact later

/-- What a record shows after it has been read. -/
theorem Shows.of_read (shows : record.Shows name means shown) {value : Json} {done : α}
    (read : record.read value = .ok done) :
    match record.given? name value with
    | none => shown done = shown record.initial
    | some part => means part (shown done) := by
  cases value with
  | object members =>
      obtain ⟨⟨last, built⟩, set, finished⟩ := bind_eq_ok_iff.mp read
      have shown := shows.of_setMembers set
      dsimp only at finished
      split at finished
      · cases finished
        rw [given?]
        cases given : Dictionary.get? members name with
        | none =>
            rw [given] at shown
            exact shown
        | some part =>
            rw [given] at shown
            exact shown.2
      · cases finished
  | array items =>
      obtain ⟨⟨built, extra⟩, set, finished⟩ := bind_eq_ok_iff.mp read
      have shown := shows.of_setItems (List.Subset.refl _) shows.distinct set
      cases extra with
      | nil =>
          cases finished
          exact shown
      | cons => cases finished
  | _ => cases read

end Shows

/-- An object can be read member by member if each field can be set from the member of its name. -/
theorem exists_setMembers {record : Record α} (unaliased : ∀ field ∈ record.fields,
      field.aliases = []) {members : Dictionary Json} (sorted : members.Sorted)
    (sets : ∀ field ∈ record.fields, ∀ value, (field.name, value) ∈ members →
      ∀ built, ∃ next, field.set built value = .ok next)
    {seen : List String} (fresh : ∀ member ∈ members, member.1 ∉ seen) (built : α) :
    ∃ last done, record.setMembers seen built members = .ok (last, done) := by
  induction members generalizing seen built with
  | nil => exact ⟨seen, built, rfl⟩
  | cons member members ih =>
      obtain ⟨name, value⟩ := member
      obtain ⟨first, ordered⟩ := List.pairwise_cons.mp sorted
      obtain ⟨unseen, others⟩ := List.forall_mem_cons.mp fresh
      have rest : ∀ field ∈ record.fields, ∀ value, (field.name, value) ∈ members →
          ∀ built, ∃ next, field.set built value = .ok next := by
        intro field member value given
        exact sets field member value (List.mem_cons_of_mem _ given)
      rw [setMembers]
      cases found : record.fields.find? (·.answersTo name) with
      | none => exact ih ordered rest others built
      | some field =>
          have member := List.mem_of_find?_eq_some found
          have named : field.name = name := by
            have answers := Field.answersTo_of_find? found
            rw [unaliased field member] at answers
            exact answers.resolve_right List.not_mem_nil
          subst named
          obtain ⟨next, set⟩ := sets field member value List.mem_cons_self built
          have later : ∀ member ∈ members, member.1 ∉ field.name :: seen := by
            intro member listed
            rw [List.mem_cons, not_or]
            exact ⟨(first member listed).ne', others member listed⟩
          simp only [List.contains_iff_mem, unseen, ↓reduceIte, set]
          exact ih ordered rest later next

end Record

end Runbook.Schema
