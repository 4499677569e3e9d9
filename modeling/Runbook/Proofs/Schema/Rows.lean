import Runbook.Proofs.Image
import Runbook.Schema.Record

/-!
# Records from rows

An object is written in rows, some of whose values may be left out (`Json.ofRows`). A record is read
from it row by row: each row that is there sets its field, and the others leave the record as it is
(`Record.read_ofRows`). Encoded values are read back (`word64_ofNat`, `list_map`,
`dictionary_ofEntries`).
-/

namespace Runbook

/-- The members that rows give to an object: those whose values are there. -/
def Json.members (rows : List (String × Option Json)) : List (String × Json) :=
  rows.filterMap fun row => row.2.map (Prod.mk row.1)

/-- The object of rows. -/
def Json.ofRows (rows : List (String × Option Json)) : Json := .object (members rows)

/-- A natural number. -/
def Json.ofNat (n : Nat) : Json := .number (.int n)

/-- A list of texts. -/
def Json.ofTexts (texts : List String) : Json := .array (texts.map .string)

/-- The object of a dictionary of texts. -/
def Json.ofEntries (entries : Dictionary String) : Json := .object (entries.mapValues .string)

theorem Json.ofNat_inj {m n : Nat} : Json.ofNat m = Json.ofNat n ↔ m = n := by
  simp only [Json.ofNat, JsonTree.number.injEq, Number.int.injEq, Int.natCast_inj]

namespace Schema

variable {α β γ : Type}

/-! ## Encoded values -/

theorem natural_ofNat {greatest n : Nat} (inside : n ≤ greatest) (expected : String) :
    natural greatest expected (Json.ofNat n) = .ok n := by
  have bounds : 0 ≤ (n : Int) ∧ (n : Int) ≤ greatest :=
    ⟨Int.natCast_nonneg n, Int.ofNat_le.mpr inside⟩
  simp only [Json.ofNat, natural, bounds, and_self, ↓reduceIte, Int.toNat_natCast]

theorem word16_ofNat (word : UInt16) : word16 (Json.ofNat word.toNat) = .ok word := by
  have inside : word.toNat ≤ 2 ^ 16 - 1 := Nat.le_pred_of_lt word.toNat_lt
  rw [word16, natural_ofNat inside]
  exact congrArg Except.ok word.ofNat_toNat

theorem word32_ofNat (word : UInt32) : word32 (Json.ofNat word.toNat) = .ok word := by
  have inside : word.toNat ≤ 2 ^ 32 - 1 := Nat.le_pred_of_lt word.toNat_lt
  rw [word32, natural_ofNat inside]
  exact congrArg Except.ok word.ofNat_toNat

theorem word64_ofNat (word : UInt64) : word64 (Json.ofNat word.toNat) = .ok word := by
  have inside : word.toNat ≤ 2 ^ 64 - 1 := Nat.le_pred_of_lt word.toNat_lt
  rw [word64, natural_ofNat inside]
  exact congrArg Except.ok word.ofNat_toNat

theorem textAs_eq_ok_iff {expected text : String} {value : Json} :
    textAs expected value = .ok text ↔ value = .string text := by
  cases value <;> simp [textAs]

/-- Words are read from the integers that fit into them. -/
theorem natural_map_eq_ok_iff {expected : String} {value : Json} {word : UInt64} :
    (natural (2 ^ 64 - 1) expected value).map UInt64.ofNat = .ok word ↔
      value = .ofNat word.toNat := by
  constructor
  · intro read
    obtain ⟨n, found, rfl⟩ := map_eq_ok_iff.mp read
    unfold natural at found
    split at found
    · rename_i integer
      split_ifs at found with range
      cases found
      have small : integer.toNat < 2 ^ 64 := by omega
      rw [UInt64.toNat_ofNat_of_lt' small, Json.ofNat, Int.toNat_of_nonneg range.1]
    · cases found
  · rintro rfl
    have inside : word.toNat ≤ 2 ^ 64 - 1 := Nat.le_pred_of_lt word.toNat_lt
    rw [natural_ofNat inside]
    exact congrArg Except.ok word.ofNat_toNat

/-- A list is read back when its items are. -/
theorem list_map {item : Reader α} {encode : β → Json} {decode : β → α} {values : List β}
    (reads : ∀ value ∈ values, item (encode value) = .ok (decode value)) :
    list item (.array (values.map encode)) = .ok (values.map decode) := by
  refine mapM_eq_ok_iff.mpr ?_
  rw [List.forall₂_map_left_iff, List.forall₂_map_right_iff, List.forall₂_same]
  exact reads

theorem list_ofTexts (texts : List String) : list text (Json.ofTexts texts) = .ok texts := by
  have reads : ∀ value ∈ texts, text (.string value) = .ok (id value) := fun _ _ => rfl
  rw [Json.ofTexts, list_map reads, List.map_id]

theorem dictionary_ofEntries (entries : Dictionary String) :
    dictionary text (Json.ofEntries entries) = .ok entries := by
  change Dictionary.traverse text (entries.mapValues .string) = .ok entries
  induction entries with
  | nil => rfl
  | cons entry rest ih =>
      refine bind_eq_ok_iff.mpr ⟨entry.2, rfl, bind_eq_ok_iff.mpr ⟨rest, ih, rfl⟩⟩

/-- A value other than null is read as it would be if it could not be null. -/
theorem optional_of_ne_null (shape : Reader α) {value : Json} (given : value ≠ .null) :
    optional shape value = (shape value).map some := by
  cases value with
  | null => exact (given rfl).elim
  | bool | number | string | array | object => rfl

/-! ## Rows -/

namespace Record

variable {record : Record α} {built next done : α} {name : String} {seen : List String}
  {rows : List (String × Option Json)}

/-- The names of the required fields. -/
def required (record : Record α) : List String :=
  record.fields.filterMap fun field => if field.required then some field.name else none

/-- Reading rows in order turns one record into another. -/
inductive Fills (record : Record α) : α → List (String × Option Json) → α → Prop
  | nil {built : α} : Fills record built [] built
  | absent {built done : α} {name : String} {rows : List (String × Option Json)}
      (rest : Fills record built rows done) : Fills record built ((name, none) :: rows) done
  | present {built next done : α} {name : String} {field : Field α} {value : Json}
      {rows : List (String × Option Json)}
      (found : record.fields.find? (·.answersTo name) = some field) (named : field.name = name)
      (set : field.set built value = .ok next) (rest : Fills record next rows done) :
      Fills record built ((name, some value) :: rows) done

/-- A row for a field, given by a value that may be missing. A missing value has to stand for what
the record already holds. -/
theorem Fills.row {aliases : List String} {required : Bool} {shape : Reader γ}
    {assign : α → γ → α} {encode : β → Json} {value : Option β} (decode : Option β → γ)
    (found : record.fields.find? (·.answersTo name) =
      some ⟨name, aliases, required, fun record value => (shape value).map (assign record)⟩)
    (reads : ∀ given ∈ value, shape (encode given) = .ok (decode (some given)))
    (missing : assign built (decode none) = built)
    (rest : Fills record (assign built (decode value)) rows done) :
    Fills record built ((name, value.map encode) :: rows) done := by
  cases value with
  | none =>
      rw [missing] at rest
      exact .absent rest
  | some given =>
      exact .present found rfl (congrArg (Except.map (assign built)) (reads given rfl)) rest

/-- A row whose value is written in the document as it is. -/
theorem Fills.plain {aliases : List String} {required : Bool} {shape : Reader γ}
    {assign : α → γ → α} {value : Option Json} (decode : Option Json → γ)
    (found : record.fields.find? (·.answersTo name) =
      some ⟨name, aliases, required, fun record value => (shape value).map (assign record)⟩)
    (reads : ∀ given ∈ value, shape given = .ok (decode (some given)))
    (missing : assign built (decode none) = built)
    (rest : Fills record (assign built (decode value)) rows done) :
    Fills record built ((name, value) :: rows) done := by
  have filled := Fills.row decode found reads missing rest
  rwa [Option.map_id'] at filled

/-- A row that is always there. -/
theorem Fills.given {aliases : List String} {required : Bool} {shape : Reader γ}
    {assign : α → γ → α} {value : Json} {decoded : γ}
    (found : record.fields.find? (·.answersTo name) =
      some ⟨name, aliases, required, fun record value => (shape value).map (assign record)⟩)
    (reads : shape value = .ok decoded) (rest : Fills record (assign built decoded) rows done) :
    Fills record built ((name, some value) :: rows) done :=
  .present found rfl (congrArg (Except.map (assign built)) reads) rest

/-- Where all rows are of different fields, the members of an object set the same fields. -/
theorem setMembers_of_fills (fills : Fills record built rows done)
    (distinct : (rows.map Prod.fst).Nodup) (fresh : ∀ row ∈ rows, row.1 ∉ seen) :
    ∃ names, record.setMembers seen built (Json.members rows) = .ok (names, done) ∧
      (∀ name ∈ seen, name ∈ names) ∧ ∀ name value, (name, some value) ∈ rows → name ∈ names := by
  -- The names seen so far grow by each row that is there, and never meet a row still to come.
  induction fills generalizing seen with
  | nil => exact ⟨seen, rfl, fun _ member => member, fun _ _ member => nomatch member⟩
  | absent _ ih =>
      obtain ⟨names, read, kept, listed⟩ := ih (List.nodup_cons.mp distinct).2
        fun row member => fresh row (List.mem_cons_of_mem _ member)
      refine ⟨names, read, kept, fun name value member => ?_⟩
      rcases List.mem_cons.mp member with same | member
      · cases same
      · exact listed name value member
  | @present built next done name field value rows found named set _ ih =>
      subst named
      obtain ⟨absent, distinct⟩ := List.nodup_cons.mp distinct
      have unseen : field.name ∉ seen := fresh _ List.mem_cons_self
      have later : ∀ row ∈ rows, row.1 ∉ field.name :: seen := by
        intro row member clash
        rcases List.mem_cons.mp clash with same | clash
        · exact absent (List.mem_map.mpr ⟨row, member, same⟩)
        · exact fresh row (List.mem_cons_of_mem _ member) clash
      obtain ⟨names, read, kept, listed⟩ := ih distinct later
      refine ⟨names, ?_, fun name member => kept name (List.mem_cons_of_mem _ member), ?_⟩
      · change record.setMembers seen built ((field.name, value) :: Json.members rows) = _
        simp only [setMembers, found, List.contains_iff_mem, unseen, ↓reduceIte, set]
        exact read
      · intro name given member
        rcases List.mem_cons.mp member with same | member
        · cases same
          exact kept _ List.mem_cons_self
        · exact listed name given member

/-- A record is read from the rows that fill it in, if they are of different fields and every
required field is there. -/
theorem read_ofRows (fills : Fills record record.initial rows done)
    (distinct : (rows.map Prod.fst).Nodup)
    (complete : ∀ name ∈ record.required, ∃ value, (name, some value) ∈ rows) :
    record.read (Json.ofRows rows) = .ok done := by
  have fresh : ∀ row ∈ rows, row.1 ∉ ([] : List String) := fun row _ => List.not_mem_nil
  obtain ⟨names, read, -, listed⟩ := setMembers_of_fills fills distinct fresh
  have nothing : record.firstMissing names = none := by
    rw [firstMissing, Option.map_eq_none_iff, List.find?_eq_none]
    intro field member missing
    obtain ⟨required, unset⟩ := Bool.and_eq_true_iff.mp missing
    obtain ⟨value, given⟩ := complete field.name (List.mem_filterMap.mpr
      ⟨field, member, if_pos required⟩)
    rw [List.contains_iff_mem.mpr (listed field.name value given)] at unset
    cases unset
  refine bind_eq_ok_iff.mpr ⟨(names, done), read, ?_⟩
  simp only [nothing]
  rfl

end Record

end Schema

end Runbook
