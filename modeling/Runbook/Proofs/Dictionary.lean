import Mathlib.Data.List.Induction
import Mathlib.Data.String.Basic
import Runbook.Dictionary

/-!
# Laws of dictionaries

What setting a value does to the look-ups (`Dictionary.get?_insert`) and to the order of the keys. A
dictionary whose keys increase is determined by its look-ups (`Dictionary.eq_of_get?_eq`).
-/

namespace Runbook

namespace Dictionary

variable {α β ε : Type}

@[simp]
theorem get?_nil (key : String) : get? ([] : Dictionary α) key = none := rfl

theorem get?_cons (entry : String × α) (entries : Dictionary α) (key : String) :
    get? (entry :: entries) key = if entry.1 = key then some entry.2 else get? entries key := by
  unfold get?
  rw [List.find?_cons]
  by_cases same : entry.1 = key
  · simp only [same, beq_self_eq_true, Option.map_some, ↓reduceIte]
  · simp only [beq_eq_false_iff_ne.mpr same, same, ↓reduceIte]

/-- Setting a value changes the look-up at one key. -/
theorem get?_insert (key : String) (value : α) (entries : Dictionary α) (other : String) :
    (insert key value entries).get? other =
      if other = key then some value else entries.get? other := by
  induction entries with
  | nil =>
      rw [insert, get?_cons]
      simp only [eq_comm]
  | cons entry rest ih =>
      obtain ⟨head, found⟩ := entry
      rw [insert]
      by_cases below : key < head
      · rw [if_pos below, get?_cons]
        simp only [eq_comm]
      · rw [if_neg below]
        by_cases same : key = head
        · subst same
          rw [if_pos rfl, get?_cons, get?_cons]
          by_cases equal : key = other
          · simp only [equal, ↓reduceIte]
          · simp only [equal, Ne.symm equal, ↓reduceIte]
        · rw [if_neg same, get?_cons, get?_cons, ih]
          by_cases equal : other = key
          · subst equal
            simp only [Ne.symm same, ↓reduceIte]
          · simp only [equal, ↓reduceIte]

@[simp]
theorem get?_insert_self (key : String) (value : α) (entries : Dictionary α) :
    (insert key value entries).get? key = some value := by
  rw [get?_insert, if_pos rfl]

theorem get?_insert_of_ne {key other : String} (different : other ≠ key) (value : α)
    (entries : Dictionary α) : (insert key value entries).get? other = entries.get? other := by
  rw [get?_insert, if_neg different]

/-- The keys are the names under which a value is found. -/
theorem mem_keys_iff {entries : Dictionary α} {key : String} :
    key ∈ entries.keys ↔ (entries.get? key).isSome := by
  induction entries with
  | nil => simp [keys]
  | cons entry rest ih =>
      rw [get?_cons]
      by_cases same : entry.1 = key
      · simp [keys, same]
      · rw [if_neg same, ← ih]
        simp [keys, Ne.symm same]

theorem mem_keys_insert {key other : String} {value : α} {entries : Dictionary α} :
    other ∈ (insert key value entries).keys ↔ other = key ∨ other ∈ entries.keys := by
  rw [mem_keys_iff, get?_insert, mem_keys_iff]
  by_cases same : other = key
  · simp [same]
  · simp [same]

/-- The entries after a value has been set are the new one and earlier ones. -/
theorem mem_insert {key : String} {value : α} {entry : String × α} {entries : Dictionary α}
    (member : entry ∈ insert key value entries) : entry = (key, value) ∨ entry ∈ entries := by
  induction entries with
  | nil => exact Or.inl (List.mem_singleton.mp member)
  | cons head rest ih =>
      obtain ⟨first, found⟩ := head
      rw [insert] at member
      split_ifs at member with below same
      · exact List.mem_cons.mp member
      · rcases List.mem_cons.mp member with new | earlier
        · exact Or.inl new
        · exact Or.inr (List.mem_cons_of_mem _ earlier)
      · rcases List.mem_cons.mp member with rfl | later
        · exact Or.inr List.mem_cons_self
        · exact (ih later).imp_right (List.mem_cons_of_mem _)

/-- A key behind all others is added at the end. -/
theorem insert_eq_append {key : String} (value : α) {entries : Dictionary α}
    (last : ∀ entry ∈ entries, entry.1 < key) :
    insert key value entries = entries ++ [(key, value)] := by
  induction entries with
  | nil => rfl
  | cons entry rest ih =>
      obtain ⟨below, rest⟩ := List.forall_mem_cons.mp last
      rw [insert, if_neg below.not_gt, if_neg below.ne', ih rest]
      rfl

/-- Setting a value keeps the keys in order. -/
theorem sorted_insert (key : String) (value : α) {entries : Dictionary α}
    (sorted : entries.Sorted) : (insert key value entries).Sorted := by
  induction entries with
  | nil => exact List.pairwise_singleton _ _
  | cons entry rest ih =>
      obtain ⟨head, found⟩ := entry
      obtain ⟨least, ordered⟩ := List.pairwise_cons.mp sorted
      rw [insert]
      split_ifs with below same
      · refine List.pairwise_cons.mpr ⟨?_, sorted⟩
        intro later member
        rcases List.mem_cons.mp member with rfl | member
        · exact below
        · exact lt_trans below (least later member)
      · subst same
        exact List.pairwise_cons.mpr ⟨least, ordered⟩
      · have above : head < key := lt_of_le_of_ne (not_lt.mp below) (Ne.symm same)
        refine List.pairwise_cons.mpr ⟨?_, ih ordered⟩
        intro later member
        have listed : later.1 ∈ (insert key value rest).keys := List.mem_map_of_mem member
        rcases mem_keys_insert.mp listed with equal | earlier
        · rw [equal]
          exact above
        · obtain ⟨entry, member, named⟩ := List.mem_map.mp earlier
          rw [← named]
          exact least entry member

instance (entries : Dictionary α) : Decidable entries.Sorted :=
  inferInstanceAs (Decidable (List.Pairwise _ entries))

/-- The order of a dictionary is that of its keys. -/
theorem sorted_iff_pairwise_keys {entries : Dictionary α} :
    entries.Sorted ↔ entries.keys.Pairwise (· < ·) :=
  List.pairwise_map.symm

/-- A dictionary that is built from a list is in order. -/
theorem sorted_ofList (entries : List (String × α)) : (ofList entries).Sorted := by
  have step : ∀ built : Dictionary α, built.Sorted →
      (entries.foldl (fun built entry => insert entry.1 entry.2 built) built).Sorted := by
    induction entries with
    | nil => exact fun _ sorted => sorted
    | cons entry entries ih => exact fun built sorted => ih _ (sorted_insert _ _ sorted)
  exact step [] List.Pairwise.nil

/-- The last entry of a list replaces an earlier one with the same key. -/
theorem ofList_concat (entries : List (String × α)) (entry : String × α) :
    ofList (entries ++ [entry]) = insert entry.1 entry.2 (ofList entries) := by
  rw [ofList, List.foldl_append]
  rfl

/-- A list whose keys increase is the dictionary that is built from it. -/
theorem ofList_eq_self {entries : List (String × α)} (sorted : Sorted entries) :
    ofList entries = entries := by
  induction entries using List.reverseRecOn with
  | nil => rfl
  | append_singleton entries entry ih =>
      obtain ⟨before, -, behind⟩ := List.pairwise_append.mp sorted
      rw [ofList_concat, ih before, insert_eq_append entry.2 fun earlier member =>
        behind earlier member entry List.mem_cons_self]

/-- A dictionary that is built from a list has the keys of the list. -/
theorem mem_keys_ofList {entries : List (String × α)} {key : String} :
    key ∈ (ofList entries).keys ↔ ∃ value, (key, value) ∈ entries := by
  induction entries using List.reverseRecOn with
  | nil => simp [ofList, keys]
  | append_singleton entries entry ih =>
      obtain ⟨last, found⟩ := entry
      rw [ofList_concat, mem_keys_insert, ih]
      simp [or_comm, exists_or]

/-- A dictionary that is built from a list has no other entries. -/
theorem mem_of_mem_ofList {entry : String × α} {entries : List (String × α)}
    (member : entry ∈ ofList entries) : entry ∈ entries := by
  have step : ∀ built : Dictionary α,
      entry ∈ entries.foldl (fun built entry => insert entry.1 entry.2 built) built →
        entry ∈ built ∨ entry ∈ entries := by
    clear member
    induction entries with
    | nil => exact fun _ member => Or.inl member
    | cons head entries ih =>
        intro built member
        rcases ih _ member with earlier | later
        · rcases mem_insert earlier with rfl | earlier
          · exact Or.inr List.mem_cons_self
          · exact Or.inl earlier
        · exact Or.inr (List.mem_cons_of_mem _ later)
  exact (step [] member).resolve_left List.not_mem_nil

private theorem insert_comm_of_lt {low high : String} (below : low < high) (x y : α)
    (entries : Dictionary α) :
    insert low x (insert high y entries) = insert high y (insert low x entries) := by
  have notAbove : ¬ high < low := not_lt.mpr below.le
  induction entries with
  | nil => simp only [insert, below, notAbove, below.ne', ↓reduceIte]
  | cons entry rest ih =>
      obtain ⟨head, found⟩ := entry
      rcases lt_trichotomy low head with before | rfl | behind
      · rcases lt_trichotomy high head with under | rfl | beyond
        · simp only [insert, before, under, below, notAbove, below.ne', ↓reduceIte]
        · simp only [insert, below, notAbove, below.ne', lt_irrefl, ↓reduceIte]
        · simp only [insert, before, not_lt.mpr beyond.le, beyond.ne', notAbove, below.ne',
            ↓reduceIte]
      · simp only [insert, notAbove, below.ne', lt_irrefl, ↓reduceIte]
      · have beyond : head < high := lt_trans behind below
        simp only [insert, not_lt.mpr behind.le, behind.ne', not_lt.mpr beyond.le, beyond.ne', ih,
          ↓reduceIte]

/-- Values at different keys may be set in either order. -/
theorem insert_comm {key other : String} (different : key ≠ other) (x y : α)
    (entries : Dictionary α) :
    insert key x (insert other y entries) = insert other y (insert key x entries) := by
  rcases lt_or_gt_of_ne different with below | above
  · exact insert_comm_of_lt below x y entries
  · exact (insert_comm_of_lt above y x entries).symm

private theorem get?_eq_none_of_least {key : String} {entries : Dictionary α}
    (least : ∀ entry ∈ entries, key < entry.1) : entries.get? key = none := by
  by_contra found
  obtain ⟨entry, member, named⟩ :=
    List.mem_map.mp (mem_keys_iff.mpr (Option.isSome_iff_ne_none.mpr found))
  exact lt_irrefl key (named ▸ least entry member)

/-- In a dictionary in order each value is found under its key. -/
theorem get?_of_mem {key : String} {value : α} {entries : Dictionary α} (sorted : entries.Sorted)
    (member : (key, value) ∈ entries) : entries.get? key = some value := by
  induction entries with
  | nil => cases member
  | cons entry rest ih =>
      obtain ⟨least, ordered⟩ := List.pairwise_cons.mp sorted
      rw [get?_cons]
      rcases List.mem_cons.mp member with rfl | later
      · exact if_pos rfl
      · rw [if_neg (least _ later).ne, ih ordered later]

theorem mem_of_get?_eq_some {key : String} {value : α} {entries : Dictionary α}
    (found : entries.get? key = some value) : (key, value) ∈ entries := by
  obtain ⟨entry, first, rfl⟩ := Option.map_eq_some_iff.mp found
  have same := List.find?_some first
  have named : entry.1 = key := beq_iff_eq.mp same
  rw [← named]
  exact List.mem_of_find?_eq_some first

/-- Dictionaries in order are equal when all their look-ups are. -/
theorem eq_of_get?_eq {left right : Dictionary α} (leftSorted : left.Sorted)
    (rightSorted : right.Sorted) (same : ∀ key, left.get? key = right.get? key) :
    left = right := by
  induction left generalizing right with
  | nil =>
      cases right with
      | nil => rfl
      | cons entry rest =>
          have absent := same entry.1
          simp [get?_cons] at absent
  | cons entry rest ih =>
      cases right with
      | nil =>
          have absent := same entry.1
          simp [get?_cons] at absent
      | cons other others =>
          obtain ⟨leftLeast, leftOrdered⟩ := List.pairwise_cons.mp leftSorted
          obtain ⟨rightLeast, rightOrdered⟩ := List.pairwise_cons.mp rightSorted
          have keys : entry.1 = other.1 := by
            by_contra different
            rcases lt_or_gt_of_ne different with below | above
            · have absent := same entry.1
              rw [get?_cons, if_pos rfl, get?_cons, if_neg (Ne.symm different),
                get?_eq_none_of_least fun later member =>
                  lt_trans below (rightLeast later member)] at absent
              cases absent
            · have absent := same other.1
              rw [get?_cons, if_neg different, get?_cons, if_pos rfl,
                get?_eq_none_of_least fun later member =>
                  lt_trans above (leftLeast later member)] at absent
              cases absent
          have values : entry.2 = other.2 := by
            have found := same entry.1
            rw [get?_cons, if_pos rfl, get?_cons, if_pos keys.symm] at found
            exact Option.some.inj found
          have rests : rest = others := by
            apply ih leftOrdered rightOrdered
            intro key
            by_cases first : entry.1 = key
            · subst first
              rw [get?_eq_none_of_least leftLeast,
                get?_eq_none_of_least (keys ▸ rightLeast)]
            · have found := same key
              rwa [get?_cons, if_neg first, get?_cons, if_neg (keys ▸ first)] at found
          rw [rests, Prod.ext keys values]

/-- The value at a key of a dictionary that is built from a list is that of the last entry with this
key. -/
theorem get?_ofList (entries : List (String × α)) (key : String) :
    (ofList entries).get? key = (entries.filter (·.1 == key)).getLast?.map (·.2) := by
  induction entries using List.reverseRecOn with
  | nil => rfl
  | append_singleton entries entry ih =>
      rw [ofList_concat, get?_insert, ih, List.filter_append]
      by_cases same : key = entry.1
      · simp [same]
      · simp [same, Ne.symm same]

/-- Only the last entry with each key counts. -/
theorem ofList_eq_of_getLast? {left right : List (String × α)}
    (same : ∀ key, (left.filter (·.1 == key)).getLast? = (right.filter (·.1 == key)).getLast?) :
    ofList left = ofList right := by
  refine eq_of_get?_eq (sorted_ofList left) (sorted_ofList right) fun key => ?_
  rw [get?_ofList, get?_ofList, same]

end Dictionary

end Runbook
