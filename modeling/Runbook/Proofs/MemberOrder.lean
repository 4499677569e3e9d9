import Runbook.Document
import Runbook.Proofs.Json.Spelling

/-!
# The order of members

Documents that are written in JSON have the same result when the members of their objects are
reordered, and a member behind which another one of its name stands has no influence
(`Document.memberOrderLaw`). Both hold since only the last member of each name counts when the
members of an object are settled (`Json.Within.settled_eq`).
-/

namespace Runbook

namespace Json

/-- A tree comes from another one by changes to the members of objects, at any depth. -/
inductive Within (change : List (String × Json) → List (String × Json) → Prop) : Json → Json → Prop
  | refl (tree : Json) : Within change tree tree
  | symm {tree other : Json} (changed : Within change tree other) : Within change other tree
  | trans {tree middle other : Json} (first : Within change tree middle)
      (second : Within change middle other) : Within change tree other
  | here {members others : List (String × Json)} (changed : change members others) :
      Within change (.object members) (.object others)
  | item (before : List Json) {item other : Json} (after : List Json)
      (changed : Within change item other) :
      Within change (.array (before ++ item :: after)) (.array (before ++ other :: after))
  | member (before : List (String × Json)) (name : String) {value other : Json}
      (after : List (String × Json)) (changed : Within change value other) :
      Within change (.object (before ++ (name, value) :: after))
        (.object (before ++ (name, other) :: after))

/-- Members are reordered, and those of one name keep their order. -/
def Reorders (members others : List (String × Json)) : Prop :=
  ∀ name, members.filter (·.1 == name) = others.filter (·.1 == name)

/-- A member is left out behind which another one of its name stands. -/
def LeavesOut (members others : List (String × Json)) : Prop :=
  ∃ before name value after, members = before ++ (name, value) :: after ∧
    name ∈ after.map Prod.fst ∧ others = before ++ after

/-- The last member of each name is the same. -/
def SameLast (members others : List (String × Json)) : Prop :=
  ∀ name, (members.filter (·.1 == name)).getLast? = (others.filter (·.1 == name)).getLast?

section Changes

variable {members others : List (String × Json)}

theorem Reorders.sameLast (reorders : Reorders members others) : SameLast members others :=
  fun name => congrArg List.getLast? (reorders name)

/-- The members stay the same in another order. -/
theorem Reorders.mem_iff (reorders : Reorders members others) {member : String × Json} :
    member ∈ members ↔ member ∈ others := by
  have listed : ∀ list : List (String × Json),
      member ∈ list ↔ member ∈ list.filter (·.1 == member.1) := fun list => by simp
  rw [listed members, listed others, reorders member.1]

/-- What is left out is not the last member of its name. -/
theorem LeavesOut.sameLast (leavesOut : LeavesOut members others) : SameLast members others := by
  obtain ⟨before, name, value, after, rfl, later, rfl⟩ := leavesOut
  intro key
  rw [List.filter_append, List.filter_append, List.getLast?_append, List.getLast?_append]
  by_cases same : name = key
  · subst same
    obtain ⟨member, listed, named⟩ := List.mem_map.mp later
    have kept : member ∈ after.filter (·.1 == name) :=
      List.mem_filter.mpr ⟨listed, beq_iff_eq.mpr named⟩
    obtain ⟨first, rest, split⟩ := List.exists_cons_of_ne_nil (List.ne_nil_of_mem kept)
    have hidden : ((name, value) :: after).filter (·.1 == name) =
        (name, value) :: after.filter (·.1 == name) :=
      List.filter_cons_of_pos (beq_self_eq_true name)
    rw [hidden, split, List.getLast?_cons_cons]
  · rw [List.filter_cons_of_neg (by simpa using same)]

/-- Only the last member of each name counts when members are settled. -/
theorem settled_object_eq (same : SameLast members others) :
    settled (.object members) = settled (.object others) := by
  rw [settled_object, settled_object]
  congr 1
  apply Dictionary.ofList_eq_of_getLast?
  intro key
  rw [List.filter_map, List.filter_map, List.getLast?_map, List.getLast?_map]
  exact congrArg _ (same key)

end Changes

/-- Changes that keep the last member of each name keep the value. -/
theorem Within.settled_eq {change : List (String × Json) → List (String × Json) → Prop}
    (keeps : ∀ members others, change members others → SameLast members others)
    {tree other : Json} (changed : Within change tree other) : settled tree = settled other := by
  induction changed with
  | refl tree => rfl
  | symm _ ih => exact ih.symm
  | trans _ _ first second => exact first.trans second
  | here changed => exact settled_object_eq (keeps _ _ changed)
  | item before after _ ih =>
      rw [settled_array, settled_array, List.map_append, List.map_append, List.map_cons,
        List.map_cons, ih]
  | member before name after _ ih =>
      rw [settled_object, settled_object, List.map_append, List.map_append, List.map_cons,
        List.map_cons, ih]

/-- Reordering leaves containers nested as they are. -/
theorem Within.nests_iff {tree other : Json} (reordered : Within Reorders tree other) {room : Nat} :
    Nests room tree ↔ Nests room other := by
  induction reordered generalizing room with
  | refl tree => exact Iff.rfl
  | symm _ ih => exact ih.symm
  | trans _ _ first second => exact first.trans second
  | here changed =>
      rw [nests_object_iff, nests_object_iff]
      exact and_congr_right fun _ => forall_congr' fun _ => imp_congr_left changed.mem_iff
  | item before after _ ih =>
      rw [nests_array_iff, nests_array_iff, List.forall_mem_append, List.forall_mem_append,
        List.forall_mem_cons, List.forall_mem_cons, ih]
  | member before name after _ ih =>
      rw [nests_object_iff, nests_object_iff, List.forall_mem_append, List.forall_mem_append,
        List.forall_mem_cons, List.forall_mem_cons, ih]

end Json

namespace Document

/-- A document that is valid JSON. -/
def IsJson (document : List UInt8) : Prop :=
  ∃ chars, Text.Utf8.decodeChars document = some chars ∧ (Json.ofChars chars).isSome

/-- The tree that a document writes, with the members of objects as they stand in it. -/
def Writes (document : List UInt8) (tree : Json) : Prop :=
  ∃ chars, Text.Utf8.decodeChars document = some chars ∧
    Json.tokens chars = some (Json.spelling tree)

section Writes

variable {document changed : List UInt8} {tree other : Json}

/-- A valid document writes a tree. -/
theorem IsJson.exists_writes (valid : IsJson document) : ∃ tree, Writes document tree := by
  obtain ⟨chars, decoded, read⟩ := valid
  obtain ⟨value, read⟩ := Option.isSome_iff_exists.mp read
  obtain ⟨tokens, lexed, read⟩ := Option.bind_eq_some_iff.mp read
  obtain ⟨tree, rfl, -, -⟩ := Json.ofTokens_eq_some_iff.mp read
  exact ⟨tree, chars, decoded, lexed⟩

/-- A document that writes a tree is valid exactly if the tree is not nested too deeply. -/
theorem Writes.isJson_iff (writes : Writes document tree) :
    IsJson document ↔ Json.Nests Json.deepest tree := by
  obtain ⟨chars, decoded, lexed⟩ := writes
  constructor
  · rintro ⟨_, again, read⟩
    cases decoded.symm.trans again
    obtain ⟨value, read⟩ := Option.isSome_iff_exists.mp read
    rw [Json.ofChars, lexed] at read
    exact (Json.ofTokens_spelling_eq_some_iff.mp read).1
  · intro nests
    refine ⟨chars, decoded, ?_⟩
    rw [Json.ofChars, lexed, Option.bind_some, Json.ofTokens_spelling nests]
    rfl

/-- A valid document is decoded as the settled value of its tree. -/
theorem Writes.decode_eq (writes : Writes document tree) (valid : IsJson document) :
    decode document = some (Json.settled tree) := by
  have nests := writes.isJson_iff.mp valid
  obtain ⟨chars, decoded, lexed⟩ := writes
  have read : Json.ofChars chars = some (Json.settled tree) := by
    rw [Json.ofChars, lexed, Option.bind_some, Json.ofTokens_spelling nests]
  rw [decode, decoded, Option.bind_eq_bind, Option.bind_some, read]
  rfl

/-- Valid documents whose trees have the same settled value have the same result. -/
theorem Writes.parse_eq (writes : Writes document tree) (valid : IsJson document)
    (rewrites : Writes changed other) (revalid : IsJson changed)
    (same : Json.settled tree = Json.settled other) : parse changed = parse document := by
  rw [parse, parse, writes.decode_eq valid, rewrites.decode_eq revalid, same]

end Writes

/-- What the members of a document's objects contribute to its result. -/
structure MemberOrderLaw (document : List UInt8) : Prop where
  written : ∃ tree, Writes document tree
  /-- In which order the members stand does not matter. -/
  reordered : ∀ tree, Writes document tree → ∀ other changed,
    Json.Within Json.Reorders tree other → Writes changed other → parse changed = parse document
  /-- Members behind which another one of their name stands do not matter, whether they are left
  out, put in or changed. -/
  hidden : ∀ tree, Writes document tree → ∀ other changed,
    Json.Within Json.LeavesOut tree other → Writes changed other → IsJson changed →
      parse changed = parse document

/-- **The order of members does not matter** in documents that are valid JSON, and of the members of
one name only the last one does. -/
theorem memberOrderLaw {document : List UInt8} (valid : IsJson document) :
    MemberOrderLaw document where
  written := valid.exists_writes
  reordered tree writes other changed reordered rewrites := by
    have revalid : IsJson changed := by
      rw [rewrites.isJson_iff, ← reordered.nests_iff, ← writes.isJson_iff]
      exact valid
    exact writes.parse_eq valid rewrites revalid
      (reordered.settled_eq fun _ _ reorders => reorders.sameLast)
  hidden tree writes other changed leftOut rewrites revalid :=
    writes.parse_eq valid rewrites revalid
      (leftOut.settled_eq fun _ _ leavesOut => leavesOut.sameLast)

/-- Of two fields with values of a wrong type the same one is reported, wherever they stand. -/
theorem memberOrderLaw_swapped :
    IsJson (Text.Utf8.encode "\x7b\"name\": 1, \"tasks\": 2\x7d") ∧
      MemberOrderLaw (Text.Utf8.encode "\x7b\"name\": 1, \"tasks\": 2\x7d") ∧
      parse (Text.Utf8.encode "\x7b\"tasks\":2,\"name\":1\x7d") =
        parse (Text.Utf8.encode "\x7b\"name\": 1, \"tasks\": 2\x7d") := by
  have valid : IsJson (Text.Utf8.encode "\x7b\"name\": 1, \"tasks\": 2\x7d") :=
    ⟨"\x7b\"name\": 1, \"tasks\": 2\x7d".toList, by decide +kernel, by decide +kernel⟩
  have law := memberOrderLaw valid
  refine ⟨valid, law, ?_⟩
  refine law.reordered (.object [("name", .number (.int 1)), ("tasks", .number (.int 2))])
    ⟨"\x7b\"name\": 1, \"tasks\": 2\x7d".toList, by decide +kernel, by decide +kernel⟩
    (.object [("tasks", .number (.int 2)), ("name", .number (.int 1))]) _ (.here fun name => ?_)
    ⟨"\x7b\"tasks\":2,\"name\":1\x7d".toList, by decide +kernel, by decide +kernel⟩
  by_cases first : "name" = name
  · subst first
    decide
  · by_cases second : "tasks" = name
    · subst second
      decide
    · simp [first, second]

end Document

end Runbook
