import Runbook.Json.Reader
import Runbook.Proofs.Dictionary

/-!
# Trees as they are written

A JSON text writes a tree whose objects have their members in any order, and some of them several
times. Its tokens spell this tree (`Json.spelling`), and its value is the tree with its members
settled (`Json.settled`): in order, and of several members of one name the last one. The reader
accepts exactly the spellings of trees that are not nested too deeply (`Json.ofTokens_eq_some_iff`).
-/

namespace Runbook.Json

mutual

/-- The tokens of a tree, with the members of its objects as they stand. -/
def spelling : Json → List Token
  | .null => [.null]
  | .bool b => [.bool b]
  | .number n => [.number n]
  | .string s => [.string s]
  | .array [] => [.openArray, .closeArray]
  | .array (item :: items) => .openArray :: (spelling item ++ spellingOfItems items)
  | .object [] => [.openObject, .closeObject]
  | .object ((name, value) :: members) =>
    .openObject :: .string name :: .colon :: (spelling value ++ spellingOfMembers members)

/-- The tokens behind an item, up to the end of its array. -/
def spellingOfItems : List Json → List Token
  | [] => [.closeArray]
  | item :: items => .comma :: (spelling item ++ spellingOfItems items)

/-- The tokens behind a member, up to the end of its object. -/
def spellingOfMembers : List (String × Json) → List Token
  | [] => [.closeObject]
  | (name, value) :: members =>
    .comma :: .string name :: .colon :: (spelling value ++ spellingOfMembers members)

end

mutual

/-- The value of a tree as it is written. -/
def settled : Json → Json
  | .array items => .array (settledItems items)
  | .object members => .object (Dictionary.ofList (settledMembers members))
  | value => value

def settledItems : List Json → List Json
  | [] => []
  | item :: items => settled item :: settledItems items

def settledMembers : List (String × Json) → List (String × Json)
  | [] => []
  | (name, value) :: members => (name, settled value) :: settledMembers members

end

theorem settledItems_eq_map (items : List Json) : settledItems items = items.map settled := by
  induction items with
  | nil => rfl
  | cons item items ih => rw [settledItems, ih, List.map_cons]

theorem settledMembers_eq_map (members : List (String × Json)) :
    settledMembers members = members.map fun member => (member.1, settled member.2) := by
  induction members with
  | nil => rfl
  | cons member members ih => rw [settledMembers, ih, List.map_cons]

theorem settled_array (items : List Json) :
    settled (.array items) = .array (items.map settled) := by
  rw [settled, settledItems_eq_map]

theorem settled_object (members : List (String × Json)) :
    settled (.object members) =
      .object (Dictionary.ofList (members.map fun member => (member.1, settled member.2))) := by
  rw [settled, settledMembers_eq_map]

/-- A tree whose containers are nested no more deeply than the room says. -/
inductive Nests : (room : Nat) → Json → Prop
  | null {room : Nat} : Nests room .null
  | bool {room : Nat} (value : Bool) : Nests room (.bool value)
  | number {room : Nat} (value : Number) : Nests room (.number value)
  | string {room : Nat} (text : String) : Nests room (.string text)
  | array {room : Nat} {items : List Json} (inside : 0 < room)
      (each : ∀ item ∈ items, Nests (room - 1) item) : Nests room (.array items)
  | object {room : Nat} {members : List (String × Json)} (inside : 0 < room)
      (each : ∀ member ∈ members, Nests (room - 1) member.2) : Nests room (.object members)

theorem nests_array_iff {room : Nat} {items : List Json} :
    Nests room (.array items) ↔ 0 < room ∧ ∀ item ∈ items, Nests (room - 1) item := by
  constructor
  · intro nests
    cases nests with
    | array inside each => exact ⟨inside, each⟩
  · rintro ⟨inside, each⟩
    exact .array inside each

theorem nests_object_iff {room : Nat} {members : List (String × Json)} :
    Nests room (.object members) ↔ 0 < room ∧ ∀ member ∈ members, Nests (room - 1) member.2 := by
  constructor
  · intro nests
    cases nests with
    | object inside each => exact ⟨inside, each⟩
  · rintro ⟨inside, each⟩
    exact .object inside each

/-! ## Spellings are read -/

section Read

variable {opened : List Frame}

/-- The first item of an array is read like any other value. -/
theorem foldlM_awaitItem (value : Json) :
    (spelling value).foldlM Progress.step (.awaitItem opened) =
      (spelling value).foldlM Progress.step (.awaitValue (.array [] :: opened)) := by
  have begins : ∃ first rest, spelling value = first :: rest ∧ first ≠ .closeArray := by
    cases value with
    | array items => cases items <;> exact ⟨_, _, rfl, nofun⟩
    | object members => cases members <;> exact ⟨_, _, rfl, nofun⟩
    | _ => exact ⟨_, _, rfl, nofun⟩
  obtain ⟨first, rest, split, other⟩ := begins
  have same : Progress.step (.awaitItem opened) first =
      Progress.step (.awaitValue (.array [] :: opened)) first := by
    cases first <;> first | rfl | exact absurd rfl other
  rw [split, List.foldlM_cons, List.foldlM_cons, same]

/-- What stands behind an item is read up to the end of the array. -/
theorem foldlM_spellingOfItems {items done : List Json} {value : Json}
    (each : ∀ item ∈ items, ∀ before, (spelling item).foldlM Progress.step
      (.awaitValue (.array before :: opened)) =
        some (.complete (.array before :: opened) (settled item))) :
    (spellingOfItems items).foldlM Progress.step (.complete (.array done :: opened) value) =
      some (.complete opened (.array ((value :: done).reverse ++ items.map settled))) := by
  induction items generalizing done value with
  | nil =>
      rw [List.map_nil, List.append_nil]
      rfl
  | cons item items ih =>
      obtain ⟨first, rest⟩ := List.forall_mem_cons.mp each
      have moved : Progress.step (.complete (.array done :: opened) value) .comma =
          some (.awaitValue (.array (value :: done) :: opened)) := rfl
      rw [spellingOfItems, List.foldlM_cons, moved, Option.bind_eq_bind, Option.bind_some,
        List.foldlM_append, first, Option.bind_eq_bind, Option.bind_some, ih rest]
      simp

/-- What stands behind a member is read up to the end of the object. -/
theorem foldlM_spellingOfMembers {members : List (String × Json)} {done : List (String × Json)}
    {name : String} {value : Json}
    (each : ∀ member ∈ members, ∀ frame, (spelling member.2).foldlM Progress.step
      (.awaitValue (frame :: opened)) = some (.complete (frame :: opened) (settled member.2))) :
    (spellingOfMembers members).foldlM Progress.step
        (.complete (.object (Dictionary.ofList done) name :: opened) value) =
      some (.complete opened (.object (Dictionary.ofList (done ++ (name, value) ::
        members.map fun member => (member.1, settled member.2))))) := by
  induction members generalizing done name value with
  | nil =>
      rw [List.map_nil, Dictionary.ofList_concat]
      rfl
  | cons member members ih =>
      obtain ⟨next, found⟩ := member
      obtain ⟨first, rest⟩ := List.forall_mem_cons.mp each
      have moved : [Token.comma, .string next, .colon].foldlM Progress.step
          (.complete (.object (Dictionary.ofList done) name :: opened) value) =
            some (.awaitValue
              (.object (Dictionary.ofList (done ++ [(name, value)])) next :: opened)) := by
        rw [Dictionary.ofList_concat]
        rfl
      have split : spellingOfMembers ((next, found) :: members) =
          [Token.comma, .string next, .colon] ++ (spelling found ++ spellingOfMembers members) := by
        rw [spellingOfMembers]
        rfl
      rw [split, List.foldlM_append, moved, Option.bind_eq_bind, Option.bind_some,
        List.foldlM_append, first, Option.bind_eq_bind, Option.bind_some, ih rest]
      simp

/-- A spelling is read as the settled value of its tree. -/
theorem foldlM_spelling {room : Nat} {value : Json} (nests : Nests room value)
    (depth : room = deepest - opened.length) :
    (spelling value).foldlM Progress.step (.awaitValue opened) =
      some (.complete opened (settled value)) := by
  induction nests generalizing opened with
  | null | bool | number | string => rfl
  | @array room items inside each ih =>
      have deeper : opened.length < deepest := by omega
      have opens : Progress.step (.awaitValue opened) .openArray = some (.awaitItem opened) :=
        if_pos deeper
      have within : ∀ item ∈ items, ∀ before, (spelling item).foldlM Progress.step
          (.awaitValue (.array before :: opened)) =
            some (.complete (.array before :: opened) (settled item)) := by
        intro item member before
        refine ih item member ?_
        rw [List.length_cons]
        omega
      rw [settled_array]
      cases items with
      | nil =>
          rw [spelling, List.foldlM_cons, opens]
          rfl
      | cons item items =>
          obtain ⟨first, rest⟩ := List.forall_mem_cons.mp within
          rw [spelling, List.foldlM_cons, opens, Option.bind_eq_bind, Option.bind_some,
            List.foldlM_append, foldlM_awaitItem, first, Option.bind_eq_bind, Option.bind_some,
            foldlM_spellingOfItems rest]
          rfl
  | @object room members inside each ih =>
      have deeper : opened.length < deepest := by omega
      have opens : Progress.step (.awaitValue opened) .openObject = some (.awaitMember opened) :=
        if_pos deeper
      have within : ∀ member ∈ members, ∀ frame, (spelling member.2).foldlM Progress.step
          (.awaitValue (frame :: opened)) =
            some (.complete (frame :: opened) (settled member.2)) := by
        intro member listed frame
        refine ih member listed ?_
        rw [List.length_cons]
        omega
      rw [settled_object]
      cases members with
      | nil =>
          rw [spelling, List.foldlM_cons, opens]
          rfl
      | cons member members =>
          obtain ⟨name, value⟩ := member
          obtain ⟨first, rest⟩ := List.forall_mem_cons.mp within
          have moved : [Token.string name, .colon].foldlM Progress.step (.awaitMember opened) =
              some (.awaitValue (.object (Dictionary.ofList []) name :: opened)) := rfl
          have split : spelling (.object ((name, value) :: members)) =
              .openObject :: ([Token.string name, .colon] ++
                (spelling value ++ spellingOfMembers members)) := by
            rw [spelling]
            rfl
          rw [split, List.foldlM_cons, opens, Option.bind_eq_bind, Option.bind_some,
            List.foldlM_append, moved, Option.bind_eq_bind, Option.bind_some,
            List.foldlM_append, first, Option.bind_eq_bind, Option.bind_some,
            foldlM_spellingOfMembers rest]
          rfl

theorem ofTokens_spelling {value : Json} (nests : Nests deepest value) :
    ofTokens (spelling value) = some (settled value) := by
  rw [ofTokens, foldlM_spelling nests rfl]
  rfl

/-- Tokens that are read one after the other. -/
theorem exists_foldlM_of_append {before after : Progress} {front rest : List Token}
    (read : (front ++ rest).foldlM Progress.step before = some after) :
    ∃ middle, front.foldlM Progress.step before = some middle ∧
      rest.foldlM Progress.step middle = some after := by
  rw [List.foldlM_append] at read
  exact Option.bind_eq_some_iff.mp read

/-- A container is begun only where it is not nested too deeply. -/
theorem begin_of_foldlM {after : Progress} {next : Token} {inside : Progress} {rest : List Token}
    (container : Progress.begin opened next = if opened.length < deepest then some inside else none)
    (read : (next :: rest).foldlM Progress.step (.awaitValue opened) = some after) :
    opened.length < deepest ∧ rest.foldlM Progress.step inside = some after := by
  obtain ⟨middle, moved, rest⟩ := Option.bind_eq_some_iff.mp read
  rw [Progress.step, container] at moved
  split at moved
  · rename_i deeper
    cases moved
    exact ⟨deeper, rest⟩
  · cases moved

mutual

/-- A tree whose spelling is read is not nested too deeply. -/
theorem nests_of_foldlM {opened : List Frame} {after : Progress} (tree : Json)
    (read : (spelling tree).foldlM Progress.step (.awaitValue opened) = some after) :
    Nests (deepest - opened.length) tree := by
  cases tree with
  | null => exact .null
  | bool b => exact .bool b
  | number n => exact .number n
  | string s => exact .string s
  | array items =>
      cases items with
      | nil =>
          obtain ⟨deeper, -⟩ := begin_of_foldlM rfl read
          exact .array (Nat.sub_pos_of_lt deeper) fun _ member => nomatch member
      | cons item items =>
          rw [spelling] at read
          obtain ⟨deeper, read⟩ := begin_of_foldlM rfl read
          obtain ⟨middle, first, rest⟩ := exists_foldlM_of_append read
          rw [foldlM_awaitItem] at first
          have nests : Nests (deepest - opened.length - 1) item := nests_of_foldlM item first
          cases (foldlM_spelling nests rfl).symm.trans first
          exact .array (Nat.sub_pos_of_lt deeper)
            (List.forall_mem_cons.mpr ⟨nests, nests_of_foldlM_items items rest⟩)
  | object members =>
      cases members with
      | nil =>
          obtain ⟨deeper, -⟩ := begin_of_foldlM rfl read
          exact .object (Nat.sub_pos_of_lt deeper) fun _ member => nomatch member
      | cons member members =>
          obtain ⟨name, value⟩ := member
          rw [spelling] at read
          obtain ⟨deeper, read⟩ := begin_of_foldlM rfl read
          have named : (spelling value ++ spellingOfMembers members).foldlM Progress.step
              (.awaitValue (.object [] name :: opened)) = some after := read
          obtain ⟨middle, first, rest⟩ := exists_foldlM_of_append named
          have nests : Nests (deepest - opened.length - 1) value := nests_of_foldlM value first
          cases (foldlM_spelling nests rfl).symm.trans first
          exact .object (Nat.sub_pos_of_lt deeper)
            (List.forall_mem_cons.mpr ⟨nests, nests_of_foldlM_members members rest⟩)

/-- Items behind another one are not nested too deeply where their array is read. -/
theorem nests_of_foldlM_items {opened : List Frame} {after : Progress} {done : List Json}
    {value : Json} (items : List Json)
    (read : (spellingOfItems items).foldlM Progress.step
      (.complete (.array done :: opened) value) = some after) :
    ∀ item ∈ items, Nests (deepest - opened.length - 1) item := by
  cases items with
  | nil => exact fun _ member => nomatch member
  | cons item items =>
      have moved : (spelling item ++ spellingOfItems items).foldlM Progress.step
          (.awaitValue (.array (value :: done) :: opened)) = some after := read
      obtain ⟨middle, first, rest⟩ := exists_foldlM_of_append moved
      have nests : Nests (deepest - opened.length - 1) item := nests_of_foldlM item first
      cases (foldlM_spelling nests rfl).symm.trans first
      exact List.forall_mem_cons.mpr ⟨nests, nests_of_foldlM_items items rest⟩

/-- Members behind another one are not nested too deeply where their object is read. -/
theorem nests_of_foldlM_members {opened : List Frame} {after : Progress} {built : Dictionary Json}
    {name : String} {value : Json} (members : List (String × Json))
    (read : (spellingOfMembers members).foldlM Progress.step
      (.complete (.object built name :: opened) value) = some after) :
    ∀ member ∈ members, Nests (deepest - opened.length - 1) member.2 := by
  cases members with
  | nil => exact fun _ member => nomatch member
  | cons member members =>
      obtain ⟨next, found⟩ := member
      have moved : (spelling found ++ spellingOfMembers members).foldlM Progress.step
          (.awaitValue (.object (built.insert name value) next :: opened)) = some after := read
      obtain ⟨middle, first, rest⟩ := exists_foldlM_of_append moved
      have nests : Nests (deepest - opened.length - 1) found := nests_of_foldlM found first
      cases (foldlM_spelling nests rfl).symm.trans first
      exact List.forall_mem_cons.mpr ⟨nests, nests_of_foldlM_members members rest⟩

end

/-- A spelling is read exactly if its tree is not nested too deeply. -/
theorem ofTokens_spelling_eq_some_iff {tree value : Json} :
    ofTokens (spelling tree) = some value ↔ Nests deepest tree ∧ settled tree = value := by
  constructor
  · intro found
    obtain ⟨last, read, -⟩ := Option.bind_eq_some_iff.mp found
    have nests : Nests deepest tree := nests_of_foldlM tree read
    exact ⟨nests, Option.some.inj ((ofTokens_spelling nests).symm.trans found)⟩
  · rintro ⟨nests, rfl⟩
    exact ofTokens_spelling nests

end Read

/-! ## What is read is a spelling -/

/-- The tokens of items that another one follows. -/
def itemsBefore (items : List Json) : List Token :=
  items.flatMap fun item => spelling item ++ [.comma]

/-- The tokens of members that another one follows. -/
def membersBefore (members : List (String × Json)) : List Token :=
  members.flatMap fun member => .string member.1 :: .colon :: (spelling member.2 ++ [.comma])

theorem spellingOfItems_concat (items : List Json) (last : Json) :
    spellingOfItems (items ++ [last]) =
      .comma :: (itemsBefore items ++ (spelling last ++ [.closeArray])) := by
  induction items with
  | nil => rfl
  | cons item items ih =>
      rw [List.cons_append, spellingOfItems, ih]
      simp [itemsBefore]

theorem spelling_array_concat (items : List Json) (last : Json) :
    spelling (.array (items ++ [last])) =
      .openArray :: (itemsBefore items ++ (spelling last ++ [.closeArray])) := by
  cases items with
  | nil => rfl
  | cons item items =>
      rw [List.cons_append, spelling, spellingOfItems_concat]
      simp [itemsBefore]

theorem spellingOfMembers_concat (members : List (String × Json)) (name : String) (value : Json) :
    spellingOfMembers (members ++ [(name, value)]) =
      .comma :: (membersBefore members ++
        .string name :: .colon :: (spelling value ++ [.closeObject])) := by
  induction members with
  | nil => rfl
  | cons member members ih =>
      rw [List.cons_append, spellingOfMembers, ih]
      simp [membersBefore]

theorem spelling_object_concat (members : List (String × Json)) (name : String) (value : Json) :
    spelling (.object (members ++ [(name, value)])) =
      .openObject :: (membersBefore members ++
        .string name :: .colon :: (spelling value ++ [.closeObject])) := by
  cases members with
  | nil => rfl
  | cons member members =>
      rw [List.cons_append, spelling, spellingOfMembers_concat]
      simp [membersBefore]

/-- Members of an object with their values settled. -/
def settledEach (members : List (String × Json)) : List (String × Json) :=
  members.map fun member => (member.1, settled member.2)

/-- The tokens that were read of containers that are still open. -/
inductive Opens : List Frame → List Token → Prop
  | nil : Opens [] []
  | array {outer : List Frame} {before : List Token} (below : Opens outer before)
      (deeper : outer.length < deepest) {items : List Json}
      (each : ∀ item ∈ items, Nests (deepest - outer.length - 1) item) :
      Opens (.array (items.map settled).reverse :: outer)
        (before ++ .openArray :: itemsBefore items)
  | object {outer : List Frame} {before : List Token} (below : Opens outer before)
      (deeper : outer.length < deepest) {members : List (String × Json)}
      (each : ∀ member ∈ members, Nests (deepest - outer.length - 1) member.2) (name : String) :
      Opens (.object (Dictionary.ofList (settledEach members)) name :: outer)
        (before ++ .openObject :: (membersBefore members ++ [.string name, .colon]))

/-- The tokens that were read of an object, in which another member may follow. -/
def ReadsMembers (outer : List Frame) (built : Dictionary Json) (read : List Token) : Prop :=
  ∃ before members, Opens outer before ∧ outer.length < deepest ∧
    (∀ member ∈ members, Nests (deepest - outer.length - 1) member.2) ∧
    built = Dictionary.ofList (settledEach members) ∧
    read = before ++ .openObject :: membersBefore members

/-- The tokens that were read spell what has been read so far. -/
def Progress.Spelled : Progress → List Token → Prop
  | .awaitValue opened, read => Opens opened read
  | .awaitItem opened, read =>
    opened.length < deepest ∧ ∃ before, Opens opened before ∧ read = before ++ [.openArray]
  | .awaitMember opened, read =>
    opened.length < deepest ∧ ∃ before, Opens opened before ∧ read = before ++ [.openObject]
  | .awaitName opened members, read => ReadsMembers opened members read
  | .awaitColon opened members name, read =>
    ∃ before, ReadsMembers opened members before ∧ read = before ++ [.string name]
  | .complete opened value, read =>
    ∃ before tree, Opens opened before ∧ Nests (deepest - opened.length) tree ∧
      settled tree = value ∧ read = before ++ spelling tree

theorem Progress.spelled_of_begin {opened : List Frame} {read : List Token}
    (below : Opens opened read) {next : Token} {after : Progress}
    (moved : Progress.begin opened next = some after) : after.Spelled (read ++ [next]) := by
  unfold Progress.begin at moved
  split at moved
  · cases moved
    exact ⟨read, .null, below, .null, rfl, rfl⟩
  · cases moved
    exact ⟨read, .bool _, below, .bool _, rfl, rfl⟩
  · cases moved
    exact ⟨read, .number _, below, .number _, rfl, rfl⟩
  · cases moved
    exact ⟨read, .string _, below, .string _, rfl, rfl⟩
  · split at moved
    · rename_i deeper
      cases moved
      exact ⟨deeper, read, below, rfl⟩
    · cases moved
  · split at moved
    · rename_i deeper
      cases moved
      exact ⟨deeper, read, below, rfl⟩
    · cases moved
  · cases moved

theorem itemsBefore_concat (items : List Json) (item : Json) :
    itemsBefore (items ++ [item]) = itemsBefore items ++ (spelling item ++ [.comma]) := by
  rw [itemsBefore, List.flatMap_append, List.flatMap_singleton]
  rfl

theorem membersBefore_concat (members : List (String × Json)) (name : String) (value : Json) :
    membersBefore (members ++ [(name, value)]) =
      membersBefore members ++ .string name :: .colon :: (spelling value ++ [.comma]) := by
  rw [membersBefore, List.flatMap_append, List.flatMap_singleton]
  rfl

theorem ofList_settledEach_concat (members : List (String × Json)) (name : String)
    (value : Json) :
    Dictionary.ofList (settledEach (members ++ [(name, value)])) =
      (Dictionary.ofList (settledEach members)).insert name (settled value) := by
  rw [settledEach, List.map_append, List.map_singleton, Dictionary.ofList_concat]
  rfl

theorem Progress.spelled_of_extend {opened : List Frame} {value : Json} {read : List Token}
    (spelled : Progress.Spelled (.complete opened value) read) {next : Token} {after : Progress}
    (moved : Progress.extend opened value next = some after) : after.Spelled (read ++ [next]) := by
  obtain ⟨read, tree, below, nests, rfl, rfl⟩ := spelled
  cases below with
  | nil => cases moved
  | @array outer before below deeper items each =>
      have nests : Nests (deepest - outer.length - 1) tree := nests
      have each : ∀ item ∈ items ++ [tree], Nests (deepest - outer.length - 1) item :=
        List.forall_mem_append.mpr ⟨each, List.forall_mem_singleton.mpr nests⟩
      have built : settled tree :: (items.map settled).reverse =
          ((items ++ [tree]).map settled).reverse := by
        simp
      cases next with
      | comma =>
          cases moved
          have written : before ++ .openArray :: itemsBefore items ++ spelling tree ++ [.comma] =
              before ++ .openArray :: itemsBefore (items ++ [tree]) := by
            simp [itemsBefore_concat]
          rw [written, built]
          exact .array below deeper each
      | closeArray =>
          cases moved
          refine ⟨before, .array (items ++ [tree]), below, .array (Nat.sub_pos_of_lt deeper) each,
            ?_, ?_⟩
          · rw [settled_array, built, List.reverse_reverse]
          · simp [spelling_array_concat]
      | _ => cases moved
  | @object outer before below deeper members each name =>
      have nests : Nests (deepest - outer.length - 1) tree := nests
      have each : ∀ member ∈ members ++ [(name, tree)],
          Nests (deepest - outer.length - 1) member.2 :=
        List.forall_mem_append.mpr ⟨each, List.forall_mem_singleton.mpr nests⟩
      cases next with
      | comma =>
          cases moved
          refine ⟨before, members ++ [(name, tree)], below, deeper, each,
            (ofList_settledEach_concat members name tree).symm, ?_⟩
          simp [membersBefore_concat]
      | closeObject =>
          cases moved
          refine ⟨before, .object (members ++ [(name, tree)]), below,
            .object (Nat.sub_pos_of_lt deeper) each, ?_, ?_⟩
          · rw [settled_object, ← ofList_settledEach_concat]
            rfl
          · simp [spelling_object_concat]
      | _ => cases moved

/-- A name goes on with an object. -/
theorem ReadsMembers.named {outer : List Frame} {built : Dictionary Json} {read : List Token}
    (members : ReadsMembers outer built read) (name : String) :
    Opens (.object built name :: outer) (read ++ [.string name] ++ [.colon]) := by
  obtain ⟨before, members, below, deeper, each, rfl, rfl⟩ := members
  have opens := Opens.object below deeper each name
  simpa using opens

/-- Each step of the reader keeps this up. -/
theorem Progress.Spelled.step {before after : Progress} {read : List Token}
    (spelled : before.Spelled read) {next : Token} (moved : before.step next = some after) :
    after.Spelled (read ++ [next]) := by
  unfold Progress.step at moved
  split at moved
  · exact spelled_of_begin spelled moved
  · cases moved
    obtain ⟨deeper, read, below, rfl⟩ := spelled
    refine ⟨read, .array [], below,
      .array (Nat.sub_pos_of_lt deeper) fun _ member => (nomatch member), rfl, ?_⟩
    rw [List.append_assoc]
    rfl
  · obtain ⟨deeper, read, below, rfl⟩ := spelled
    have opened : Opens (.array [] :: _) _ :=
      @Opens.array _ _ below deeper [] fun _ member => nomatch member
    exact spelled_of_begin opened moved
  · cases moved
    obtain ⟨deeper, read, below, rfl⟩ := spelled
    refine ⟨read, .object [], below,
      .object (Nat.sub_pos_of_lt deeper) fun _ member => (nomatch member), rfl, ?_⟩
    rw [List.append_assoc]
    rfl
  · cases moved
    obtain ⟨deeper, read, below, rfl⟩ := spelled
    exact ⟨read ++ [.openObject],
      ⟨read, [], below, deeper, fun _ member => (nomatch member), rfl, rfl⟩, rfl⟩
  · cases moved
  · cases moved
    exact ⟨read, spelled, rfl⟩
  · cases moved
  · cases moved
    obtain ⟨read, members, rfl⟩ := spelled
    exact members.named _
  · cases moved
  · exact spelled_of_extend spelled moved

theorem Progress.Spelled.foldlM {before after : Progress} {read : List Token}
    (spelled : before.Spelled read) {rest : List Token}
    (moved : rest.foldlM Progress.step before = some after) : after.Spelled (read ++ rest) := by
  induction rest generalizing before read with
  | nil =>
      cases moved
      rwa [List.append_nil]
  | cons next rest ih =>
      obtain ⟨middle, first, moved⟩ := Option.bind_eq_some_iff.mp moved
      rw [List.append_cons]
      exact ih (spelled.step first) moved

/-- **What is read is spelled by a tree**, and each tree that is not nested too deeply is read. -/
theorem ofTokens_eq_some_iff {read : List Token} {value : Json} :
    ofTokens read = some value ↔
      ∃ tree, spelling tree = read ∧ Nests deepest tree ∧ settled tree = value := by
  constructor
  · intro found
    obtain ⟨last, moved, result⟩ := Option.bind_eq_some_iff.mp found
    have start : Progress.Spelled (.awaitValue []) [] := Opens.nil
    have spelled := start.foldlM moved
    unfold Progress.result at result
    split at result
    · cases result
      obtain ⟨before, tree, below, nests, settles, written⟩ := spelled
      cases below
      exact ⟨tree, written.symm, nests, settles⟩
    · cases result
  · rintro ⟨tree, rfl, nests, rfl⟩
    exact ofTokens_spelling nests

end Runbook.Json
