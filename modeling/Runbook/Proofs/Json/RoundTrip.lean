import Runbook.Proofs.Json.Reader
import Runbook.Proofs.Json.Token

/-!
# Compact texts that are read back

The compact text of a value that keeps to the limits of the reader, and that holds no number with a
fraction, is read back as the same value (`Json.ofChars_chars`).
-/

namespace Runbook

/-- Whether a number is an integer. -/
def Number.isInt : Number → Bool
  | .int _ => true
  | .float _ => false

namespace JsonTree

variable {α : Type}

mutual

/-- The numbers of a tree, from left to right. -/
def numbers : JsonTree α → List Number
  | .number n => [n]
  | .array items => numbersOfItems items
  | .object members => numbersOfMembers members
  | _ => []

/-- The numbers of a list of trees. -/
def numbersOfItems : List (JsonTree α) → List Number
  | [] => []
  | item :: items => numbers item ++ numbersOfItems items

/-- The numbers of the values of an object. -/
def numbersOfMembers : List (String × JsonTree α) → List Number
  | [] => []
  | (_, value) :: members => numbers value ++ numbersOfMembers members

end

/-- All numbers of the tree are integers. -/
def Integral (tree : JsonTree α) : Prop :=
  ∀ number ∈ tree.numbers, number.isInt = true

instance (tree : JsonTree α) : Decidable tree.Integral :=
  inferInstanceAs (Decidable (∀ number ∈ tree.numbers, number.isInt = true))

theorem Integral.exists_int {number : Number} (integral : Integral (.number number : JsonTree α)) :
    ∃ n, number = .int n := by
  have integer := integral number (List.mem_singleton_self _)
  cases number with
  | int n => exact ⟨n, rfl⟩
  | float x => cases integer

theorem integral_array_iff {items : List (JsonTree α)} :
    Integral (.array items) ↔ ∀ item ∈ items, item.Integral := by
  unfold Integral
  rw [numbers]
  induction items with
  | nil => simp [numbersOfItems]
  | cons item items ih => rw [numbersOfItems, List.forall_mem_append, List.forall_mem_cons, ih]

theorem integral_object_iff {members : List (String × JsonTree α)} :
    Integral (.object members) ↔ ∀ member ∈ members, member.2.Integral := by
  unfold Integral
  rw [numbers]
  induction members with
  | nil => simp [numbersOfMembers]
  | cons member members ih =>
      rw [numbersOfMembers, List.forall_mem_append, List.forall_mem_cons, ih]

end JsonTree

namespace Json

/-- Go on reading a text. -/
def readFrom (progress : Progress) (chars : List Char) : Option Json :=
  (tokens chars).bind fun read => (read.foldlM Progress.step progress).bind Progress.result

theorem ofChars_eq_readFrom (chars : List Char) : ofChars chars = readFrom (.awaitValue []) chars :=
  rfl

theorem readFrom_nil (progress : Progress) : readFrom progress [] = progress.result := by
  rw [readFrom, tokens]
  rfl

/-- No token begins with a character that may stand between tokens. -/
theorem token_eq_none_of_isSpace {c : Char} (space : isSpace c = true) (rest : List Char) :
    token (c :: rest) = none := by
  simp only [isSpace, Bool.or_eq_true, beq_iff_eq] at space
  rcases space with ((rfl | rfl) | rfl) | rfl <;> rfl

theorem tokens_of_token {chars behind : List Char} {first : Token}
    (found : token chars = some (first, behind)) :
    tokens chars = (tokens behind).map (first :: ·) := by
  cases chars with
  | nil => cases found
  | cons c rest =>
      have notSpace : ¬ isSpace c = true := by
        intro space
        rw [token_eq_none_of_isSpace space] at found
        cases found
      rw [tokens, if_neg notSpace]
      split
      · rename_i failed
        rw [found] at failed
        cases failed
      · rename_i same
        rw [found] at same
        cases same
        rfl

/-- Reading goes on behind a token. -/
theorem readFrom_of_token {chars behind : List Char} {first : Token}
    (found : token chars = some (first, behind)) (progress : Progress) :
    readFrom progress chars = (progress.step first).bind fun next => readFrom next behind := by
  rw [readFrom, tokens_of_token found]
  cases later : tokens behind with
  | none =>
      cases progress.step first with
      | none => rfl
      | some next =>
          rw [Option.bind_some, readFrom, later]
          rfl
  | some read =>
      rw [Option.map_some, Option.bind_some, List.foldlM_cons, Option.bind_eq_bind,
        Option.bind_assoc]
      cases progress.step first with
      | none => rfl
      | some next => rw [Option.bind_some, Option.bind_some, readFrom, later, Option.bind_some]

/-- Reading goes on behind a token that may stand there. -/
theorem readFrom_of_step {chars behind : List Char} {first : Token}
    (found : token chars = some (first, behind)) {progress next : Progress}
    (step : progress.step first = some next) : readFrom progress chars = readFrom next behind := by
  rw [readFrom_of_token found, step, Option.bind_some]

/-- The text of a value begins with a token, but not with the end of an array. -/
theorem exists_token_chars {room : Nat} {value : Json} (readable : Readable room value)
    (integral : value.Integral) {rest : List Char} (delimited : Delimited rest) :
    ∃ first behind, token (chars value ++ rest) = some (first, behind) ∧ first ≠ .closeArray := by
  cases readable with
  | null => exact ⟨.null, rest, rfl, Token.noConfusion⟩
  | bool b => cases b <;> exact ⟨.bool _, rest, rfl, Token.noConfusion⟩
  | @number _ number fits =>
      obtain ⟨n, rfl⟩ := integral.exists_int
      exact ⟨.number (.int n), rest, token_intChars fits.1 fits.2 delimited, Token.noConfusion⟩
  | string text => exact ⟨.string text, rest, token_quote text rest, Token.noConfusion⟩
  | @array _ items _ _ =>
      cases items with
      | nil => exact ⟨.openArray, ']' :: rest, rfl, Token.noConfusion⟩
      | cons item items => exact ⟨.openArray, _, rfl, Token.noConfusion⟩
  | @object _ members _ _ _ =>
      cases members with
      | nil => exact ⟨.openObject, '\x7d' :: rest, rfl, Token.noConfusion⟩
      | cons member members => exact ⟨.openObject, _, rfl, Token.noConfusion⟩

/-- In front of its first item, an array that has been opened is read as one that goes on. -/
theorem readFrom_awaitItem {opened : List Frame} {chars behind : List Char} {first : Token}
    (found : token chars = some (first, behind)) (other : first ≠ .closeArray) :
    readFrom (.awaitItem opened) chars = readFrom (.awaitValue (.array [] :: opened)) chars := by
  rw [readFrom_of_token found, readFrom_of_token found, Progress.step, Progress.step]
  exact other

/-- The text of a value is read back wherever containers may be nested as deeply as the room
says. -/
def ReadsBack (room : Nat) (value : Json) : Prop :=
  ∀ (opened : List Frame) (rest : List Char), opened.length + room ≤ deepest → Delimited rest →
    readFrom (.awaitValue opened) (chars value ++ rest) = readFrom (.complete opened value) rest

section Containers

variable {room : Nat} {outer : List Frame}

theorem delimited_itemsChars (items : List Json) (rest : List Char) :
    Delimited (itemsChars items ++ rest) := by
  cases items with
  | nil => exact .closeArray rest
  | cons item items => exact .comma _

theorem delimited_membersChars (members : List (String × Json)) (rest : List Char) :
    Delimited (membersChars members ++ rest) := by
  cases members with
  | nil => exact .closeObject rest
  | cons member members => exact .comma _

/-- An array is read from behind one of its items to its end. -/
theorem readFrom_itemsChars {items : List Json} (each : ∀ item ∈ items, ReadsBack room item)
    (fits : outer.length + 1 + room ≤ deepest) (done : List Json) (last : Json)
    (rest : List Char) :
    readFrom (.complete (.array done :: outer) last) (itemsChars items ++ rest) =
      readFrom (.complete outer (.array (done.reverse ++ last :: items))) rest := by
  induction items generalizing done last with
  | nil =>
      rw [← List.reverse_cons]
      exact readFrom_of_step rfl rfl
  | cons item items ih =>
      obtain ⟨first, later⟩ := List.forall_mem_cons.mp each
      calc readFrom (.complete (.array done :: outer) last) (itemsChars (item :: items) ++ rest)
        _ = readFrom (.awaitValue (.array (last :: done) :: outer))
              (chars item ++ (itemsChars items ++ rest)) := by
            rw [itemsChars, List.cons_append, List.append_assoc]
            exact readFrom_of_step rfl rfl
        _ = readFrom (.complete (.array (last :: done) :: outer) item)
              (itemsChars items ++ rest) := first _ _ fits (delimited_itemsChars items rest)
        _ = readFrom (.complete outer (.array (done.reverse ++ last :: item :: items))) rest := by
            rw [ih later, List.reverse_cons, List.append_assoc]
            rfl

/-- A member of an object is read as its name and its value. -/
theorem readFrom_member {name : String} {value : Json} (reads : ReadsBack room value)
    (fits : outer.length + 1 + room ≤ deepest) {members : Dictionary Json} {progress : Progress}
    (named : progress.step (.string name) = some (.awaitColon outer members name))
    {rest : List Char} (delimited : Delimited rest) :
    readFrom progress (quote name ++ ':' :: (chars value ++ rest)) =
      readFrom (.complete (.object members name :: outer) value) rest :=
  calc readFrom progress (quote name ++ ':' :: (chars value ++ rest))
    _ = readFrom (.awaitColon outer members name) (':' :: (chars value ++ rest)) :=
        readFrom_of_step (token_quote _ _) named
    _ = readFrom (.awaitValue (.object members name :: outer)) (chars value ++ rest) :=
        readFrom_of_step rfl rfl
    _ = readFrom (.complete (.object members name :: outer) value) rest :=
        reads _ _ fits delimited

/-- An object is read from behind one of its members to its end. -/
theorem readFrom_membersChars {members : List (String × Json)}
    (each : ∀ member ∈ members, ReadsBack room member.2)
    (fits : outer.length + 1 + room ≤ deepest) {done : Dictionary Json} {name : String}
    {last : Json} (sorted : Dictionary.Sorted (done ++ (name, last) :: members))
    (rest : List Char) :
    readFrom (.complete (.object done name :: outer) last) (membersChars members ++ rest) =
      readFrom (.complete outer (.object (done ++ (name, last) :: members))) rest := by
  -- Names come in order, so each member is inserted behind all others.
  have behind : ∀ entry ∈ done, entry.1 < name := fun entry member =>
    (List.pairwise_append.mp sorted).2.2 entry member _ List.mem_cons_self
  induction members generalizing done name last with
  | nil =>
      rw [← Dictionary.insert_eq_append last behind]
      exact readFrom_of_step rfl rfl
  | cons member members ih =>
      obtain ⟨next, value⟩ := member
      obtain ⟨first, later⟩ := List.forall_mem_cons.mp each
      have split : done ++ (name, last) :: (next, value) :: members =
          (done ++ [(name, last)]) ++ (next, value) :: members := by
        rw [List.append_assoc]
        rfl
      rw [split] at sorted
      calc readFrom (.complete (.object done name :: outer) last)
            (membersChars ((next, value) :: members) ++ rest)
        _ = readFrom (.awaitName outer (done ++ [(name, last)]))
              (quote next ++ ':' :: (chars value ++ (membersChars members ++ rest))) := by
            rw [membersChars, List.cons_append, List.append_assoc, List.cons_append,
              List.append_assoc, ← Dictionary.insert_eq_append last behind]
            exact readFrom_of_step rfl rfl
        _ = readFrom (.complete (.object (done ++ [(name, last)]) next :: outer) value)
              (membersChars members ++ rest) :=
            readFrom_member first fits rfl (delimited_membersChars members rest)
        _ = readFrom (.complete outer (.object (done ++ (name, last) :: (next, value) :: members)))
              rest := by
            rw [split]
            exact ih later sorted fun entry member =>
              (List.pairwise_append.mp sorted).2.2 entry member _ List.mem_cons_self

end Containers

/-- The text of an array is read back if those of its items are. -/
theorem readsBack_array {room : Nat} (inside : 0 < room) {items : List Json}
    (each : ∀ item ∈ items, ReadsBack (room - 1) item)
    (begins : ∀ item ∈ items, ∀ rest, Delimited rest →
      ∃ first behind, token (chars item ++ rest) = some (first, behind) ∧ first ≠ .closeArray) :
    ReadsBack room (.array items) := by
  intro opened rest fits delimited
  have deeper : opened.length < deepest := by omega
  have opens : Progress.step (.awaitValue opened) .openArray = some (.awaitItem opened) :=
    if_pos deeper
  cases items with
  | nil =>
      calc readFrom (.awaitValue opened) ('[' :: ']' :: rest)
        _ = readFrom (.awaitItem opened) (']' :: rest) := readFrom_of_step rfl opens
        _ = readFrom (.complete opened (.array [])) rest := readFrom_of_step rfl rfl
  | cons item items =>
      obtain ⟨first, later⟩ := List.forall_mem_cons.mp each
      have next := delimited_itemsChars items rest
      obtain ⟨token, behind, found, other⟩ := begins item List.mem_cons_self _ next
      have room : opened.length + 1 + (room - 1) ≤ deepest := by omega
      calc readFrom (.awaitValue opened) (chars (.array (item :: items)) ++ rest)
        _ = readFrom (.awaitItem opened) (chars item ++ (itemsChars items ++ rest)) := by
            rw [chars, List.cons_append, List.append_assoc]
            exact readFrom_of_step rfl opens
        _ = readFrom (.awaitValue (.array [] :: opened))
              (chars item ++ (itemsChars items ++ rest)) := readFrom_awaitItem found other
        _ = readFrom (.complete (.array [] :: opened) item) (itemsChars items ++ rest) :=
            first _ _ room next
        _ = readFrom (.complete opened (.array (item :: items))) rest :=
            readFrom_itemsChars later room [] item rest

/-- The text of an object is read back if those of its members are, whatever follows it. -/
theorem readFrom_object {room : Nat} (inside : 0 < room) {members : List (String × Json)}
    (sorted : Dictionary.Sorted members)
    (each : ∀ member ∈ members, ReadsBack (room - 1) member.2) {opened : List Frame}
    (fits : opened.length + room ≤ deepest) (rest : List Char) :
    readFrom (.awaitValue opened) (chars (.object members) ++ rest) =
      readFrom (.complete opened (.object members)) rest := by
  have deeper : opened.length < deepest := by omega
  have opens : Progress.step (.awaitValue opened) .openObject = some (.awaitMember opened) :=
    if_pos deeper
  cases members with
  | nil =>
      calc readFrom (.awaitValue opened) ('\x7b' :: '\x7d' :: rest)
        _ = readFrom (.awaitMember opened) ('\x7d' :: rest) := readFrom_of_step rfl opens
        _ = readFrom (.complete opened (.object [])) rest := readFrom_of_step rfl rfl
  | cons member members =>
      obtain ⟨name, value⟩ := member
      obtain ⟨first, later⟩ := List.forall_mem_cons.mp each
      have room : opened.length + 1 + (room - 1) ≤ deepest := by omega
      calc readFrom (.awaitValue opened) (chars (.object ((name, value) :: members)) ++ rest)
        _ = readFrom (.awaitMember opened)
              (quote name ++ ':' :: (chars value ++ (membersChars members ++ rest))) := by
            rw [chars, List.cons_append, List.append_assoc, List.cons_append, List.append_assoc]
            exact readFrom_of_step rfl opens
        _ = readFrom (.complete (.object [] name :: opened) value)
              (membersChars members ++ rest) :=
            readFrom_member first room rfl (delimited_membersChars members rest)
        _ = readFrom (.complete opened (.object ((name, value) :: members))) rest :=
            readFrom_membersChars later room sorted rest

/-- The text of a value that keeps to the limits is read back. -/
theorem Readable.readsBack {room : Nat} {value : Json} (readable : Readable room value)
    (integral : value.Integral) : ReadsBack room value := by
  -- By what the reader can give: each case is one way to begin a value.
  induction readable with
  | null => exact fun opened rest _ _ => readFrom_of_step rfl rfl
  | bool b => cases b <;> exact fun opened rest _ _ => readFrom_of_step rfl rfl
  | @number _ number fits =>
      obtain ⟨n, rfl⟩ := integral.exists_int
      exact fun opened rest _ delimited =>
        readFrom_of_step (token_intChars fits.1 fits.2 delimited) rfl
  | string text => exact fun opened rest _ _ => readFrom_of_step (token_quote text rest) rfl
  | array inside each ih =>
      have integers := JsonTree.integral_array_iff.mp integral
      exact readsBack_array inside (fun item member => ih item member (integers item member))
        fun item member rest => exists_token_chars (each item member) (integers item member)
  | object inside sorted each ih =>
      have integers := JsonTree.integral_object_iff.mp integral
      exact fun opened rest fits _ => readFrom_object inside sorted
        (fun member listed => ih member listed (integers member listed)) fits rest

/-- **Compact texts are read back.** -/
theorem ofChars_chars {value : Json} (readable : Readable deepest value)
    (integral : value.Integral) : ofChars (chars value) = some value :=
  calc ofChars (chars value)
    _ = readFrom (.awaitValue []) (chars value ++ []) := by
        rw [ofChars_eq_readFrom, List.append_nil]
    _ = readFrom (.complete [] value) [] :=
        readable.readsBack integral [] [] (Nat.le_of_eq (Nat.zero_add _)) .nil
    _ = some value := readFrom_nil _

end Json

end Runbook
