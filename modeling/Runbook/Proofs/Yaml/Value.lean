import Runbook.Proofs.Dictionary
import Runbook.Proofs.Yaml.Assembly
import Runbook.Proofs.Yaml.Reader

/-!
# The value of a flow mapping

The node of an object has the object as its value (`Yaml.documentValue_flowNode`), so that the
compact text of an object in front of a comment is read as the object (`Yaml.ofChars_object`).
-/

namespace Runbook.Yaml

open Json (Portable chars intChars)
open Decimal (digit? foldlM_digit? splitSign)

/-! ## Integers -/

/-- Decimal digits are read as they are elsewhere. -/
theorem digitOf_ten (c : Char) : digitOf 10 c = digit? c := by
  unfold digitOf digit?
  split_ifs with digit lower upper
  · have below : c.toNat ≤ 57 := digit.2
    rw [Option.filter_some, if_pos (decide_eq_true (by omega))]
  · have above : 97 ≤ c.toNat := lower.1
    rw [Option.filter_some, if_neg]
    simp only [decide_eq_true_eq]
    omega
  · have above : 65 ≤ c.toNat := upper.1
    rw [Option.filter_some, if_neg]
    simp only [decide_eq_true_eq]
    omega
  · rfl

theorem magnitude_toDigits (n : Nat) : magnitude 10 (Nat.toDigits 10 n) = some n := by
  have given : (Nat.toDigits 10 n).isEmpty = false :=
    List.isEmpty_eq_false_iff.mpr Nat.toDigits_ne_nil
  have all : ∀ c ∈ Nat.toDigits 10 n, c.isDigit = true := fun _ => Decimal.isDigit_of_mem_toDigits
  have digits := foldlM_digit? all 0
  rw [Nat.ofDigitChars_ten_toDigits] at digits
  rw [magnitude, given, if_neg Bool.false_ne_true]
  simp only [digitOf_ten]
  exact digits

theorem splitSign_toDigits (n : Nat) :
    splitSign (Nat.toDigits 10 n) = (false, Nat.toDigits 10 n) := by
  have digits : ∀ c ∈ Nat.toDigits 10 n, c.isDigit = true :=
    fun _ => Decimal.isDigit_of_mem_toDigits
  unfold splitSign
  split
  · rename_i listed
    cases digits '-' (listed ▸ List.mem_cons_self)
  · rename_i listed
    cases digits '+' (listed ▸ List.mem_cons_self)
  · rfl

theorem unsignedInteger_toDigits (n : Nat) : unsignedInteger (Nat.toDigits 10 n) = some n := by
  rcases Nat.eq_zero_or_pos n with rfl | positive
  · decide
  · have leading := Json.head?_toDigits_ne positive
    have other (letter : Char) (digits : List Char) :
        Nat.toDigits 10 n ≠ '0' :: letter :: digits := by
      intro same
      rw [same] at leading
      exact leading rfl
    have plain : hasLeadingZero (Nat.toDigits 10 n) = false := by
      rw [hasLeadingZero, splitSign_toDigits]
      split
      · rename_i listed
        exact absurd listed (other _ _)
      · rfl
    rw [unsignedInteger, plain, if_neg Bool.false_ne_true, magnitude_toDigits]
    · exact fun digits => other 'x' digits
    · exact fun digits => other 'o' digits
    · exact fun digits => other 'b' digits

theorem readInteger_intChars {n : Int} (least : Number.leastInt ≤ n)
    (greatest : n ≤ Number.greatestInt) : readInteger (intChars n) = .value n := by
  unfold Number.leastInt at least
  unfold Number.greatestInt at greatest
  rw [intChars]
  split_ifs with negative
  · have inside : n.natAbs ≤ 2 ^ 63 := by omega
    have same : -(n.natAbs : Int) = n := by omega
    rw [readInteger, splitSign]
    simp only [unsignedInteger_toDigits, ↓reduceIte, inside, same]
  · have inside : n.natAbs < 2 ^ 64 := by omega
    have same : (n.natAbs : Int) = n := by omega
    rw [readInteger, splitSign_toDigits]
    simp only [unsignedInteger_toDigits, Bool.false_eq_true, ↓reduceIte, inside, same]

/-- The words that stand for null or for a truth value. -/
def words : List String :=
  ["null", "Null", "NULL", "~", "true", "True", "TRUE", "false", "False", "FALSE"]

/-- An integer is none of the words. -/
theorem toList_ne_intChars (n : Int) : ∀ word ∈ words, word.toList ≠ intChars n := by
  have number : (intChars n).head?.any (fun c => c != '-' && !Json.isDigit c) = false := by
    rw [intChars]
    split_ifs
    · rfl
    · cases digits : Nat.toDigits 10 n.natAbs with
      | nil => rfl
      | cons first more =>
          have digit := Json.isDigit_of_mem_toDigits (digits ▸ List.mem_cons_self)
          simp [digit]
  have apart : ∀ word ∈ words, word.toList.head?.any (fun c => c != '-' && !Json.isDigit c) := by
    decide
  intro word listed same
  have letter := apart word listed
  rw [same, number] at letter
  cases letter

theorem plainValue_intChars {n : Int} (least : Number.leastInt ≤ n)
    (greatest : n ≤ Number.greatestInt) : plainValue (intChars n) = some (.number (.int n)) := by
  have apart := toList_ne_intChars n
  simp only [words, List.forall_mem_cons] at apart
  have notNull : isNullWord (intChars n) = false := by
    simp only [isNullWord, List.any_cons, List.any_nil, beq_eq_false_iff_ne.mpr, apart, ne_eq,
      not_false_eq_true, Bool.or_false]
  have notBool : boolWord (intChars n) = none := by
    simp only [boolWord, List.any_cons, List.any_nil, beq_eq_false_iff_ne.mpr, apart, ne_eq,
      not_false_eq_true, Bool.or_false, Bool.false_eq_true, ↓reduceIte]
  have given : (intChars n).isEmpty = false := by
    obtain ⟨first, more, written, -⟩ := Json.exists_intChars_eq n
    rw [written]
    rfl
  rw [plainValue, given, notNull, notBool, readInteger_intChars least greatest]
  rfl

/-! ## Nodes -/

mutual

/-- Nodes without anchors stay as they are when anchors are numbered. -/
theorem numberNode_flowNode : (value : Json) → numberNode (flowNode value) = pure (flowNode value)
  | .null => rfl
  | .bool _ => rfl
  | .number _ => rfl
  | .string _ => rfl
  | .array items => by
    rw [flowNode, numberNode, numberItems_flowItems items]
    rfl
  | .object members => by
    rw [flowNode, numberNode, numberEntries_flowEntries members]
    rfl

theorem numberItems_flowItems : (items : List Json) →
    numberItems (flowItems items) = pure (flowItems items)
  | [] => rfl
  | item :: items => by
    rw [flowItems, numberItems, numberNode_flowNode item, numberItems_flowItems items]
    rfl

theorem numberEntries_flowEntries : (members : List (String × Json)) →
    numberEntries (flowEntries members) = pure (flowEntries members)
  | [] => rfl
  | (name, value) :: members => by
    rw [flowEntries, numberEntries, numberNode_flowNode value, numberEntries_flowEntries members]
    rfl

end

mutual

/-- No node of a value has an anchor. -/
theorem anchored_flowNode : (value : Json) → anchored (flowNode value) = []
  | .null => rfl
  | .bool _ => rfl
  | .number _ => rfl
  | .string _ => rfl
  | .array items => by
    rw [flowNode, anchored, anchoredItems_flowItems items]
    rfl
  | .object members => by
    rw [flowNode, anchored, anchoredEntries_flowEntries members]
    rfl

theorem anchoredItems_flowItems : (items : List Json) → anchoredItems (flowItems items) = []
  | [] => rfl
  | item :: items => by
    rw [flowItems, anchoredItems, anchored_flowNode item, anchoredItems_flowItems items]
    rfl

theorem anchoredEntries_flowEntries : (members : List (String × Json)) →
    anchoredEntries (flowEntries members) = []
  | [] => rfl
  | (name, value) :: members => by
    rw [flowEntries, anchoredEntries, anchored_flowNode value, anchoredEntries_flowEntries members]
    rfl

end

section Values

variable {targets : Targets} {depth : Nat}

theorem nodeValue_scalar {text : List Char} {plain : Bool} {value : Json}
    (read : scalarValue none text plain = some value) :
    nodeValue targets depth (.scalar .absent text plain) = pure value := by
  cases depth with
  | zero =>
      rw [nodeValue_zero]
      simp only [follow, pure_bind, Properties.absent, read]
      rfl
  | succ depth =>
      rw [nodeValue_succ]
      simp only [follow, pure_bind, Properties.absent, read]
      rfl

theorem mapM_flowItems {items : List Json}
    (each : ∀ item ∈ items, nodeValue targets depth (flowNode item) = pure item) :
    (flowItems items).mapM (nodeValue targets depth) = pure items := by
  induction items with
  | nil => rfl
  | cons item items ih =>
      obtain ⟨first, later⟩ := List.forall_mem_cons.mp each
      rw [flowItems, List.mapM_cons, first, pure_bind, ih later, pure_bind]

/-- Members are read one by one, if each of them is read. -/
theorem mapM_flowEntries {members : List (String × Json)}
    {read : NumberedNode × NumberedNode → StateT Nat Option (String × Json)}
    (each : ∀ member ∈ members,
      read (.scalar .absent member.1.toList false, flowNode member.2) = pure member) :
    (flowEntries members).mapM read = pure members := by
  induction members with
  | nil => rfl
  | cons member members ih =>
      obtain ⟨first, later⟩ := List.forall_mem_cons.mp each
      rw [flowEntries, List.mapM_cons, first, pure_bind, ih later, pure_bind]

/-- The value of the node of a value is that value. -/
theorem nodeValue_flowNode {room : Nat} {value : Json} (portable : Portable room value)
    (inside : room ≤ depth) : nodeValue targets depth (flowNode value) = pure value := by
  induction portable generalizing depth with
  | null => exact nodeValue_scalar (by decide)
  | bool value => cases value <;> exact nodeValue_scalar (by decide)
  | int least greatest => exact nodeValue_scalar (plainValue_intChars least greatest)
  | @string _ text =>
      have read : scalarValue none text.toList false = some (.string text) := by
        rw [scalarValue, if_neg Bool.false_ne_true, String.ofList_toList]
      exact nodeValue_scalar read
  | @array _ items deep _ ih =>
      obtain ⟨depth, rfl⟩ := Nat.exists_eq_succ_of_ne_zero (show depth ≠ 0 by omega)
      have read : (flowItems items).mapM (nodeValue targets depth) = pure items :=
        mapM_flowItems fun item member => ih item member (by omega)
      rw [flowNode, nodeValue_succ]
      simp only [follow, pure_bind, checkTag, Properties.absent, read]
      rfl
  | @object _ members deep sorted _ _ ih =>
      obtain ⟨depth, rfl⟩ := Nat.exists_eq_succ_of_ne_zero (show depth ≠ 0 by omega)
      have value : ∀ member ∈ members,
          nodeValue targets depth (flowNode member.2) = pure member.2 :=
        fun member listed => ih member listed (by omega)
      rw [flowNode, nodeValue_succ]
      simp only [follow, pure_bind, checkTag, Properties.absent]
      rw [mapM_flowEntries]
      · rw [pure_bind, Dictionary.ofList_eq_self sorted]
        rfl
      · intro member listed
        simp only [keyName, follow, pure_bind, value member listed, String.ofList_toList]

end Values

/-! ## Documents -/

theorem documentValue_flowNode {value : Json} (portable : Portable Json.deepest value) :
    documentValue (flowNode value) = some value := by
  have numbered : (numberNode (flowNode value)).run [] = some (flowNode value, []) := by
    rw [numberNode_flowNode]
    rfl
  have read (targets : Targets) : nodeValue targets deepest (flowNode value) = pure value :=
    nodeValue_flowNode portable (by decide)
  rw [documentValue, numbered, Option.bind_eq_bind, Option.bind_some]
  dsimp only
  rw [anchored_flowNode, read]
  rfl

/-- **The compact text of an object, in front of a comment, is read as the object.** -/
theorem ofChars_object {members : List (String × Json)}
    (portable : Portable Json.deepest (.object members)) {line : List Char}
    (comment : IsComment line) :
    ofChars (chars (.object members) ++ '\n' :: line) = some (.object members) := by
  rw [ofChars, tokens_object portable comment, Option.bind_eq_bind, Option.bind_some,
    document_flowTokens portable]
  exact documentValue_flowNode portable

end Runbook.Yaml
