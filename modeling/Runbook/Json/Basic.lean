import Runbook.Decimal.Binary64
import Runbook.Dictionary

/-!
# JSON values

The tree that documents decode to, and that a job's variables are kept in.
-/

namespace Runbook

/-- A number is an integer of 64 bits, signed or unsigned, or a floating-point number. -/
inductive Number where
  | int (value : Int)
  | float (value : Decimal.Binary64)
deriving DecidableEq, Repr, Inhabited

/-- The least and greatest integers that are kept exactly. -/
def Number.leastInt : Int := -(2 ^ 63)

def Number.greatestInt : Int := 2 ^ 64 - 1

/-- A tree of the JSON format with texts of type `α`. The members of an object stand in increasing
order of their names. -/
inductive JsonTree (α : Type) where
  | null
  | bool (value : Bool)
  | number (value : Number)
  | string (value : α)
  | array (items : List (JsonTree α))
  | object (members : List (String × JsonTree α))
deriving Repr, Inhabited

/-- A JSON value. -/
abbrev Json := JsonTree String

namespace JsonTree

variable {α β ε : Type}

mutual

/-- Equality of values can be decided. -/
def decEq [DecidableEq α] : (left right : JsonTree α) → Decidable (left = right)
  | .null, right => by
    cases right
    case null => exact isTrue rfl
    all_goals exact isFalse (by simp)
  | .bool a, right => by
    cases right
    case bool b => exact decidable_of_iff (a = b) (by simp)
    all_goals exact isFalse (by simp)
  | .number a, right => by
    cases right
    case number b => exact decidable_of_iff (a = b) (by simp)
    all_goals exact isFalse (by simp)
  | .string a, right => by
    cases right
    case string b => exact decidable_of_iff (a = b) (by simp)
    all_goals exact isFalse (by simp)
  | .array a, right => by
    cases right
    case array b => exact @decidable_of_iff _ (a = b) (by simp) (decEqList a b)
    all_goals exact isFalse (by simp)
  | .object a, right => by
    cases right
    case object b => exact @decidable_of_iff _ (a = b) (by simp) (decEqMembers a b)
    all_goals exact isFalse (by simp)

def decEqList [DecidableEq α] : (left right : List (JsonTree α)) → Decidable (left = right)
  | [], [] => isTrue rfl
  | [], _ :: _ => isFalse (by simp)
  | _ :: _, [] => isFalse (by simp)
  | a :: as, b :: bs =>
    match decEq a b, decEqList as bs with
    | isTrue head, isTrue tail => isTrue (by rw [head, tail])
    | isFalse head, _ => isFalse (fun same => head (List.cons.inj same).1)
    | _, isFalse tail => isFalse (fun same => tail (List.cons.inj same).2)

def decEqMembers [DecidableEq α] :
    (left right : List (String × JsonTree α)) → Decidable (left = right)
  | [], [] => isTrue rfl
  | [], _ :: _ => isFalse (by simp)
  | _ :: _, [] => isFalse (by simp)
  | (j, a) :: as, (k, b) :: bs =>
    match decEq a b, decEqMembers as bs with
    | isTrue head, isTrue tail =>
      if same : j = k then isTrue (by rw [head, tail, same])
      else isFalse (fun equal => same (Prod.mk.inj (List.cons.inj equal).1).1)
    | isFalse head, _ => isFalse (fun equal => head (Prod.mk.inj (List.cons.inj equal).1).2)
    | _, isFalse tail => isFalse (fun equal => tail (List.cons.inj equal).2)

end

instance [DecidableEq α] : DecidableEq (JsonTree α) := decEq

mutual

/-- Apply a function that may fail to each text, from left to right. Names of members are no
texts. -/
def traverse (f : α → Except ε β) : JsonTree α → Except ε (JsonTree β)
  | .null => .ok .null
  | .bool b => .ok (.bool b)
  | .number n => .ok (.number n)
  | .string s => (f s).map .string
  | .array items => (traverseItems f items).map .array
  | .object members => (traverseMembers f members).map .object

/-- Apply a function to each text of a list of trees. -/
def traverseItems (f : α → Except ε β) : List (JsonTree α) → Except ε (List (JsonTree β))
  | [] => .ok []
  | item :: items => do return (← traverse f item) :: (← traverseItems f items)

/-- Apply a function to each text of the values of an object. -/
def traverseMembers (f : α → Except ε β) :
    List (String × JsonTree α) → Except ε (List (String × JsonTree β))
  | [] => .ok []
  | (name, value) :: members => do
    return (name, ← traverse f value) :: (← traverseMembers f members)

end

mutual

/-- The texts of a tree, from left to right. -/
def leaves : JsonTree α → List α
  | .string s => [s]
  | .array items => leavesOfItems items
  | .object members => leavesOfMembers members
  | _ => []

/-- The texts of a list of trees. -/
def leavesOfItems : List (JsonTree α) → List α
  | [] => []
  | item :: items => leaves item ++ leavesOfItems items

/-- The texts of the values of an object. -/
def leavesOfMembers : List (String × JsonTree α) → List α
  | [] => []
  | (_, value) :: members => leaves value ++ leavesOfMembers members

end

mutual

/-- The tree with every zero written without a sign. -/
def withoutZeroSigns : JsonTree α → JsonTree α
  | .number (.float x) => .number (.float x.withoutZeroSign)
  | .array items => .array (itemsWithoutZeroSigns items)
  | .object members => .object (membersWithoutZeroSigns members)
  | other => other

/-- A list of trees with every zero written without a sign. -/
def itemsWithoutZeroSigns : List (JsonTree α) → List (JsonTree α)
  | [] => []
  | item :: items => withoutZeroSigns item :: itemsWithoutZeroSigns items

/-- The values of an object with every zero written without a sign. -/
def membersWithoutZeroSigns : List (String × JsonTree α) → List (String × JsonTree α)
  | [] => []
  | (name, value) :: members =>
    (name, withoutZeroSigns value) :: membersWithoutZeroSigns members

end

/-- The member of an object with a given name. -/
def member? : JsonTree α → String → Option (JsonTree α)
  | .object members, name => Dictionary.get? members name
  | _, _ => none

/-- Whether a tree is an object. -/
def isObject : JsonTree α → Bool
  | .object _ => true
  | _ => false

/-- Whether a tree is an object or an array. -/
def isContainer : JsonTree α → Bool
  | .object _ => true
  | .array _ => true
  | _ => false

end JsonTree

end Runbook
