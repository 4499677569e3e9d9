import Runbook.Decimal.Reading
import Runbook.Json.Basic
import Runbook.Text.Utf8
import Runbook.Yaml.Assembly
import Runbook.Yaml.Lexer

/-!
# Reading YAML

The value of a document, and the values of its scalars.
-/

/-! ## Values of scalars

A plain scalar is null, a truth value or a number if it is spelled like one, and text otherwise.
Quotes make a scalar text, and a tag of the core schema asks for one kind of value. -/

namespace Runbook.Yaml

open Decimal

/-- The spellings of null. -/
def isNullWord (text : List Char) : Bool :=
  ["null", "Null", "NULL", "~"].any (·.toList == text)

/-- The truth value that a word spells. -/
def boolWord (text : List Char) : Option Bool :=
  if ["true", "True", "TRUE"].any (·.toList == text) then some true
  else if ["false", "False", "FALSE"].any (·.toList == text) then some false
  else none

/-- The value of a digit in a base up to 16. -/
def digitOf (base : Nat) (c : Char) : Option Nat :=
  let value :=
    if '0' ≤ c ∧ c ≤ '9' then some (c.toNat - 48)
    else if 'a' ≤ c ∧ c ≤ 'f' then some (c.toNat - 87)
    else if 'A' ≤ c ∧ c ≤ 'F' then some (c.toNat - 55)
    else none
  value.filter (· < base)

/-- The number that digits of a base write. -/
def magnitude (base : Nat) (digits : List Char) : Option Nat :=
  if digits.isEmpty then none
  else digits.foldlM (fun value c => (digitOf base c).map (value * base + ·)) 0

/-- Digits behind a leading zero make a text, whatever the sign. -/
def hasLeadingZero (text : List Char) : Bool :=
  match (splitSign text).2 with
  | '0' :: c :: rest => (c :: rest).all isDigit
  | _ => false

/-- The magnitude of an integer, written in base 16, 8, 2 or 10. -/
def unsignedInteger : List Char → Option Nat
  | '0' :: 'x' :: digits => magnitude 16 digits
  | '0' :: 'o' :: digits => magnitude 8 digits
  | '0' :: 'b' :: digits => magnitude 2 digits
  | digits => if hasLeadingZero digits then none else magnitude 10 digits

/-- What a text is as an integer. -/
inductive IntegerReading where
  | value (n : Int)
  /-- An integer that needs more than 64 bits, and no more than 128. -/
  | outOfRange
  /-- No integer, or one with still more bits. -/
  | other
deriving DecidableEq, Repr, Inhabited

/-- Read a text as an integer. -/
def readInteger (text : List Char) : IntegerReading :=
  let (negative, digits) := splitSign text
  match unsignedInteger digits with
  | none => .other
  | some n =>
    if negative then
      if n ≤ 2 ^ 63 then .value (-n) else if n ≤ 2 ^ 127 then .outOfRange else .other
    else
      if n < 2 ^ 64 then .value n else if n < 2 ^ 128 then .outOfRange else .other

/-- The spellings of numbers that are not finite. -/
def isNotFinite (text : List Char) : Bool :=
  [".inf", ".Inf", ".INF", "+.inf", "+.Inf", "+.INF", "-.inf", "-.Inf", "-.INF", ".nan", ".NaN",
    ".NAN"].any (·.toList == text)

/-- Read a text as a floating-point number. Numbers that are not finite have no value but null. -/
def readFloating (text : List Char) : Option Json :=
  if isNotFinite text then some .null
  else (readFloat text).map (fun x => .number (.float x))

/-- The value of an integer, unless it is out of range. -/
def integerValue : IntegerReading → Option Json
  | .value n => some (.number (.int n))
  | _ => none

/-- The value of a plain scalar without a tag. An integer out of range is refused. -/
def plainValue (text : List Char) : Option Json :=
  if text.isEmpty || isNullWord text then some .null
  else
    match boolWord text, readInteger text with
    | some b, _ => some (.bool b)
    | none, .value n => some (.number (.int n))
    | none, .outOfRange => none
    | none, .other =>
      if hasLeadingZero text then some (.string (String.ofList text))
      else (readFloating text).getD (.string (String.ofList text))

/-- A tag of the core schema. -/
def coreTag (name : String) : List UInt8 := Text.Utf8.encode ("tag:yaml.org,2002:" ++ name)

/-- A tag that begins with an exclamation mark is private to an application. -/
def isPrivateTag (tag : List UInt8) : Bool := tag.head? == some 0x21

/-- Whether a private tag names a type: no value is known for one that does, and a name that is not
well-formed says nothing. -/
def namesPrivateType (tag : List UInt8) : Bool :=
  isPrivateTag tag && (Text.Utf8.decode tag.tail).isSome

/-- The value of a scalar. Private types are refused, the tags of truth values, numbers and null ask
for a text that is spelled so, and every other tag makes it text. -/
def scalarValue (tag : Option (List UInt8)) (text : List Char) (plain : Bool) : Option Json :=
  let untagged := if plain then plainValue text else some (.string (String.ofList text))
  match tag with
  | none => untagged
  | some tag =>
    if isPrivateTag tag then if namesPrivateType tag then none else untagged
    else if tag = coreTag "bool" then (boolWord text).map .bool
    else if tag = coreTag "int" then integerValue (readInteger text)
    else if tag = coreTag "float" then readFloating text
    else if tag = coreTag "null" then if isNullWord text then some .null else none
    else some (.string (String.ofList text))

end Runbook.Yaml

/-! ## Documents

Anchors are numbered while the document is read, and an alias stands for the node that its number
belongs to in the end. -/

namespace Runbook

namespace Yaml

/-- A node whose anchors are numbered. -/
abbrev NumberedNode := Node Nat

/-- The number of each anchor, by its name. -/
abbrev AnchorNumbers := List (List Char × Nat)

/-- Give a name a number, in place of an earlier one. -/
def AnchorNumbers.set (numbers : AnchorNumbers) (name : List Char) (number : Nat) :
    AnchorNumbers :=
  (name, number) :: numbers.filter (fun entry => entry.1 ≠ name)

/-- Number the anchor of a node. The number counts the names that are known by then, so a name that
is given again may share its number with a later one. -/
def numberProperties (properties : Properties (List Char)) :
    StateT AnchorNumbers Option (Properties Nat) := fun numbers =>
  match properties.anchor with
  | none => some (⟨none, properties.tag⟩, numbers)
  | some name =>
    let number := numbers.length
    some (⟨some number, properties.tag⟩, numbers.set name number)

/-- The number of a name that has been given. -/
def numberOf (name : List Char) : StateT AnchorNumbers Option Nat := fun numbers =>
  (numbers.lookup name).map (fun number => (number, numbers))

mutual

/-- Number all anchors of a node, from left to right. -/
def numberNode : WrittenNode → StateT AnchorNumbers Option NumberedNode
  | .alias name => return .alias (← numberOf name)
  | .scalar properties text plain => return .scalar (← numberProperties properties) text plain
  | .sequence properties items =>
    return .sequence (← numberProperties properties) (← numberItems items)
  | .mapping properties entries =>
    return .mapping (← numberProperties properties) (← numberEntries entries)

def numberItems : List WrittenNode → StateT AnchorNumbers Option (List NumberedNode)
  | [] => return []
  | item :: items => return (← numberNode item) :: (← numberItems items)

def numberEntries :
    List (WrittenNode × WrittenNode) →
      StateT AnchorNumbers Option (List (NumberedNode × NumberedNode))
  | [] => return []
  | (key, value) :: entries =>
    return (← numberNode key, ← numberNode value) :: (← numberEntries entries)

end

/-- A numbered anchor in front of what its node contains. -/
def ownAnchor (properties : Properties Nat) (node : NumberedNode) : List (Nat × NumberedNode) :=
  (properties.anchor.map (fun number => (number, node))).toList

mutual

/-- The nodes with anchors, from left to right. -/
def anchored : NumberedNode → List (Nat × NumberedNode)
  | .alias _ => []
  | .scalar properties text plain => ownAnchor properties (.scalar properties text plain)
  | .sequence properties items =>
    ownAnchor properties (.sequence properties items) ++ anchoredItems items
  | .mapping properties entries =>
    ownAnchor properties (.mapping properties entries) ++ anchoredEntries entries

def anchoredItems : List NumberedNode → List (Nat × NumberedNode)
  | [] => []
  | item :: items => anchored item ++ anchoredItems items

def anchoredEntries : List (NumberedNode × NumberedNode) → List (Nat × NumberedNode)
  | [] => []
  | (key, value) :: entries => anchored key ++ anchored value ++ anchoredEntries entries

end

/-- The nodes that aliases stand for, the last one of each number first. -/
abbrev Targets := List (Nat × NumberedNode)

/-- How deeply collections may be nested, aliases included. -/
def deepest : Nat := 128

/-- The node that is meant by a node: an alias means its target. The state counts how many more
aliases may be followed. -/
def follow (targets : Targets) : NumberedNode → StateT Nat Option NumberedNode
  | .alias number => fun left =>
    if left = 0 then none else (targets.lookup number).map (fun node => (node, left - 1))
  | node => return node

/-- Refuse a collection of a private type. -/
def checkTag (properties : Properties Nat) : StateT Nat Option Unit :=
  if properties.tag.any namesPrivateType then failure else return ()

/-- The name that a key spells: the text of a scalar, whatever its tag. -/
def keyName (targets : Targets) (key : NumberedNode) : StateT Nat Option String := do
  match ← follow targets key with
  | .scalar _ text _ => return String.ofList text
  | _ => failure

/-- The value of a node in which collections may be nested `depth` times. -/
def nodeValue (targets : Targets) : (depth : Nat) → NumberedNode → StateT Nat Option Json
  | depth, node => do
    match depth, ← follow targets node with
    | _, .scalar properties text plain => StateT.lift (scalarValue properties.tag text plain)
    | depth + 1, .sequence properties items => do
      checkTag properties
      return .array (← items.mapM (nodeValue targets depth))
    | depth + 1, .mapping properties entries => do
      checkTag properties
      let members ← entries.mapM fun (key, value) => do
        return (← keyName targets key, ← nodeValue targets depth value)
      return .object (Dictionary.ofList members)
    | _, _ => failure

/-- How many aliases may be followed for each step through a document. -/
def followsPerStep : Nat := 100

/-- The value of a document. -/
def documentValue (root : WrittenNode) : Option Json := do
  let (numbered, _) ← (numberNode root).run []
  let targets := (anchored numbered).reverse
  let (value, _) ← (nodeValue targets deepest numbered).run (root.size * followsPerStep)
  return value

/-- The value that a YAML stream of at most one document writes. -/
def ofChars (chars : List Char) : Option Json := do
  match ← document (← tokens chars) with
  | none => return .null
  | some root => documentValue root

end Yaml

end Runbook
