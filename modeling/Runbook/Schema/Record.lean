import Runbook.Json.Printer
import Runbook.Text.Quoted

/-!
# Records and the shapes of values

What a schema asks of a single value, and the readers that check it. A record is read from an object
by the names of its fields, or from a list by their order. Fields that are left out keep their
initial values, unless they are required.
-/

namespace Runbook.Schema

/-- Why a value does not have the shape that was asked for. -/
inductive ShapeError where
  /-- A value of the wrong kind. -/
  | wrongKind (found : Json) (expected : String)
  /-- An integer out of range. -/
  | outOfRange (found : Int) (expected : String)
  /-- A required field that is not there. -/
  | missingField (name : String)
  /-- A field given under two of its names. -/
  | duplicateField (name : String)
  /-- A list that stands for a record and ends before its required fields. -/
  | tooShort (length : Nat) (record : String) (fieldCount : Nat)
  /-- A list that stands for a record and has more items than fields. -/
  | tooLong (length : Nat)
deriving DecidableEq, Repr, Inhabited

/-- How messages name a value. -/
def describe : Json → String
  | .null => "null"
  | .bool true => "boolean \x60true\x60"
  | .bool false => "boolean \x60false\x60"
  | .number (.int n) => "integer \x60" ++ String.ofList (Json.intChars n) ++ "\x60"
  | .number (.float x) => "floating point \x60" ++ Json.floatLayout.text x ++ "\x60"
  | .string s => "string " ++ Text.quoted s
  | .array _ => "sequence"
  | .object _ => "map"

/-- The decimal text of a natural number. -/
def countText (n : Nat) : String := Decimal.digitText n

/-- The wording of a shape error. -/
def ShapeError.message : ShapeError → String
  | .wrongKind found expected => "invalid type: " ++ describe found ++ ", expected " ++ expected
  | .outOfRange found expected =>
    "invalid value: " ++ describe (.number (.int found)) ++ ", expected " ++ expected
  | .missingField name => "missing field \x60" ++ name ++ "\x60"
  | .duplicateField name => "duplicate field \x60" ++ name ++ "\x60"
  | .tooShort length record fieldCount =>
    "invalid length " ++ countText length ++ ", expected struct " ++ record ++ " with "
      ++ countText fieldCount ++ " elements"
  | .tooLong length =>
    "invalid length " ++ countText length ++ ", expected fewer elements in array"

/-- A reader of values. -/
abbrev Reader (α : Type) := Json → Except ShapeError α

variable {α : Type}

/-- Any text. -/
def textAs (expected : String) : Reader String
  | .string s => .ok s
  | found => .error (.wrongKind found expected)

/-- Any text. -/
def text : Reader String := textAs "a string"

/-- An integer from zero up to a greatest one. -/
def natural (greatest : Nat) (expected : String) : Reader Nat
  | .number (.int n) =>
    if 0 ≤ n ∧ n ≤ greatest then .ok n.toNat else .error (.outOfRange n expected)
  | found => .error (.wrongKind found expected)

/-- An integer of 16 bits. -/
def word16 : Reader UInt16 := fun value => (natural (2 ^ 16 - 1) "u16" value).map UInt16.ofNat

/-- An integer of 32 bits. -/
def word32 : Reader UInt32 := fun value => (natural (2 ^ 32 - 1) "u32" value).map UInt32.ofNat

/-- An integer of 64 bits. -/
def word64 : Reader UInt64 := fun value => (natural (2 ^ 64 - 1) "u64" value).map UInt64.ofNat

/-- An integer of 64 bits that counts things. -/
def count64 : Reader UInt64 := fun value => (natural (2 ^ 64 - 1) "usize" value).map UInt64.ofNat

/-- A list of values of one shape. -/
def list (item : Reader α) : Reader (List α)
  | .array items => items.mapM item
  | found => .error (.wrongKind found "a sequence")

/-- An object whose members have one shape. -/
def dictionary (value : Reader α) : Reader (Dictionary α)
  | .object members => Dictionary.traverse value members
  | found => .error (.wrongKind found "a map")

/-- A value that may be null. -/
def optional (value : Reader α) : Reader (Option α)
  | .null => .ok none
  | found => (value found).map some

/-- Any value, as it is. -/
def anything : Reader Json := .ok

/-! ## Records -/

/-- A field of a record. -/
structure Field (α : Type) where
  name : String
  /-- Other names under which the field may be given. -/
  aliases : List String
  required : Bool
  /-- Set the field from a value. -/
  set : α → Reader α

/-- The shape of a record. -/
structure Record (α : Type) where
  /-- How messages call the record. -/
  label : String
  /-- The fields, in order of their declaration. -/
  fields : List (Field α)
  /-- The record before any field is set. -/
  initial : α

variable {α β : Type}

/-- A field that has to be given. -/
def Field.needed (name : String) (shape : Reader β) (put : α → β → α) : Field α :=
  ⟨name, [], true, fun record value => (shape value).map (put record)⟩

/-- A field that may be left out. -/
def Field.free (name : String) (shape : Reader β) (put : α → β → α) : Field α :=
  ⟨name, [], false, fun record value => (shape value).map (put record)⟩

/-- Give a field another name. -/
def Field.orNamed (field : Field α) (name : String) : Field α :=
  { field with aliases := name :: field.aliases }

/-- Whether a member of an object gives the field. -/
def Field.answersTo (field : Field α) (name : String) : Bool :=
  field.name == name || field.aliases.contains name

namespace Record

/-- Set the fields that the members of an object give, in order of the members. Members that give
no field are ignored; `seen` lists the fields that are already set. -/
def setMembers (record : Record α) :
    (seen : List String) → α → List (String × Json) → Except ShapeError (List String × α)
  | seen, built, [] => .ok (seen, built)
  | seen, built, (name, value) :: members =>
    match record.fields.find? (·.answersTo name) with
    | none => setMembers record seen built members
    | some field =>
      if seen.contains field.name then .error (.duplicateField field.name)
      else
        match field.set built value with
        | .error cause => .error cause
        | .ok built => setMembers record (field.name :: seen) built members

/-- The first required field that has not been set. -/
def firstMissing (record : Record α) (seen : List String) : Option String :=
  (record.fields.find? (fun field => field.required && !seen.contains field.name)).map (·.name)

/-- Read a record from the members of an object. -/
def ofMembers (record : Record α) (members : Dictionary Json) : Except ShapeError α := do
  let (seen, built) ← record.setMembers [] record.initial members
  match record.firstMissing seen with
  | none => return built
  | some name => throw (.missingField name)

/-- Set fields from the items of a list, in order, and return the items that are left over. -/
def setItems (record : Record α) :
    (index : Nat) → α → List (Field α) → List Json → Except ShapeError (α × List Json)
  | _, built, [], items => .ok (built, items)
  | index, built, field :: fields, [] =>
    if field.required then .error (.tooShort index record.label record.fields.length)
    else setItems record (index + 1) built fields []
  | index, built, field :: fields, item :: items =>
    match field.set built item with
    | .error cause => .error cause
    | .ok built => setItems record (index + 1) built fields items

/-- Read a record from the items of a list. -/
def ofItems (record : Record α) (items : List Json) : Except ShapeError α := do
  match ← record.setItems 0 record.initial record.fields items with
  | (built, []) => return built
  | _ => throw (.tooLong items.length)

/-- Read a record. -/
def read (record : Record α) : Reader α
  | .object members => record.ofMembers members
  | .array items => record.ofItems items
  | found => .error (.wrongKind found ("struct " ++ record.label))

end Record

end Runbook.Schema
