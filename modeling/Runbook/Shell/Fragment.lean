import Runbook.Shell.LineInput
import Runbook.Shell.Pattern

/-!
# Fields

A word becomes fields once its values are put in. Only values that are not quoted are divided.
-/

namespace Runbook.Shell

/-- The characters of a field, and whether they were quoted. -/
abbrev Field := List (Bool × Char)

/-- A part of a word after its values are put in. -/
inductive Fragment where
  | whole (quoted : Bool) (chars : List Char)
  /-- Separators in it end fields. -/
  | loose (chars : List Char)
  /-- A new field begins, or else some characters stand between the parts. -/
  | gap (joint : List Char)
deriving DecidableEq, Repr, Inhabited

namespace Fragment

/-- The characters of a fragment. -/
def chars : Fragment → List Char
  | .whole _ chars => chars
  | .loose chars => chars
  | .gap joint => joint

/-- The text of fragments that are not divided into fields. -/
def joined (fragments : List Fragment) : String := String.ofList (fragments.flatMap chars)

/-- A fragment that is divided into fields unless it is quoted. -/
def loosened : Fragment → Fragment
  | .whole false chars => .loose chars
  | other => other

/-- The characters of fragments, and whether they were quoted. -/
def marked (fragments : List Fragment) : Field :=
  fragments.flatMap fun fragment =>
    match fragment with
    | .whole quoted chars => chars.map (quoted, ·)
    | other => other.chars.map (false, ·)

/-- The pattern that fragments write. -/
def pattern (fragments : List Fragment) : List PatternPart :=
  let chars := marked fragments
  PatternPart.ofChars (chars.length + 1) chars

/-- The fields that have been ended, in reverse, and the one that has been begun. -/
structure Fields where
  ended : List Field
  /-- The characters of the last field, in reverse. -/
  open? : Option Field
  /-- Whether white space has just ended a field. A separator that follows belongs to it. -/
  spaced : Bool

namespace Fields

/-- End the last field. -/
def close (fields : Fields) : Fields :=
  match fields.open? with
  | some chars => ⟨chars :: fields.ended, none, false⟩
  | none => { fields with spaced := false }

/-- Add to the last field. -/
def add (fields : Fields) (chars : Field) : Fields :=
  ⟨fields.ended, some (chars.reverse ++ fields.open?.getD []), false⟩

/-- Add a character of a value. White space ends a field that has been begun, and another separator
also ends a field that has not been begun. -/
def addLoose (separators : List Char) (fields : Fields) (c : Char) : Fields :=
  if !separators.contains c then fields.add [(false, c)]
  else if Session.isSpace c then
    if fields.open?.isSome then { fields.close with spaced := true } else fields
  else if fields.open?.isSome then fields.close
  else if fields.spaced then { fields with spaced := false }
  else { fields with ended := [] :: fields.ended }

/-- Add a fragment. -/
def addFragment (separators : List Char) (fields : Fields) : Fragment → Fields
  | .whole quoted chars => fields.add (chars.map (quoted, ·))
  | .loose chars => chars.foldl (addLoose separators) fields
  | .gap _ => if fields.open?.isSome then { fields.close with spaced := true } else fields

end Fields

/-- The fields that fragments make. -/
def fields (separators : List Char) (fragments : List Fragment) : List Field :=
  let made := (fragments.foldl (Fields.addFragment separators) ⟨[], none, false⟩).close
  (made.ended.map List.reverse).reverse

/-- The fragments of a value. -/
def ofValue (quoted : Bool) (value : String) : List Fragment :=
  if quoted then [.whole true value.toList] else [.loose value.toList]

/-- The fragments of many values, which stay apart unless quotes join them. -/
def ofValues (session : Session) (quoted joined : Bool) (values : List String) : List Fragment :=
  if joined && quoted then ofValue true ((String.ofList session.joint).intercalate values)
  else
    let joint := if joined then session.joint else [' ']
    [gap joint].intercalate (values.map (ofValue quoted))

/-- The fragments of a variable. The arguments stay apart. -/
def ofVariable (session : Session) (quoted : Bool) (name : String) : List Fragment :=
  if name = "@" ∨ name = "*" then ofValues session quoted (name == "*") session.arguments
  else ofValue quoted ((session.value? name).getD "")

end Fragment

end Runbook.Shell
