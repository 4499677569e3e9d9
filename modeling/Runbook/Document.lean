import Runbook.Json.Reader
import Runbook.Text.Utf8
import Runbook.Workflow
import Runbook.Yaml.Reader

/-!
# Documents

Workflows are written as JSON or YAML. The format is found by reading, not by name: a text that is
no JSON is read as YAML.
-/

namespace Runbook

namespace Document

/-- The value that a document writes. -/
def decode (bytes : List UInt8) : Option Json := do
  let chars ← Text.Utf8.decodeChars bytes
  Json.ofChars chars <|> Yaml.ofChars chars

/-- Check that a value has the shape of a workflow. -/
def draft (value : Json) : Except SchemaError WorkflowDraft :=
  if JsonTree.isObject value then (WorkflowDraft.record.read value).mapError .shape
  else .error .notAMapping

/-- The workflow that a value describes. -/
def interpret (value : Json) : Except SchemaError Workflow := do
  (← draft value).validate

/-- The workflow that a document describes. -/
def parse (bytes : List UInt8) : Except ParseError Workflow :=
  match decode bytes with
  | none => .error .malformed
  | some value => (interpret value).mapError .schema

/-- Whether two documents have the same result: the same workflow, or errors of one wording. -/
def sameResult : (left right : Except ParseError Workflow) → Bool
  | .ok left, .ok right => left.same right
  | .error (.schema left), .error (.schema right) => left.message == right.message
  | .error .malformed, .error .malformed => true
  | _, _ => false

end Document

end Runbook
