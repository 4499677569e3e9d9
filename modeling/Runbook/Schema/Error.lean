import Runbook.Schema.Record
import Runbook.Task.Basic

/-!
# Schema errors

Why a document that can be read describes no workflow.
-/

namespace Runbook

open Schema

/-- Why a value describes no workflow or task. -/
inductive SchemaError where
  | shape (cause : ShapeError)
  | placeholder (cause : PlaceholderError)
  | notAMapping
  | emptyWorkflowName
  | emptyParameter
  | duplicateParameter (name : String)
  | noTasks
  | duplicateTask (name : String)
  | emptyTaskName
  | reservedTaskName (name : String)
  /-- A task name with a character that a path segment cannot hold. -/
  | unaddressableTaskName (name : String) (character : Char)
  /-- An error inside a task. -/
  | inTask (name : String) (cause : SchemaError)
  | unknownTaskType (name : String)
  /-- Whether the payloads of the two kinds are there, for a task of the declared kind. -/
  | payloadMismatch (declared : TaskType) (http cli : Bool)
  | unknownMethod (name : String)
  | emptyUri
  | severalBodies
  | invalidStatusCode (code : UInt16)
  | emptyCommand
  | emptyExecutable
deriving DecidableEq, Repr, Inhabited

namespace SchemaError

/-- How messages say whether something is there. -/
def presence (present : Bool) : String :=
  if present then "present" else "absent"

/-- The wording of a schema error. -/
def message : SchemaError → String
  | .shape cause => cause.message
  | .placeholder cause => cause.message
  | .notAMapping => "document is not a workflow mapping"
  | .emptyWorkflowName => "workflow name cannot be empty"
  | .emptyParameter => "input parameter name cannot be empty"
  | .duplicateParameter name => "duplicate input parameter '" ++ name ++ "'"
  | .noTasks => "workflow must have at least one task"
  | .duplicateTask name => "duplicate task name '" ++ name ++ "'"
  | .emptyTaskName => "task name cannot be empty"
  | .reservedTaskName name => "task name '" ++ name ++ "' is reserved"
  | .unaddressableTaskName name character =>
    "task name '" ++ name ++ "' contains '" ++ String.singleton character
      ++ "'; it must be usable as a single $\x7b...\x7d path segment"
  | .inTask name cause => "task '" ++ name ++ "': " ++ cause.message
  | .unknownTaskType name => "unknown task type '" ++ name ++ "' (expected http or cli)"
  | .payloadMismatch declared http cli =>
    "type '" ++ declared.name ++ "' requires exactly one '" ++ declared.name
      ++ "' payload (http: " ++ presence http ++ ", cli: " ++ presence cli ++ ")"
  | .unknownMethod name => "unknown HTTP method '" ++ name ++ "'"
  | .emptyUri => "http uri cannot be empty"
  | .severalBodies => "body, formdata and json are mutually exclusive"
  | .invalidStatusCode code => "invalid status code " ++ countText code.toNat
  | .emptyCommand => "cli command cannot be empty"
  | .emptyExecutable => "cli executable cannot be empty"

end SchemaError

/-- Why a document yields no workflow. -/
inductive ParseError where
  /-- The bytes are a text of no known format. -/
  | malformed
  | schema (cause : SchemaError)
deriving DecidableEq, Repr, Inhabited

end Runbook
