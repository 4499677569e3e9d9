import Runbook.Task.Basic
import Runbook.Task.Validation

/-!
# Workflows

A workflow is a list of tasks that run one after the other. A document or a builder gives it as a
draft.
-/

namespace Runbook

/-- A named list of tasks and the inputs that they may refer to. -/
structure Workflow where
  name : String
  description : String
  /-- Counts the revisions of the content. -/
  version : UInt32
  /-- Counts the revisions of the document format. -/
  schemaVersion : UInt32
  /-- The names of the values that are given when a job starts. -/
  inputParameters : List String
  tasks : List Task
deriving DecidableEq, Repr, Inhabited

/-- The task of a name. -/
def Workflow.task? (workflow : Workflow) (name : String) : Option Task :=
  workflow.tasks.find? (fun task => task.name == name)

/-- Whether two workflows are the same. Numbers are compared by value, so that zeros of both signs
are equal, but an integer differs from a floating-point number. -/
def Workflow.same (left right : Workflow) : Bool :=
  let unsigned (workflow : Workflow) : Workflow :=
    { workflow with tasks := workflow.tasks.map Task.withoutZeroSigns }
  unsigned left = unsigned right

end Runbook

/-! ## Drafts of workflows

The draft becomes a workflow when it has a name and tasks, and when neither a parameter nor a task
occurs twice. -/

namespace Runbook

open Schema

/-- The draft of a workflow. -/
structure WorkflowDraft where
  name : String
  description : String
  version : UInt32
  schemaVersion : UInt32
  inputParameters : List String
  tasks : List TaskDraft
deriving DecidableEq, Repr, Inhabited

/-- A draft of which only the name is given. -/
def WorkflowDraft.new (name : String) : WorkflowDraft where
  name := name
  description := ""
  version := 0
  schemaVersion := 0
  inputParameters := []
  tasks := []

/-- The fields of a workflow. -/
def WorkflowDraft.record : Record WorkflowDraft where
  label := "RawWorkflow"
  initial := WorkflowDraft.new ""
  fields := [
    .needed "name" text fun draft value => { draft with name := value },
    .free "description" text fun draft value => { draft with description := value },
    .free "version" word32 fun draft value => { draft with version := value },
    .free "schemaVersion" word32 fun draft value => { draft with schemaVersion := value },
    .free "inputParameters" (list text) fun draft value => { draft with inputParameters := value },
    .needed "tasks" (list TaskDraft.record.read) fun draft value => { draft with tasks := value }]

/-! ## Validation -/

/-- Check that the parameters are named and differ from each other. -/
def validateParameters : (seen : List String) → List String → Except SchemaError Unit
  | _, [] => .ok ()
  | seen, name :: names =>
    if name.isEmpty then .error .emptyParameter
    else if seen.contains name then .error (.duplicateParameter name)
    else validateParameters (name :: seen) names

/-- Validate tasks in order, and check that their names differ from each other. -/
def validateTasks : (seen : List String) → List TaskDraft → Except SchemaError (List Task)
  | _, [] => .ok []
  | seen, draft :: drafts => do
    let task ← draft.validate
    if seen.contains task.name then throw (.duplicateTask task.name)
    return task :: (← validateTasks (task.name :: seen) drafts)

/-- Validate a workflow. -/
def WorkflowDraft.validate (draft : WorkflowDraft) : Except SchemaError Workflow := do
  if Text.isBlankText draft.name then throw .emptyWorkflowName
  validateParameters [] draft.inputParameters
  if draft.tasks.isEmpty then throw .noTasks
  return {
    name := draft.name
    description := draft.description
    version := draft.version
    schemaVersion := draft.schemaVersion
    inputParameters := draft.inputParameters
    tasks := ← validateTasks [] draft.tasks }

end Runbook
