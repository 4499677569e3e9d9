import Runbook.Workflow

/-!
# Builders

Workflows and tasks that are put together by calls instead of documents. A builder fills in the
same draft that a document is read into, so both are validated alike.
-/

namespace Runbook

/-- A call that sets a part of a task. -/
inductive TaskSetting where
  | requires (placeholder : String)
  | retries (count : UInt32)
  | header (name value : String)
  | body (text : String)
  | formField (name value : String)
  | json (value : Json)
  | contentType (text : String)
  | statusCodes (codes : List UInt16)
  | connectionTimeout (timeout : UInt64)
  | readTimeout (timeout : UInt64)
  | executionTimeout (timeout : UInt64)
deriving DecidableEq, Repr, Inhabited

namespace TaskDraft

/-- Begin a task that calls a web service. -/
def callService (name method uri : String) : TaskDraft :=
  { TaskDraft.new name TaskType.http.name with http := some (HttpDraft.new method uri) }

/-- Begin a task that runs a program. -/
def runProgram (name : String) (command : List String) : TaskDraft :=
  { TaskDraft.new name TaskType.cli.name with cli := some ⟨command, none⟩ }

/-- Change the request of a task; a task without one stays as it is. -/
def onHttp (draft : TaskDraft) (change : HttpDraft → HttpDraft) : TaskDraft :=
  { draft with http := draft.http.map change }

/-- Change the command of a task; a task without one stays as it is. -/
def onCli (draft : TaskDraft) (change : CliDraft → CliDraft) : TaskDraft :=
  { draft with cli := draft.cli.map change }

/-- Set an entry of a dictionary that may not be there yet. -/
def withEntry (entries : Option (Dictionary String)) (name value : String) :
    Option (Dictionary String) :=
  some ((entries.getD []).insert name value)

/-- Carry out one call. -/
def set (draft : TaskDraft) : TaskSetting → TaskDraft
  | .requires placeholder => { draft with requires := draft.requires ++ [placeholder] }
  | .retries count => { draft with retries := count }
  | .header name value =>
    draft.onHttp fun http => { http with headers := withEntry http.headers name value }
  | .body text => draft.onHttp fun http => { http with body := some text }
  | .formField name value =>
    draft.onHttp fun http => { http with form := withEntry http.form name value }
  | .json value => draft.onHttp fun http => { http with json := some value }
  | .contentType text => draft.onHttp fun http => { http with contentType := some text }
  | .statusCodes codes => draft.onHttp fun http => { http with statusCodes := codes }
  | .connectionTimeout timeout =>
    draft.onHttp fun http => { http with connectionTimeout := some timeout }
  | .readTimeout timeout => draft.onHttp fun http => { http with readTimeout := some timeout }
  | .executionTimeout timeout =>
    draft.onCli fun cli => { cli with executionTimeout := some timeout }

/-- Carry out calls in order. -/
def setAll (draft : TaskDraft) (settings : List TaskSetting) : TaskDraft :=
  settings.foldl set draft

end TaskDraft

/-- A call that sets a part of a workflow. -/
inductive WorkflowSetting where
  | description (text : String)
  | version (version : UInt32)
  | schemaVersion (version : UInt32)
  | input (parameter : String)
  | task (draft : TaskDraft)
deriving DecidableEq, Repr, Inhabited

namespace WorkflowDraft

/-- Carry out one call. -/
def set (draft : WorkflowDraft) : WorkflowSetting → WorkflowDraft
  | .description text => { draft with description := text }
  | .version version => { draft with version := version }
  | .schemaVersion version => { draft with schemaVersion := version }
  | .input parameter => { draft with inputParameters := draft.inputParameters ++ [parameter] }
  | .task task => { draft with tasks := draft.tasks ++ [task] }

/-- Carry out calls in order. -/
def setAll (draft : WorkflowDraft) (settings : List WorkflowSetting) : WorkflowDraft :=
  settings.foldl set draft

end WorkflowDraft

/-- The workflow that a name and calls describe. -/
def buildWorkflow (name : String) (settings : List WorkflowSetting) : Except SchemaError Workflow :=
  ((WorkflowDraft.new name).setAll settings).validate

end Runbook
