import Runbook.Schema.Error
import Runbook.Schema.Record

/-!
# Drafts of tasks and their validation

A task as a document or a builder gives it, and when it becomes a task that can run.
-/

/-! ## Drafts of tasks

A task as a document or a builder gives it, before it is validated. -/

namespace Runbook

open Schema

/-- The draft of a call of a web service. -/
structure HttpDraft where
  uri : String
  method : String
  headers : Option (Dictionary String)
  body : Option String
  form : Option (Dictionary String)
  json : Option Json
  contentType : Option String
  statusCodes : List UInt16
  connectionTimeout : Option UInt64
  readTimeout : Option UInt64
deriving DecidableEq, Repr, Inhabited

/-- A draft of which only the address and the method are given. -/
def HttpDraft.new (method uri : String) : HttpDraft where
  uri := uri
  method := method
  headers := none
  body := none
  form := none
  json := none
  contentType := none
  statusCodes := []
  connectionTimeout := none
  readTimeout := none

/-- The fields of a call of a web service. -/
def HttpDraft.record : Record HttpDraft where
  label := "RawHttp"
  initial := HttpDraft.new "" ""
  fields := [
    .needed "uri" text fun draft value => { draft with uri := value },
    .needed "method" text fun draft value => { draft with method := value },
    .free "headers" (optional (dictionary text)) fun draft value =>
      { draft with headers := value },
    .free "body" (optional text) fun draft value => { draft with body := value },
    (Field.free "formdata" (optional (dictionary text)) fun draft value =>
      { draft with form := value }).orNamed "formData",
    .free "json" (optional anything) fun draft value => { draft with json := value },
    .free "contentType" (optional text) fun draft value => { draft with contentType := value },
    .free "statusCodes" (list word16) fun draft value => { draft with statusCodes := value },
    .free "connectionTimeOut" (optional word64) fun draft value =>
      { draft with connectionTimeout := value },
    .free "readTimeOut" (optional word64) fun draft value => { draft with readTimeout := value }]

/-- The draft of the run of a program. -/
structure CliDraft where
  command : List String
  executionTimeout : Option UInt64
deriving DecidableEq, Repr, Inhabited

/-- The fields of the run of a program. -/
def CliDraft.record : Record CliDraft where
  label := "RawCli"
  initial := ⟨[], none⟩
  fields := [
    .needed "command" (list text) fun draft value => { draft with command := value },
    .free "executionTimeOut" (optional word64) fun draft value =>
      { draft with executionTimeout := value }]

/-- The draft of a task. -/
structure TaskDraft where
  name : String
  type : String
  requires : List String
  retries : UInt32
  http : Option HttpDraft
  cli : Option CliDraft
deriving DecidableEq, Repr, Inhabited

/-- A draft of which only the name and the type are given. -/
def TaskDraft.new (name type : String) : TaskDraft where
  name := name
  type := type
  requires := []
  retries := 0
  http := none
  cli := none

/-- The fields of a task. -/
def TaskDraft.record : Record TaskDraft where
  label := "RawTask"
  initial := TaskDraft.new "" ""
  fields := [
    .needed "name" text fun draft value => { draft with name := value },
    .needed "type" text fun draft value => { draft with type := value },
    .free "requires" (list text) fun draft value => { draft with requires := value },
    .free "retries" word32 fun draft value => { draft with retries := value },
    .free "http" (optional HttpDraft.record.read) fun draft value => { draft with http := value },
    .free "cli" (optional CliDraft.record.read) fun draft value => { draft with cli := value }]

end Runbook

/-! ## Validation of tasks

A draft becomes a task when its name can be a path segment, its payload is the one that its type
asks for, and all its templates can be read. -/

namespace Runbook

/-- The name space of the values that a job starts with. -/
def workflowSpace : String := "workflow"

/-- Whether a character may stand in the name of a task, which is a single segment of a path. -/
def isNameChar (c : Char) : Bool :=
  !(c == '.' || c == '$' || c == '\x7b' || c == '\x7d' || Text.isBlank c)

/-- Zero stands for a timeout that is not set. -/
def nonzero (timeout : Option UInt64) : Option Milliseconds :=
  timeout.filter (· ≠ 0)

namespace SchemaError

variable {α : Type}

/-- Read a placeholder as part of a schema. -/
def liftPlaceholder (result : Except PlaceholderError α) : Except SchemaError α :=
  result.mapError .placeholder

/-- Read a method as part of a schema. -/
def parseMethod (text : String) : Except SchemaError HttpMethod :=
  match HttpMethod.ofName? text with
  | some method => .ok method
  | none => .error (.unknownMethod text)

/-- Read a type as part of a schema. -/
def parseType (text : String) : Except SchemaError TaskType :=
  match TaskType.ofName? text with
  | some type => .ok type
  | none => .error (.unknownTaskType text)

/-- Read a template as part of a schema. -/
def parseTemplate (raw : String) : Except SchemaError Template :=
  liftPlaceholder (Template.parse raw)

end SchemaError

open SchemaError

/-- The body of a request, of which at most one may be given. -/
def HttpDraft.validateBody (draft : HttpDraft) : Except SchemaError (Body Template) :=
  match draft.body, draft.form, draft.json with
  | none, none, none => .ok .empty
  | some text, none, none => (parseTemplate text).map .raw
  | none, some fields, none => (Dictionary.traverse parseTemplate fields).map .form
  | none, none, some value => (liftPlaceholder (JsonTemplate.parse value)).map .json
  | _, _, _ => .error .severalBodies

/-- Whether a number can be the status of a response. -/
def isStatusCode (code : UInt16) : Bool := 100 ≤ code && code ≤ 599

/-- Validate a request. -/
def HttpDraft.validate (draft : HttpDraft) : Except SchemaError HttpTask := do
  let method ← parseMethod draft.method
  let uri ← parseTemplate draft.uri
  if Text.isBlankText draft.uri then throw .emptyUri
  let headers ← Dictionary.traverse parseTemplate (draft.headers.getD [])
  let body ← draft.validateBody
  match draft.statusCodes.find? (fun code => !isStatusCode code) with
  | some code => throw (.invalidStatusCode code)
  | none =>
    return {
      uri, method, headers, body
      contentType := draft.contentType
      statusCodes := draft.statusCodes
      connectionTimeout := nonzero draft.connectionTimeout
      readTimeout := nonzero draft.readTimeout }

/-- Validate a command. -/
def CliDraft.validate (draft : CliDraft) : Except SchemaError CliTask :=
  match draft.command with
  | [] => .error .emptyCommand
  | program :: _ => do
    if Text.isBlankText program then throw .emptyExecutable
    return ⟨← draft.command.mapM parseTemplate, nonzero draft.executionTimeout⟩

/-- Validate the name of a task. -/
def TaskDraft.validateName (draft : TaskDraft) : Except SchemaError Unit :=
  if Text.isBlankText draft.name then .error .emptyTaskName
  else if draft.name = workflowSpace then .error (.reservedTaskName draft.name)
  else
    match draft.name.toList.find? (fun c => !isNameChar c) with
    | some c => .error (.unaddressableTaskName draft.name c)
    | none => .ok ()

/-- Validate the payload, which is given once and under the declared type. -/
def TaskDraft.validatePayload (draft : TaskDraft) : Except SchemaError TaskPayload := do
  match ← parseType draft.type, draft.http, draft.cli with
  | .http, some http, none => return .http (← http.validate)
  | .cli, none, some cli => return .cli (← cli.validate)
  | declared, http, cli => throw (.payloadMismatch declared http.isSome cli.isSome)

/-- Validate all of a task behind its name. -/
def TaskDraft.validateContent (draft : TaskDraft) : Except SchemaError Task := do
  let payload ← draft.validatePayload
  let requires ← draft.requires.mapM fun raw => liftPlaceholder (Reference.parsePlaceholder raw)
  return ⟨draft.name, requires, draft.retries, payload⟩

/-- Validate a task. Errors behind the name say which task they are in. -/
def TaskDraft.validate (draft : TaskDraft) : Except SchemaError Task := do
  draft.validateName
  draft.validateContent.mapError (.inTask draft.name)

end Runbook
