import Runbook.Template

/-!
# Tasks

A task calls a web service or runs a program. All texts that may depend on the job are templates.
-/

namespace Runbook

/-- The methods that a request may have. -/
inductive HttpMethod where
  | get
  | head
  | post
  | put
  | patch
  | delete
  | options
deriving DecidableEq, Repr, Inhabited

namespace HttpMethod

/-- All methods, in order of their declaration. -/
def all : List HttpMethod := [.get, .head, .post, .put, .patch, .delete, .options]

/-- The name of a method. -/
def name : HttpMethod → String
  | .get => "GET"
  | .head => "HEAD"
  | .post => "POST"
  | .put => "PUT"
  | .patch => "PATCH"
  | .delete => "DELETE"
  | .options => "OPTIONS"

/-- A text with its ASCII letters in upper case. -/
def upperCase (text : String) : String := String.ofList (text.toList.map Char.toUpper)

/-- The method of a name, in letters of either case. -/
def ofName? (text : String) : Option HttpMethod :=
  all.find? (fun method => method.name == upperCase text)

end HttpMethod

/-- The kinds of tasks. -/
inductive TaskType where
  | http
  | cli
deriving DecidableEq, Repr, Inhabited

namespace TaskType

/-- The name of a kind. -/
def name : TaskType → String
  | .http => "http"
  | .cli => "cli"

/-- The kind of a name. -/
def ofName? (text : String) : Option TaskType :=
  [TaskType.http, TaskType.cli].find? (fun kind => kind.name == text)

end TaskType

/-- A duration in milliseconds. -/
abbrev Milliseconds := UInt64

/-- What is sent with a request: nothing, a text, the fields of a form, or a JSON value. Texts are
of type `α`. -/
inductive Body (α : Type) where
  | empty
  | raw (text : α)
  | form (fields : Dictionary α)
  | json (value : JsonTree α)
deriving DecidableEq, Repr, Inhabited

/-- The call of a web service. -/
structure HttpTask where
  uri : Template
  method : HttpMethod
  headers : Dictionary Template
  body : Body Template
  /-- Takes the place of the content type that the body implies. -/
  contentType : Option String
  /-- The codes that count as success; none stands for every code from 200 to 299. -/
  statusCodes : List UInt16
  connectionTimeout : Option Milliseconds
  readTimeout : Option Milliseconds
deriving DecidableEq, Repr, Inhabited

/-- The run of a program. -/
structure CliTask where
  /-- The program and its arguments. -/
  command : List Template
  executionTimeout : Option Milliseconds
deriving DecidableEq, Repr, Inhabited

/-- What a task does. -/
inductive TaskPayload where
  | http (task : HttpTask)
  | cli (task : CliTask)
deriving DecidableEq, Repr, Inhabited

/-- A step of a workflow. -/
structure Task where
  /-- Unique in its workflow; the output is published under it. -/
  name : String
  /-- The values that have to be there before the task starts. -/
  requires : List Reference
  /-- How often a failed call is repeated. -/
  retries : UInt32
  payload : TaskPayload
deriving DecidableEq, Repr, Inhabited

namespace Body

variable {α β ε : Type}

/-- The texts of a body, from left to right. -/
def leaves : Body α → List α
  | .empty => []
  | .raw text => [text]
  | .form fields => fields.values
  | .json value => value.leaves

/-- Apply a function that may fail to each text, from left to right. -/
def traverse (f : α → Except ε β) : Body α → Except ε (Body β)
  | .empty => .ok .empty
  | .raw text => (f text).map .raw
  | .form fields => (Dictionary.traverse f fields).map .form
  | .json value => (JsonTree.traverse f value).map .json

/-- The body with every zero in a JSON value written without a sign. -/
def withoutZeroSigns : Body α → Body α
  | .json value => .json value.withoutZeroSigns
  | other => other

end Body

/-- The references of a request: of the address, of the headers by name, and of the body. -/
def HttpTask.references (task : HttpTask) : List Reference :=
  task.uri.references ++ task.headers.values.flatMap Template.references
    ++ task.body.leaves.flatMap Template.references

/-- The references of a command, from left to right. -/
def CliTask.references (task : CliTask) : List Reference :=
  task.command.flatMap Template.references

namespace Task

/-- The kind of a task. -/
def type (task : Task) : TaskType :=
  match task.payload with
  | .http _ => .http
  | .cli _ => .cli

/-- The references in the templates of a task. -/
def templateReferences (task : Task) : List Reference :=
  match task.payload with
  | .http http => http.references
  | .cli cli => cli.references

/-- The task with every zero in a JSON value written without a sign. -/
def withoutZeroSigns (task : Task) : Task :=
  match task.payload with
  | .http http => { task with payload := .http { http with body := http.body.withoutZeroSigns } }
  | .cli _ => task

end Task

end Runbook
