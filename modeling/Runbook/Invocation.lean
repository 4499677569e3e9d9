import Runbook.Context

/-!
# Invocations

A task with all values put in, ready to be carried out.
-/

namespace Runbook

/-- A request to a web service. -/
structure HttpRequest where
  method : HttpMethod
  url : String
  headers : Dictionary String
  body : Body String
  contentType : Option String
  statusCodes : List UInt16
  connectionTimeout : Option Milliseconds
  readTimeout : Option Milliseconds
deriving DecidableEq, Repr, Inhabited

/-- A program and its arguments. -/
structure CliInvocation where
  argv : List String
  executionTimeout : Option Milliseconds
deriving DecidableEq, Repr, Inhabited

/-- What an executor carries out. -/
inductive Invocation where
  | http (request : HttpRequest)
  | cli (command : CliInvocation)
deriving DecidableEq, Repr, Inhabited

/-- Whether a status counts as success: one of the given codes, or any from 200 to 299 if none is
given. -/
def acceptsStatus (codes : List UInt16) (status : UInt16) : Bool :=
  if codes.isEmpty then 200 ≤ status && status < 300 else codes.contains status

/-- Whether a status counts as success for a task. -/
def HttpTask.accepts (task : HttpTask) (status : UInt16) : Bool :=
  acceptsStatus task.statusCodes status

/-- Whether a status counts as success for a request. -/
def HttpRequest.accepts (request : HttpRequest) (status : UInt16) : Bool :=
  acceptsStatus request.statusCodes status

/-- Put the values into a request: first the headers by name, then the body, then the address. -/
def HttpTask.resolve (context : Context) (task : HttpTask) :
    Except ResolutionError HttpRequest := do
  let headers ← Dictionary.traverse (Template.resolve context) task.headers
  let body ← task.body.traverse (Template.resolve context)
  let url ← task.uri.resolve context
  return {
    method := task.method
    url, headers, body
    contentType := task.contentType
    statusCodes := task.statusCodes
    connectionTimeout := task.connectionTimeout
    readTimeout := task.readTimeout }

/-- Put the values into a command, from left to right. -/
def CliTask.resolve (context : Context) (task : CliTask) :
    Except ResolutionError CliInvocation := do
  return ⟨← task.command.mapM (Template.resolve context), task.executionTimeout⟩

/-- Put the values into the payload of a task. -/
def Task.resolve (context : Context) (task : Task) : Except ResolutionError Invocation :=
  match task.payload with
  | .http http => (http.resolve context).map .http
  | .cli cli => (cli.resolve context).map .cli

end Runbook
