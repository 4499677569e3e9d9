import Runbook.Context
import Runbook.Schema.Error

/-!
# Failures

What can go wrong with a task and with a job. Each failure has a code and a wording.
-/

namespace Runbook

open Schema

/-- Why an attempt failed. -/
inductive ExecutionError where
  | timeout (limit : Milliseconds)
  | connection (message : String)
  | request (message : String)
  | unexpectedStatus (status : UInt16) (body : String)
  /-- A program ended with a code other than zero, or by a signal. -/
  | nonzeroExit (code : Option Int) (stderr : String)
  | spawn (program reason : String)
  | io (message : String)
deriving DecidableEq, Repr, Inhabited

namespace ExecutionError

/-- How a program ended. -/
def exitLabel : Option Int → String
  | some code => "status " ++ String.ofList (Json.intChars code)
  | none => "signal"

/-- The wording of an execution error. -/
def message : ExecutionError → String
  | .timeout limit => "timed out after " ++ countText limit.toNat ++ "ms"
  | .connection message => "connection failed: " ++ message
  | .request message => "request failed: " ++ message
  | .unexpectedStatus status body =>
    "unexpected status " ++ countText status.toNat ++ ": " ++ body
  | .nonzeroExit code stderr => "process exited with " ++ exitLabel code ++ ": " ++ stderr
  | .spawn program reason => "failed to spawn \x60" ++ program ++ "\x60: " ++ reason
  | .io message => "I/O error: " ++ message

/-- The code of an execution error. -/
def code : ExecutionError → String
  | .timeout _ => "TASK_TIMEOUT"
  | .connection _ => "TASK_CONNECTION"
  | .request _ => "TASK_REQUEST"
  | .unexpectedStatus _ _ => "TASK_STATUS"
  | .nonzeroExit _ _ => "TASK_EXIT_CODE"
  | .spawn _ _ => "TASK_SPAWN"
  | .io _ => "TASK_IO"

/-- Whether an attempt took too long. -/
def isTimeout : ExecutionError → Bool
  | .timeout _ => true
  | _ => false

end ExecutionError

/-- Why a task failed. -/
inductive TaskError where
  | resolution (cause : ResolutionError)
  | execution (cause : ExecutionError)
deriving DecidableEq, Repr, Inhabited

namespace TaskError

/-- The wording of a task error. -/
def message : TaskError → String
  | .resolution cause => cause.message
  | .execution cause => cause.message

/-- The code of a task error. -/
def code : TaskError → String
  | .resolution _ => "RESOLUTION_ERROR"
  | .execution cause => cause.code

/-- Whether another attempt may help. -/
def isRetryable : TaskError → Bool
  | .resolution _ => false
  | .execution _ => true

end TaskError

/-- Why a job was given up. -/
structure AbortError where
  task : String
  attempts : Nat
  cause : TaskError
deriving DecidableEq, Repr, Inhabited

/-- The wording of an abort. -/
def AbortError.message (error : AbortError) : String :=
  "job aborted: task '" ++ error.task ++ "' failed after " ++ countText error.attempts
    ++ " attempt(s): " ++ error.cause.message

/-- The code of a parse error. -/
def ParseError.code : ParseError → String
  | .malformed => "PARSE_SYNTAX"
  | .schema _ => "PARSE_SCHEMA"

/-- Any failure, with what is known of its cause. -/
inductive Failure where
  /-- A text of no known format, with what its readers say. -/
  | malformed (detail : String)
  | schema (detail : String)
  | resolution (cause : ResolutionError)
  | execution (cause : ExecutionError)
  | aborted (cause : AbortError)
  /-- A job cannot be waited for here. -/
  | runtime (detail : String)
deriving DecidableEq, Repr, Inhabited

namespace Failure

/-- The wording of a failure. -/
def message : Failure → String
  | .malformed detail => "syntax error: " ++ detail
  | .schema detail => "schema error: " ++ detail
  | .resolution cause => cause.message
  | .execution cause => cause.message
  | .aborted cause => cause.message
  | .runtime detail => "runtime error: " ++ detail

/-- The code of a failure. -/
def code : Failure → String
  | .malformed _ => ParseError.malformed.code
  | .schema _ => "PARSE_SCHEMA"
  | .resolution _ => "RESOLUTION_ERROR"
  | .execution cause => cause.code
  | .aborted _ => "JOB_ABORTED"
  | .runtime _ => "RUNTIME_ERROR"

end Failure

end Runbook
