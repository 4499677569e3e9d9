import Runbook.Decimal.Reading
import Runbook.Document
import Runbook.Files

/-!
# Configuration

The settings of an engine. A file may give some of them, environment variables override the file,
and the rest have built-in values.
-/

namespace Runbook

open Schema

/-- The settings of an engine. -/
structure Config where
  /-- The directory of the workflows. -/
  workflowsDir : String
  /-- How many jobs may run at once. -/
  maxConcurrentJobs : UInt64
  /-- The timeouts of tasks that set none. -/
  connectionTimeout : UInt64
  readTimeout : UInt64
  executionTimeout : UInt64
deriving DecidableEq, Repr, Inhabited

namespace Config

/-- The built-in timeouts. -/
def builtInConnectionTimeout : UInt64 := 10000

def builtInReadTimeout : UInt64 := 30000

def builtInExecutionTimeout : UInt64 := 60000

/-- The built-in settings. -/
def builtIn : Config where
  workflowsDir := "./workflows"
  maxConcurrentJobs := 16
  connectionTimeout := builtInConnectionTimeout
  readTimeout := builtInReadTimeout
  executionTimeout := builtInExecutionTimeout

/-- The fields of a configuration file, all of which may be left out. -/
def record : Record Config where
  label := "EngineConfig"
  initial := builtIn
  fields := [
    .free "workflows_dir" (textAs "path string") fun config value =>
      { config with workflowsDir := value },
    .free "max_concurrent_jobs" count64 fun config value =>
      { config with maxConcurrentJobs := value },
    .free "default_connection_timeout_ms" word64 fun config value =>
      { config with connectionTimeout := value },
    .free "default_read_timeout_ms" word64 fun config value =>
      { config with readTimeout := value },
    .free "default_execution_timeout_ms" word64 fun config value =>
      { config with executionTimeout := value }]

/-- The variables of the environment. -/
abbrev Environment := String → Option String

/-- The number in a variable, if it is set to one of 64 bits. -/
def number? (environment : Environment) (key : String) : Option UInt64 := do
  let text ← environment key
  return UInt64.ofNat (← Decimal.readNatural (2 ^ 64 - 1) text.toList)

/-- Override settings by variables. A variable that holds no number changes nothing. -/
def override (config : Config) (environment : Environment) : Config where
  workflowsDir := (environment "WORKFLOWS_DIR").getD config.workflowsDir
  maxConcurrentJobs :=
    (number? environment "WORKFLOWS_MAX_CONCURRENT_JOBS").getD config.maxConcurrentJobs
  connectionTimeout :=
    (number? environment "WORKFLOWS_CONNECTION_TIMEOUT_MS").getD config.connectionTimeout
  readTimeout := (number? environment "WORKFLOWS_READ_TIMEOUT_MS").getD config.readTimeout
  executionTimeout :=
    (number? environment "WORKFLOWS_EXECUTION_TIMEOUT_MS").getD config.executionTimeout

/-- Why a configuration file cannot be used. -/
inductive LoadError where
  | unreadable (cause : FileError)
  | malformed
  | invalid (cause : ShapeError)
deriving DecidableEq, Repr, Inhabited

/-- The wording of a load error, for the file at a path. -/
def LoadError.message (path : String) : LoadError → String
  | .unreadable _ => "Failed to read config file: " ++ path
  | .malformed => "Failed to decode config file: " ++ path
  | .invalid _ => "Invalid config file: " ++ path

/-- The settings in a file, given what reading it yields. -/
def ofFile (content : Except FileError (List UInt8)) : Except LoadError Config :=
  match content with
  | .error cause => .error (.unreadable cause)
  | .ok bytes =>
    match Document.decode bytes with
    | none => .error .malformed
    | some value => (record.read value).mapError .invalid

/-- The settings of an engine: those of the file, if one is named, overridden by variables. -/
def load (file : Option (Except FileError (List UInt8))) (environment : Environment) :
    Except LoadError Config :=
  match file with
  | none => .ok (builtIn.override environment)
  | some content => (ofFile content).map (·.override environment)

/-- A timeout of zero means that none is set. -/
def timeoutOr (builtIn timeout : UInt64) : Milliseconds :=
  if timeout = 0 then builtIn else timeout

/-- The timeout for establishing a connection. -/
def effectiveConnectionTimeout (config : Config) : Milliseconds :=
  timeoutOr builtInConnectionTimeout config.connectionTimeout

/-- The timeout for each read of a response. -/
def effectiveReadTimeout (config : Config) : Milliseconds :=
  timeoutOr builtInReadTimeout config.readTimeout

/-- The timeout for the run of a program. -/
def effectiveExecutionTimeout (config : Config) : Milliseconds :=
  timeoutOr builtInExecutionTimeout config.executionTimeout

end Config

end Runbook
