import Runbook.Config
import Runbook.Engine
import Runbook.Http.Client
import Runbook.Program.Basic

/-!
# Executors

The executor that a configuration asks for. Requests go to a network and commands to a machine.
-/

namespace Runbook

/-- What an executor remembers between invocations. -/
structure ExecutorState (σ τ : Type) where
  /-- The clients that were built so far. -/
  clients : Http.ClientCache
  network : σ
  machine : τ

namespace Config

variable {σ τ : Type}

/-- The limits of requests that set none. -/
def limits (config : Config) : Http.Limits where
  connect := config.effectiveConnectionTimeout
  read := config.effectiveReadTimeout

/-- The executor of a configuration. -/
def executor (config : Config) (network : Http.Network σ) (machine : Program.Machine τ) :
    Executor (ExecutorState σ τ) where
  execute invocation state :=
    match invocation with
    | .http request =>
      let done := Http.send config.limits network request state.clients state.network
      (done.result, { state with clients := done.cache, network := done.state })
    | .cli command =>
      let (answer, after) :=
        Program.run config.effectiveExecutionTimeout machine command state.machine
      (answer, { state with machine := after })

end Config

namespace Engine

/-- Why a job cannot be waited for. -/
def blockingRefusal : Failure :=
  .runtime "execute() cannot block inside a tokio runtime, use Engine::run"

/-- Run a workflow with the built-in settings and wait for its end. Where other work must go on
meanwhile, this is refused. -/
def runBlocking {σ τ : Type} (mustNotBlock : Bool) (network : Http.Network σ)
    (machine : Program.Machine τ) (workflow : Workflow) (inputs : Dictionary String)
    (state : ExecutorState σ τ) : Except Failure (Run (ExecutorState σ τ)) :=
  if mustNotBlock then .error blockingRefusal
  else .ok (run (Config.builtIn.executor network machine) workflow inputs state)

end Engine

end Runbook
