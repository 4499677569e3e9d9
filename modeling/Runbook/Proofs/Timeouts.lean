import Runbook.Executor
import Runbook.Proofs.Http.Sending
import Runbook.Proofs.NameOrder
import Runbook.Proofs.Schema.Drafts

/-!
# Timeouts

A task may set the timeouts of its kind, in its document or by the calls of a builder. From there
they are carried to the executor, where a timeout that is zero or not set gives way to that of the
configuration, and a configured one that is zero to the built-in one (`timeoutLaw`).
-/

namespace Runbook

open Schema

/-- What a limit of time is for. -/
inductive Timeout where
  | connection
  | read
  | execution
deriving DecidableEq

namespace Timeout

/-- The timeout in a configuration. -/
def configured (config : Config) : Timeout → Milliseconds
  | connection => config.connectionTimeout
  | read => config.readTimeout
  | execution => config.executionTimeout

def builtIn : Timeout → Milliseconds
  | connection => 10000
  | read => 30000
  | execution => 60000

/-- The timeout that counts: the one that a task asks for, else the one that is configured, else the
one that is built in. Zero stands for none. -/
def effective (asked : Timeout → Option UInt64) (config : Config) (timeout : Timeout) :
    Milliseconds :=
  if (asked timeout).getD 0 ≠ 0 then (asked timeout).getD 0
  else if timeout.configured config ≠ 0 then timeout.configured config
  else timeout.builtIn

theorem effective_ne_zero (asked : Timeout → Option UInt64) (config : Config)
    (timeout : Timeout) : timeout.effective asked config ≠ 0 := by
  unfold effective
  split_ifs with own configured
  · exact own
  · exact configured
  · cases timeout <;> decide

/-! ## Timeouts of tasks -/

/-- The timeout in the draft of a task. -/
def drafted (draft : TaskDraft) : Timeout → Option UInt64
  | connection => draft.http.bind (·.connectionTimeout)
  | read => draft.http.bind (·.readTimeout)
  | execution => draft.cli.bind (·.executionTimeout)

/-- The timeout in a task. -/
def kept (task : Task) (timeout : Timeout) : Option Milliseconds :=
  match task.payload, timeout with
  | .http http, connection => http.connectionTimeout
  | .http http, read => http.readTimeout
  | .cli cli, execution => cli.executionTimeout
  | _, _ => none

/-- The timeout in an invocation. -/
def carried (invocation : Invocation) (timeout : Timeout) : Option Milliseconds :=
  match invocation, timeout with
  | .http request, connection => request.connectionTimeout
  | .http request, read => request.readTimeout
  | .cli command, execution => command.executionTimeout
  | _, _ => none

/-- Validation takes zero out. -/
theorem kept_of_validate {draft : TaskDraft} {task : Task} (valid : draft.validate = .ok task)
    (timeout : Timeout) : timeout.kept task = nonzero (timeout.drafted draft) := by
  obtain ⟨-, payload, requires, checked, -, rfl⟩ := TaskDraft.validate_eq_ok_iff.mp valid
  rcases TaskDraft.validatePayload_eq_ok_iff.mp checked with
    ⟨http, task, -, given, absent, built, rfl⟩ | ⟨cli, task, -, absent, given, built, rfl⟩
  · obtain ⟨_, _, _, _, -, -, -, -, -, -, rfl⟩ := HttpDraft.validate_eq_ok_iff.mp built
    cases timeout with
    | connection =>
        rw [drafted, given]
        rfl
    | read =>
        rw [drafted, given]
        rfl
    | execution =>
        rw [drafted, absent]
        rfl
  · obtain ⟨-, _, -, rfl⟩ := CliDraft.validate_eq_ok_iff.mp built
    cases timeout with
    | connection =>
        rw [drafted, absent]
        rfl
    | read =>
        rw [drafted, absent]
        rfl
    | execution =>
        rw [drafted, given]
        rfl

/-- Resolution leaves the timeouts as they are. -/
theorem carried_of_resolve {context : Context} {task : Task} {invocation : Invocation}
    (resolved : task.resolve context = .ok invocation) (timeout : Timeout) :
    timeout.carried invocation = timeout.kept task := by
  unfold Task.resolve at resolved
  unfold kept
  split at resolved
  · rename_i http payload
    obtain ⟨request, done, rfl⟩ := map_eq_ok_iff.mp resolved
    obtain ⟨headers, -, done⟩ := bind_eq_ok_iff.mp done
    obtain ⟨body, -, done⟩ := bind_eq_ok_iff.mp done
    obtain ⟨url, -, done⟩ := bind_eq_ok_iff.mp done
    cases done
    rw [payload]
    cases timeout <;> rfl
  · rename_i cli payload
    obtain ⟨command, done, rfl⟩ := map_eq_ok_iff.mp resolved
    obtain ⟨argv, -, done⟩ := bind_eq_ok_iff.mp done
    cases done
    rw [payload]
    cases timeout <;> rfl

/-! ## Timeouts in documents -/

/-- The value in the item of a task. -/
def written (item : Json) : Timeout → Option Json
  | connection =>
    (TaskDraft.record.given? "http" item).bind (HttpDraft.record.given? "connectionTimeOut")
  | read => (TaskDraft.record.given? "http" item).bind (HttpDraft.record.given? "readTimeOut")
  | execution =>
    (TaskDraft.record.given? "cli" item).bind (CliDraft.record.given? "executionTimeOut")

/-- A value in a document stands for a timeout. Null is like a value that is left out. -/
inductive Means : Option Json → Option UInt64 → Prop
  | absent : Means none none
  | null : Means (some .null) none
  | number {word : UInt64} : Means (some (.ofNat word.toNat)) (some word)

theorem Means.unique {given : Option Json} {first second : Option UInt64}
    (means : Means given first) (also : Means given second) : first = second := by
  cases means with
  | absent =>
      cases also
      rfl
  | null =>
      generalize same : some JsonTree.null = given at also
      cases also with
      | absent => cases same
      | null => rfl
      | number => cases same
  | @number word =>
      generalize same : some (Json.ofNat word.toNat) = given at also
      cases also with
      | absent => cases same
      | null => cases same
      | number =>
          have words := UInt64.toNat_inj.mp (Json.ofNat_inj.mp (Option.some.inj same))
          rw [words]

/-- A number of 64 bits is read from what stands for it. -/
theorem means_of_optional {value : Json} {timeout : Option UInt64}
    (found : Schema.optional word64 value = .ok timeout) : Means (some value) timeout := by
  unfold Schema.optional at found
  split at found
  · cases found
    exact .null
  · obtain ⟨word, read, rfl⟩ := map_eq_ok_iff.mp found
    rw [natural_map_eq_ok_iff.mp read]
    exact .number

/-- What a part of a record means, where the part is itself read from a record. -/
theorem means_of_part {α : Type} {record : Record α} {name : String} {shown : α → Option UInt64}
    (holds : record.Holds name (Schema.optional word64) shown)
    (unset : shown record.initial = none) {value : Json} {found : Option α}
    (read : Schema.optional record.read value = .ok found) :
    Means (record.given? name value) (found.bind shown) := by
  unfold Schema.optional at read
  split at read
  · cases read
    exact .absent
  · obtain ⟨part, done, rfl⟩ := map_eq_ok_iff.mp read
    have given := holds.of_read done
    rw [Option.bind_some]
    cases named : record.given? name value with
    | none =>
        rw [named] at given
        rw [given, unset]
        exact .absent
    | some number =>
        rw [named] at given
        exact means_of_optional given

/-- What a record means through one of its parts. -/
theorem means_of_read {α β : Type} {record : Record α} {inner : Record β} {part name : String}
    {held : α → Option β} {shown : β → Option UInt64}
    (outer : record.Holds part (Schema.optional inner.read) held)
    (empty : held record.initial = none)
    (holds : inner.Holds name (Schema.optional word64) shown)
    (unset : shown inner.initial = none) {value : Json} {done : α}
    (read : record.read value = .ok done) :
    Means ((record.given? part value).bind (inner.given? name)) ((held done).bind shown) := by
  have given := outer.of_read read
  cases named : record.given? part value with
  | none =>
      rw [named] at given
      rw [given, empty]
      exact .absent
  | some value =>
      rw [named] at given
      exact means_of_part holds unset given

/-- A draft has the timeouts that its item writes. -/
theorem means_drafted {item : Json} {draft : TaskDraft}
    (read : TaskDraft.record.read item = .ok draft) (timeout : Timeout) :
    Means (timeout.written item) (timeout.drafted draft) := by
  cases timeout with
  | connection =>
      exact means_of_read TaskDraft.holds_http rfl HttpDraft.holds_connectionTimeout rfl read
  | read =>
      exact means_of_read TaskDraft.holds_http rfl HttpDraft.holds_readTimeout rfl read
  | execution =>
      exact means_of_read TaskDraft.holds_cli rfl CliDraft.holds_executionTimeout rfl read

/-! ## Timeouts in scripts -/

/-- The timeout that a call sets. -/
def set? : Timeout → TaskSetting → Option UInt64
  | connection => TaskSetting.connectionTimeout?
  | read => TaskSetting.readTimeout?
  | execution => TaskSetting.executionTimeout?

/-- The timeout that the last call for it sets, if the task is of its kind. -/
def called (script : TaskScript) (timeout : Timeout) : Option UInt64 :=
  match script.opening, timeout with
  | .service .., execution => none
  | .program .., connection => none
  | .program .., read => none
  | _, _ => lastOf timeout.set? script.settings

theorem drafted_script (script : TaskScript) (timeout : Timeout) :
    timeout.drafted script.draft = timeout.called script := by
  rw [TaskScript.draft_eq]
  obtain ⟨opening, settings⟩ := script
  cases opening <;> cases timeout <;> rfl

end Timeout

/-! ## Timeouts that tasks ask for -/

/-- The timeouts that a task asks for, in its place in a document or by the calls that build it. -/
inductive Task.Asks : Task → (Timeout → Option UInt64) → Prop
  | parsed {bytes : List UInt8} {value item : Json} {workflow : Workflow} {items : List Json}
      {index : Nat} {task : Task} {asked : Timeout → Option UInt64}
      (decoded : Document.decode bytes = some value)
      (parsed : Document.parse bytes = .ok workflow)
      (listed : WorkflowDraft.record.given? "tasks" value = some (.array items))
      (place : items[index]? = some item) (same : workflow.tasks[index]? = some task)
      (means : ∀ timeout, Timeout.Means (timeout.written item) (asked timeout)) :
      Asks task asked
  | built {script : TaskScript} {task : Task} (built : script.build = .ok task) :
      Asks task fun timeout => timeout.called script
  | assembled {name : String} {calls : List WorkflowCall} {workflow : Workflow} {index : Nat}
      {script : TaskScript} {task : Task}
      (assembled : buildWorkflow name (calls.map WorkflowCall.setting) = .ok workflow)
      (place : (calls.filterMap WorkflowCall.task?)[index]? = some script)
      (same : workflow.tasks[index]? = some task) :
      Asks task fun timeout => timeout.called script

/-- Every task that a document or a builder gives asks for some timeouts, if only for none. -/
theorem Task.Accepted.exists_asks {task : Task} (accepted : task.Accepted) :
    ∃ asked, task.Asks asked := by
  cases accepted with
  | built _ built => exact ⟨_, .built built⟩
  | assembled _ assembled member =>
      obtain ⟨index, same⟩ := List.mem_iff_getElem?.mp member
      obtain ⟨script, place, -⟩ := related_of_getElem? (scripts_of_buildWorkflow assembled) same
      exact ⟨_, .assembled assembled place same⟩
  | @parsed bytes workflow _ parsed member =>
      cases decoded : Document.decode bytes with
      | none =>
          rw [Document.parse, decoded] at parsed
          cases parsed
      | some value =>
          obtain ⟨items, drafts, listed, read, valid⟩ := drafts_of_parse decoded parsed
          obtain ⟨index, same⟩ := List.mem_iff_getElem?.mp member
          obtain ⟨draft, drafted, -⟩ := related_of_getElem? valid same
          obtain ⟨item, place, read⟩ := related_of_getElem? read drafted
          exact ⟨_, .parsed decoded parsed listed place same (Timeout.means_drafted read)⟩

/-- A task holds the timeouts that it asks for, apart from those that are zero. -/
theorem Task.Asks.kept {task : Task} {asked : Timeout → Option UInt64} (asks : task.Asks asked)
    (timeout : Timeout) : timeout.kept task = nonzero (asked timeout) := by
  have script {script : TaskScript} (built : script.build = .ok task) :
      timeout.kept task = nonzero (timeout.called script) := by
    rw [Timeout.kept_of_validate built, Timeout.drafted_script]
  cases asks with
  | built built => exact script built
  | assembled assembled place same =>
      obtain ⟨other, found, built⟩ := related_of_getElem? (scripts_of_buildWorkflow assembled) same
      cases place.symm.trans found
      exact script built
  | parsed decoded parsed listed place same means =>
      -- The draft in the same place is read from the item and becomes the task.
      obtain ⟨items, drafts, listed', read, valid⟩ := drafts_of_parse decoded parsed
      cases listed.symm.trans listed'
      obtain ⟨draft, drafted, valid⟩ := related_of_getElem? valid same
      obtain ⟨item, place', read⟩ := related_of_getElem? read drafted
      cases place.symm.trans place'
      rw [Timeout.kept_of_validate valid,
        (means timeout).unique (Timeout.means_drafted read timeout)]

/-! ## Timeouts that run out -/

namespace Program

/-- A run is over before the time is up. -/
def Run.Over (run : Run) (limit : Milliseconds) : Prop :=
  ∃ elapsed, run.milliseconds = some elapsed ∧ elapsed < limit.toNat

theorem Run.inTime_iff {run : Run} {limit : Milliseconds} :
    run.inTime limit = true ↔ run.Over limit := by
  unfold inTime Over
  cases run.milliseconds with
  | none => simp
  | some elapsed => simp

theorem judge_eq_timeout_iff {run : Run} {limit ms : Milliseconds} :
    judge limit run = .error (.timeout ms) ↔ ms = limit ∧ ¬ run.Over limit := by
  rw [← Run.inTime_iff, judge]
  cases inTime : run.inTime limit with
  | false =>
      rw [Bool.not_false, if_pos rfl, Except.error.injEq, ExecutionError.timeout.injEq, eq_comm,
        and_iff_left Bool.false_ne_true]
  | true =>
      rw [Bool.not_true, if_neg Bool.false_ne_true]
      refine iff_of_false (fun same => ?_) fun both => both.2 rfl
      split_ifs at same with success
      exact nomatch Except.error.inj same

theorem run_eq_timeout_iff {σ : Type} {default ms : Milliseconds} {machine : Machine σ}
    {command : CliInvocation} {state : σ} :
    (run default machine command state).1 = .error (.timeout ms) ↔
      ms = effectiveLimit default command ∧
        ∃ program arguments started after, command.argv = program :: arguments ∧
          machine.start program arguments state = (.ok started, after) ∧
          ¬ started.Over (effectiveLimit default command) := by
  unfold run
  cases command.argv with
  | nil =>
      refine iff_of_false (fun same => nomatch Except.error.inj same) ?_
      rintro ⟨-, _, _, _, _, named, -⟩
      cases named
  | cons program arguments =>
      dsimp only
      cases attempt : machine.start program arguments state with
      | mk answer after =>
          cases answer with
          | error cause =>
              refine iff_of_false (fun same => nomatch Except.error.inj same) ?_
              rintro ⟨-, _, _, _, _, named, started, -⟩
              cases named
              cases attempt.symm.trans started
          | ok found =>
              dsimp only
              rw [judge_eq_timeout_iff]
              refine and_congr_right fun _ => ⟨fun late => ?_, ?_⟩
              · exact ⟨program, arguments, found, after, rfl, attempt, late⟩
              · rintro ⟨_, _, started, _, named, again, late⟩
                cases named
                cases attempt.symm.trans again
                exact late

end Program

/-! ## The law of timeouts -/

theorem Timeout.getD_nonzero (given : Option UInt64) (configured builtIn : UInt64) :
    (nonzero given).getD (Config.timeoutOr builtIn configured) =
      if given.getD 0 ≠ 0 then given.getD 0
      else if configured ≠ 0 then configured else builtIn := by
  have default : Config.timeoutOr builtIn configured =
      if configured ≠ 0 then configured else builtIn := by
    rw [Config.timeoutOr, ite_not]
  rw [default]
  cases given with
  | none => rfl
  | some own =>
      rw [nonzero, Option.filter_some, Option.getD_some]
      by_cases unset : own = 0
      · simp only [unset, ne_eq, not_true_eq_false, decide_false, Bool.false_eq_true, ↓reduceIte,
          Option.getD_none]
      · simp only [unset, ne_eq, not_false_eq_true, decide_true, ↓reduceIte, Option.getD_some]

/-- What an invocation carries gives way to the effective timeout. -/
theorem Task.Asks.effective {task : Task} {asked : Timeout → Option UInt64}
    (asks : task.Asks asked) (config : Config) {context : Context} {invocation : Invocation}
    (resolved : task.resolve context = .ok invocation) (timeout : Timeout) :
    (timeout.carried invocation).getD
        (Config.timeoutOr timeout.builtIn (timeout.configured config)) =
      timeout.effective asked config := by
  rw [Timeout.carried_of_resolve resolved, asks.kept, Timeout.getD_nonzero]
  rfl

theorem Task.resolve_http {context : Context} {task : Task} {http : HttpTask}
    {invocation : Invocation} (payload : task.payload = .http http)
    (resolved : task.resolve context = .ok invocation) : ∃ request, invocation = .http request := by
  simp only [Task.resolve, payload] at resolved
  obtain ⟨request, -, rfl⟩ := map_eq_ok_iff.mp resolved
  exact ⟨request, rfl⟩

theorem Task.resolve_cli {context : Context} {task : Task} {cli : CliTask}
    {invocation : Invocation} (payload : task.payload = .cli cli)
    (resolved : task.resolve context = .ok invocation) : ∃ command, invocation = .cli command := by
  simp only [Task.resolve, payload] at resolved
  obtain ⟨command, -, rfl⟩ := map_eq_ok_iff.mp resolved
  exact ⟨command, rfl⟩

section Execution

variable {σ τ : Type} {config : Config} {network : Http.Network σ} {machine : Program.Machine τ}

/-- A request is sent within limits: by a client with these limits, in exchanges within them, and a
timeout that is reported is the limit for the phase in which the last exchange broke off. -/
structure SendsWithin (limits : Http.Limits) (config : Config) (network : Http.Network σ)
    (machine : Program.Machine τ) (request : HttpRequest) (state : ExecutorState σ τ) : Prop where
  client :
    (Http.send config.limits network request state.clients state.network).client.limits = limits
  course :
    let done := (config.executor network machine).execute (.http request) state
    ∃ exchanges, network.Makes limits state.network exchanges done.2.network ∧
      (Http.send config.limits network request state.clients state.network).sent =
        exchanges.map Http.Exchange.request ∧
      ∀ ms, done.1 = .error (.timeout ms) ↔
        ∃ last cause, exchanges.getLast? = some last ∧ last.BreaksOff cause ∧
          cause.timedOut = true ∧ ms = limits.phase cause

/-- A command is run within a limit: it times out just if its process is not over in time, and then
the limit is reported. -/
def RunsWithin (limit : Milliseconds) (config : Config) (network : Http.Network σ)
    (machine : Program.Machine τ) (command : CliInvocation) (state : ExecutorState σ τ) : Prop :=
  let done := (config.executor network machine).execute (.cli command) state
  ∀ ms, done.1 = .error (.timeout ms) ↔
    ms = limit ∧ ∃ program arguments started after, command.argv = program :: arguments ∧
      machine.start program arguments state.machine = (.ok started, after) ∧ ¬ started.Over limit

theorem sendsWithin_effectiveLimits (request : HttpRequest) (state : ExecutorState σ τ) :
    SendsWithin (Http.effectiveLimits config.limits request) config network machine request
      state where
  client := Http.limits_client_send ..
  course := by
    cases built : Http.Outbound.build request with
    | error cause =>
        dsimp only [Config.executor]
        rw [Http.send_of_refused built]
        refine ⟨[], .nil, rfl, fun ms => ?_⟩
        refine iff_of_false (fun same => nomatch Except.error.inj same) ?_
        exact fun ⟨_, _, ends, _⟩ => nomatch ends
    | ok outbound =>
        obtain ⟨exchanges, course⟩ := Http.send_course built
        exact ⟨exchanges, course.made, course.sent, fun ms => course.ended.timeout_iff⟩

theorem runsWithin_effectiveLimit (command : CliInvocation) (state : ExecutorState σ τ) :
    RunsWithin (Program.effectiveLimit config.effectiveExecutionTimeout command) config network
      machine command state := by
  intro ms
  have answer : ((config.executor network machine).execute (.cli command) state).1 =
      (Program.run config.effectiveExecutionTimeout machine command state.machine).1 := rfl
  rw [answer]
  exact Program.run_eq_timeout_iff

end Execution

/-- The timeouts that count when an invocation of a task is carried out. -/
structure TimeoutLaw (task : Task) (asked : Timeout → Option UInt64) (config : Config)
    (invocation : Invocation) : Prop where
  nonzero : ∀ timeout : Timeout, timeout.effective asked config ≠ 0
  sends : ∀ http, task.payload = .http http → ∃ request, invocation = .http request ∧
    ∀ {σ τ : Type} (network : Http.Network σ) (machine : Program.Machine τ)
      (state : ExecutorState σ τ),
      SendsWithin ⟨Timeout.connection.effective asked config, Timeout.read.effective asked config⟩
        config network machine request state
  runs : ∀ cli, task.payload = .cli cli → ∃ command, invocation = .cli command ∧
    ∀ {σ τ : Type} (network : Http.Network σ) (machine : Program.Machine τ)
      (state : ExecutorState σ τ),
      RunsWithin (Timeout.execution.effective asked config) config network machine command state

/-- **Effective timeouts.** Every task that a document or a builder gives asks for timeouts. When it
is carried out, a request is sent within the effective timeouts for the connection and for the
response, and a command is run within the one for its execution. None of them is zero, and they are
the ones that errors name. -/
theorem timeoutLaw (task : Task) :
    (task.Accepted → ∃ asked, task.Asks asked) ∧
      ∀ asked, task.Asks asked → ∀ config context invocation,
        task.resolve context = .ok invocation → TimeoutLaw task asked config invocation := by
  refine ⟨Task.Accepted.exists_asks, fun asked asks config context invocation resolved => ?_⟩
  have effective := asks.effective config resolved
  exact {
    nonzero := Timeout.effective_ne_zero asked config
    sends := by
      intro http payload
      obtain ⟨request, rfl⟩ := Task.resolve_http payload resolved
      refine ⟨request, rfl, fun network machine state => ?_⟩
      have limits : Http.effectiveLimits config.limits request =
          ⟨Timeout.connection.effective asked config, Timeout.read.effective asked config⟩ :=
        congrArg₂ Http.Limits.mk (effective .connection) (effective .read)
      rw [← limits]
      exact sendsWithin_effectiveLimits request state
    runs := by
      intro cli payload
      obtain ⟨command, rfl⟩ := Task.resolve_cli payload resolved
      refine ⟨command, rfl, fun network machine state => ?_⟩
      rw [← effective .execution]
      exact runsWithin_effectiveLimit command state }

/-- A request whose task sets a timeout of zero and another one. -/
def pingScript : TaskScript where
  opening := .service "ping" "GET" "http://127.0.0.1/"
  settings := [.connectionTimeout 0, .readTimeout 100, .readTimeout 250]

def pingTask : Task where
  name := "ping"
  requires := []
  retries := 0
  payload := .http ⟨⟨"http://127.0.0.1/", [.literal "http://127.0.0.1/"]⟩, .get, [], .empty, none,
    [], none, some 250⟩

def pingRequest : HttpRequest :=
  ⟨.get, "http://127.0.0.1/", [], .empty, none, [], none, some 250⟩

/-- The connection is given the built-in timeout, and the response the one that was set last. -/
theorem timeoutLaw_ping :
    pingScript.build = .ok pingTask ∧
      pingTask.resolve Context.empty = .ok (.http pingRequest) ∧
      TimeoutLaw pingTask (fun timeout => timeout.called pingScript) Config.builtIn
        (.http pingRequest) ∧
      Timeout.connection.effective (fun timeout => timeout.called pingScript) Config.builtIn =
        10000 ∧
      Timeout.read.effective (fun timeout => timeout.called pingScript) Config.builtIn = 250 := by
  have built : pingScript.build = .ok pingTask := by decide +kernel
  have resolved : pingTask.resolve Context.empty = .ok (.http pingRequest) := by decide +kernel
  exact ⟨built, resolved, (timeoutLaw pingTask).2 _ (.built built) _ _ _ resolved, by decide,
    by decide⟩

end Runbook
