import Runbook.Proofs.Resolution
import Runbook.Proofs.Run.Step

/-!
# Records of tasks

An executor may keep a record of its calls and answers (`Executor.recorded`). The record of a task
consists of repetitions of the one invocation that the task resolves to, and its answers decide the
result (`Engine.runTask_recorded`).
-/

namespace Runbook

variable {σ : Type}

/-- A call of an executor, and the answer to it. -/
structure Exchange where
  invocation : Invocation
  answer : Except ExecutionError Output

/-- The executor that also keeps a record of its calls and answers. -/
def Executor.recorded (executor : Executor σ) : Executor (σ × List Exchange) where
  execute invocation state :=
    let (answer, after) := executor.execute invocation state.1
    (answer, after, state.2 ++ [⟨invocation, answer⟩])

namespace Engine

/-- The most calls that may be made for a task. -/
def callLimit (task : Task) : Nat := min (task.retries.toNat + 1) (2 ^ 32 - 1)

/-- The result of a task accounts for its calls in a context. -/
structure Accounts (task : Task) (context : Context) (result : TaskResult)
    (exchanges : List Exchange) : Prop where
  name : result.name = task.name
  /-- All calls are made with the one invocation that the task resolves to. -/
  calls : exchanges.map Exchange.invocation = match task.resolve context with
    | .ok invocation => List.replicate result.attempts invocation
    | .error _ => []
  count : exchanges.length = result.attempts
  limit : result.attempts ≤ callLimit task
  /-- No call is made exactly when the task is not resolved. -/
  unresolved_iff : result.attempts = 0 ↔ ∃ cause, result.error = some (.resolution cause)
  /-- The first requirement without a value is reported, whatever the templates are. -/
  unmet : ∀ before reference behind, task.requires = before ++ reference :: behind →
    (∀ earlier ∈ before, context.lookup earlier ≠ none) → context.lookup reference = none →
      result = .failure task.name 0 (.resolution (.unmet reference.text))
  /-- With all requirements met, a template reference without a value is reported. -/
  missing : (∀ reference ∈ task.requires, context.lookup reference ≠ none) → ∀ cause,
    task.resolve context = .error cause → result = .failure task.name 0 (.resolution cause) ∧
      ∃ reference ∈ task.templateReferences,
        context.lookup reference = none ∧ cause = .missing reference.text
  /-- A task that can be resolved is called for. -/
  called : (∀ reference ∈ task.requires, context.lookup reference ≠ none) → ∀ invocation,
    task.resolve context = .ok invocation → 0 < result.attempts
  /-- Only failures are followed by another call. -/
  retried : ∀ exchange ∈ exchanges.dropLast, ∃ cause, exchange.answer = .error cause
  succeeded_iff : ∀ output, result.status = .succeeded ∧ result.output = some output ↔
    exchanges.getLast?.map Exchange.answer = some (.ok output)
  failed_iff : ∀ cause, result.status = .failed ∧ result.error = some (.execution cause) ↔
    exchanges.getLast?.map Exchange.answer = some (.error cause)
  /-- An execution error is final only when no call is left. -/
  exhausted : ∀ cause, result.error = some (.execution cause) → result.attempts = callLimit task

theorem callLimit_eq (task : Task) : callLimit task = retryBudget task + 1 := by
  unfold callLimit retryBudget greatestAttempts
  omega

/-- Calls with one invocation: failures, and the last answer. -/
def tries (invocation : Invocation) (failures : List ExecutionError)
    (answer : Except ExecutionError Output) : List Exchange :=
  failures.map (fun cause => ⟨invocation, .error cause⟩) ++ [⟨invocation, answer⟩]

section Tries

variable (invocation : Invocation) (failures : List ExecutionError)
  (answer : Except ExecutionError Output)

theorem tries_cons (cause : ExecutionError) :
    tries invocation (cause :: failures) answer =
      ⟨invocation, .error cause⟩ :: tries invocation failures answer := rfl

theorem length_tries : (tries invocation failures answer).length = failures.length + 1 := by
  rw [tries, List.length_append, List.length_map, List.length_singleton]

theorem invocations_tries :
    (tries invocation failures answer).map Exchange.invocation =
      List.replicate (failures.length + 1) invocation := by
  induction failures with
  | nil => rfl
  | cons cause failures ih =>
      rw [tries_cons, List.map_cons, ih, ← List.replicate_succ]
      rfl

theorem getLast?_tries :
    (tries invocation failures answer).getLast?.map Exchange.answer = some answer := by
  rw [tries, List.getLast?_concat, Option.map_some]

theorem error_of_mem_dropLast_tries {exchange : Exchange}
    (member : exchange ∈ (tries invocation failures answer).dropLast) :
    ∃ cause, exchange.answer = .error cause := by
  rw [tries, List.dropLast_concat] at member
  obtain ⟨cause, -, rfl⟩ := List.mem_map.mp member
  exact ⟨cause, rfl⟩

end Tries

/-- The record of the attempts at one invocation. Keeping it does not disturb them. -/
theorem attempt_recorded (executor : Executor σ) (invocation : Invocation) (retries : Nat)
    (state : σ) (log : List Exchange) :
    ∃ failures : List ExecutionError,
      attempt executor.recorded invocation retries (state, log) =
        ⟨(attempt executor invocation retries state).count,
          (attempt executor invocation retries state).answer,
          (attempt executor invocation retries state).state,
          log ++ tries invocation failures (attempt executor invocation retries state).answer⟩ ∧
      (attempt executor invocation retries state).count = failures.length + 1 ∧
      failures.length ≤ retries ∧
      ∀ cause, (attempt executor invocation retries state).answer = .error cause →
        failures.length = retries := by
  induction retries generalizing state log with
  | zero => exact ⟨[], rfl, rfl, Nat.le_refl 0, fun _ _ => rfl⟩
  | succ retries ih =>
      cases answered : executor.execute invocation state with
      | mk answer after =>
          cases answer with
          | ok output =>
              refine ⟨[], ?_, ?_, Nat.zero_le _, ?_⟩
              · simp only [attempt, Executor.recorded, answered]
                rfl
              · simp only [attempt, answered, List.length_nil]
              · intro cause failed
                simp only [attempt, answered, reduceCtorEq] at failed
          | error first =>
              obtain ⟨failures, recorded, count, within, spent⟩ :=
                ih after (log ++ [⟨invocation, .error first⟩])
              have later : attempt executor invocation (retries + 1) state =
                  { attempt executor invocation retries after with
                    count := (attempt executor invocation retries after).count + 1 } := by
                simp only [attempt, answered]
              refine ⟨first :: failures, ?_, ?_, Nat.succ_le_succ within, ?_⟩
              · have logged : attempt executor.recorded invocation (retries + 1) (state, log) =
                    { attempt executor.recorded invocation retries
                        (after, log ++ [⟨invocation, .error first⟩]) with
                      count := (attempt executor.recorded invocation retries
                        (after, log ++ [⟨invocation, .error first⟩])).count + 1 } := by
                  simp only [attempt, Executor.recorded, answered]
                rw [logged, recorded, later, tries_cons, List.append_assoc]
                rfl
              · rw [later, List.length_cons, count]
              · intro cause failed
                rw [later] at failed
                rw [List.length_cons, spent cause failed]

theorem firstUnmet_eq_some_iff {task : Task} {context : Context} {reference : Reference} :
    firstUnmet task context = some reference ↔
      ∃ before behind, task.requires = before ++ reference :: behind ∧
        (∀ earlier ∈ before, context.lookup earlier ≠ none) ∧ context.lookup reference = none := by
  simp only [firstUnmet, List.find?_eq_some_iff_append, Context.contains, Bool.not_eq_true',
    Option.isSome_eq_false_iff, Option.isNone_iff_eq_none, Bool.not_not,
    ← Option.isSome_iff_ne_none]
  constructor
  · rintro ⟨missing, before, behind, split, bound⟩
    exact ⟨before, behind, split, bound, missing⟩
  · rintro ⟨before, behind, split, bound, missing⟩
    exact ⟨missing, before, behind, split, bound⟩

theorem firstUnmet_eq_none_iff {task : Task} {context : Context} :
    firstUnmet task context = none ↔
      ∀ reference ∈ task.requires, context.lookup reference ≠ none := by
  simp only [firstUnmet, List.find?_eq_none, Context.contains, Bool.not_eq_true',
    Bool.not_eq_false, ← Option.isSome_iff_ne_none]

theorem prepare_of_unmet {task : Task} {context : Context} {reference : Reference}
    (found : firstUnmet task context = some reference) :
    prepare task context = .error (.unmet reference.text) := by
  rw [prepare, found]

theorem prepare_of_met {task : Task} {context : Context}
    (met : firstUnmet task context = none) : prepare task context = task.resolve context := by
  rw [prepare, met]

/-- A task comes to the same invocation, or to the same error, in contexts that give the same values
to its references. -/
theorem prepare_congr {task : Task} {left right : Context}
    (agree : ∀ reference ∈ task.requires ++ task.templateReferences,
      left.lookup reference = right.lookup reference) :
    prepare task left = prepare task right := by
  have unmet : firstUnmet task left = firstUnmet task right := by
    rw [firstUnmet, firstUnmet, ← List.head?_filter, ← List.head?_filter]
    congr 1
    apply List.filter_congr
    intro reference member
    rw [Context.contains, Context.contains, agree reference (List.mem_append_left _ member)]
  have resolved : task.resolve left = task.resolve right :=
    Task.resolve_congr fun reference member => agree reference (List.mem_append_right _ member)
  rw [prepare, prepare, unmet, resolved]

/-- A task that is not resolved is never called for. -/
theorem accounts_of_error {task : Task} {context : Context} {cause : ResolutionError}
    (failed : prepare task context = .error cause) :
    Accounts task context (.failure task.name 0 (.resolution cause)) [] where
  name := rfl
  calls := by
    cases task.resolve context with
    | ok invocation => rfl
    | error found => rfl
  count := rfl
  limit := Nat.zero_le _
  unresolved_iff := iff_of_true rfl ⟨cause, rfl⟩
  unmet before reference behind split bound missing := by
    rw [prepare_of_unmet (firstUnmet_eq_some_iff.mpr ⟨before, behind, split, bound, missing⟩)]
      at failed
    cases failed
    rfl
  missing met found unresolved := by
    rw [prepare_of_met (firstUnmet_eq_none_iff.mpr met), unresolved] at failed
    cases failed
    exact ⟨rfl, Task.exists_missing_of_resolve_error unresolved⟩
  called met invocation resolved := by
    rw [prepare_of_met (firstUnmet_eq_none_iff.mpr met), resolved] at failed
    cases failed
  retried _ member := nomatch member
  succeeded_iff output := by
    simp only [TaskResult.failure, reduceCtorEq, false_and, List.getLast?_nil, Option.map_none]
  failed_iff found := by
    simp only [TaskResult.failure, Option.some.injEq, reduceCtorEq, and_false, List.getLast?_nil,
      Option.map_none]
  exhausted found failure := by
    simp only [TaskResult.failure, Option.some.injEq, reduceCtorEq] at failure

/-- The result of a task whose last call had an answer. -/
def answered (task : Task) (attempts : Nat) : Except ExecutionError Output → TaskResult
  | .ok output => .success task.name attempts output
  | .error cause => .failure task.name attempts (.execution cause)

/-- A task that is resolved is called for until a success, or until no call is left. -/
theorem accounts_of_tries {task : Task} {context : Context} {invocation : Invocation}
    (resolved : prepare task context = .ok invocation) {failures : List ExecutionError}
    {answer : Except ExecutionError Output} (within : failures.length ≤ retryBudget task)
    (spent : ∀ cause, answer = .error cause → failures.length = retryBudget task) :
    Accounts task context (answered task (failures.length + 1) answer)
      (tries invocation failures answer) := by
  have met : firstUnmet task context = none := by
    cases found : firstUnmet task context with
    | none => rfl
    | some reference =>
        rw [prepare_of_unmet found] at resolved
        cases resolved
  have invoked : task.resolve context = .ok invocation := prepare_of_met met ▸ resolved
  have attempts : (answered task (failures.length + 1) answer).attempts = failures.length + 1 := by
    cases answer <;> rfl
  refine
    { name := by cases answer <;> rfl
      calls := by rw [invoked, attempts, invocations_tries]
      count := by rw [attempts, length_tries]
      limit := by rw [attempts, callLimit_eq]; exact Nat.succ_le_succ within
      unresolved_iff := ?_
      unmet := ?_
      missing := ?_
      called := fun _ _ _ => by rw [attempts]; exact Nat.succ_pos _
      retried := fun _ member => error_of_mem_dropLast_tries _ _ _ member
      succeeded_iff := ?_
      failed_iff := ?_
      exhausted := ?_ }
  · rw [attempts]
    refine iff_of_false (Nat.succ_ne_zero _) ?_
    rintro ⟨cause, unresolved⟩
    cases answer <;> cases unresolved
  · intro before reference behind split bound missing
    rw [firstUnmet_eq_some_iff.mpr ⟨before, behind, split, bound, missing⟩] at met
    cases met
  · intro _ cause unresolved
    rw [invoked] at unresolved
    cases unresolved
  · intro output
    rw [getLast?_tries]
    cases answer with
    | ok found => simp [answered, TaskResult.success]
    | error found => simp [answered, TaskResult.failure]
  · intro cause
    rw [getLast?_tries]
    cases answer with
    | ok found => simp [answered, TaskResult.success]
    | error found => simp [answered, TaskResult.failure]
  · intro cause failed
    rw [attempts, callLimit_eq]
    cases answer with
    | ok found => cases failed
    | error found => rw [spent found rfl]

/-- The record of a task. Keeping it does not disturb the task. -/
theorem runTask_recorded (executor : Executor σ) (task : Task) (context : Context) (state : σ)
    (log : List Exchange) :
    ∃ exchanges : List Exchange,
      runTask executor.recorded task context (state, log) =
        ⟨(runTask executor task context state).result, (runTask executor task context state).calls,
          (runTask executor task context state).state, log ++ exchanges⟩ ∧
      (runTask executor task context state).calls = exchanges.map Exchange.invocation ∧
      Accounts task context (runTask executor task context state).result exchanges := by
  cases prepared : prepare task context with
  | error cause =>
      refine ⟨[], ?_, ?_, ?_⟩
      · simp only [runTask, prepared, List.append_nil]
      · simp only [runTask, prepared, List.map_nil]
      · simp only [runTask, prepared]
        exact accounts_of_error prepared
  | ok invocation =>
      obtain ⟨failures, recorded, count, within, spent⟩ :=
        attempt_recorded executor invocation (retryBudget task) state log
      have result : (runTask executor task context state).result =
          answered task (failures.length + 1)
            (attempt executor invocation (retryBudget task) state).answer := by
        rw [← count]
        simp only [runTask, prepared]
        cases (attempt executor invocation (retryBudget task) state).answer <;> rfl
      refine
        ⟨tries invocation failures (attempt executor invocation (retryBudget task) state).answer,
          ?_, ?_, ?_⟩
      · simp only [runTask, prepared, recorded]
      · rw [invocations_tries, ← count]
        simp only [runTask, prepared]
      · rw [result]
        exact accounts_of_tries prepared within spent

end Engine

end Runbook
