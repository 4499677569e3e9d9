import Runbook.Proofs.Acceptance
import Runbook.Proofs.Context
import Runbook.Proofs.Run.Answers

/-!
# Independent tasks

Two tasks that stand next to each other, neither of which refers to the output of the other, may
change places (`Engine.run_swap`). Each of them is resolved alike with and without the output of the
other, and outputs under different names may be published in either order.
-/

namespace Runbook

/-- No reference of the task leads into the name space. -/
def Task.Avoids (task : Task) (space : String) : Prop :=
  ∀ reference ∈ task.requires ++ task.templateReferences, reference.space ≠ space

instance (task : Task) (space : String) : Decidable (task.Avoids space) :=
  inferInstanceAs (Decidable (∀ reference ∈ task.requires ++ task.templateReferences, _))

/-- Outputs under different names may be published in either order. -/
theorem Context.publish_comm (context : Context) {name other : String} (different : name ≠ other)
    (output otherOutput : Output) :
    (context.publish name output).publish other otherOutput =
      (context.publish other otherOutput).publish name output :=
  congrArg Context.mk (Dictionary.insert_comm different.symm _ _ _)

/-- A task that says a text, and is called again once if that fails. -/
def Task.say (name text : String) (segments : List Segment) : Task :=
  ⟨name, [], 1, .cli ⟨[⟨"echo", [.literal "echo"]⟩, ⟨text, segments⟩], none⟩⟩

/-- A workflow of three programs, the last of which joins what the first two say. -/
def Workflow.fork : Workflow where
  name := "fork"
  description := ""
  version := 0
  schemaVersion := 0
  inputParameters := ["name"]
  tasks := [
    .say "left" "$\x7bworkflow.input.name\x7d" [.reference ⟨"workflow", ["input", "name"]⟩],
    .say "right" "there" [.literal "there"],
    .say "join" "$\x7bleft.output\x7d $\x7bright.output\x7d"
      [.reference ⟨"left", ["output"]⟩, .literal " ", .reference ⟨"right", ["output"]⟩]]

theorem Workflow.fork_accepted : fork.Accepted := by
  have built : buildWorkflow "fork" [
      .input "name",
      .task ((TaskDraft.runProgram "left" ["echo", "$\x7bworkflow.input.name\x7d"]).set
        (.retries 1)),
      .task ((TaskDraft.runProgram "right" ["echo", "there"]).set (.retries 1)),
      .task ((TaskDraft.runProgram "join"
        ["echo", "$\x7bleft.output\x7d $\x7bright.output\x7d"]).set (.retries 1))] =
          .ok fork := by
    decide +kernel
  exact .built built

namespace Engine

variable {σ : Type} {executor : Executor σ}
  {answers : Invocation → Nat → Except ExecutionError Output} {between : σ → Prop}

/-- The output of a task that it does not refer to does not change what a task comes to. -/
theorem settle_publish {task : Task} {name : String} (avoids : task.Avoids name)
    (context : Context) (output : Output) :
    settle answers task (context.publish name output) = settle answers task context :=
  settle_congr fun reference member => by
    rw [Context.lookup_publish, if_neg (avoids reference member)]

/-- Two jobs that succeed alike, with the results of two tasks in swapped places behind the
results of the tasks `before`. -/
structure Swapped (before : List String) (first second : String) (left right : Job) : Prop where
  succeeded_iff : left.status = .succeeded ↔ right.status = .succeeded
  context : left.status = .succeeded → left.context = right.context
  results : left.status = .succeeded → ∃ earlier firstResult secondResult later,
    left.results = earlier ++ firstResult :: secondResult :: later ∧
      right.results = earlier ++ secondResult :: firstResult :: later ∧
        earlier.map TaskResult.name = before ∧
          firstResult.name = first ∧ secondResult.name = second

theorem Swapped.of_not_succeeded {before : List String} {first second : String}
    {left right : Job} (leftFailed : left.status ≠ .succeeded)
    (rightFailed : right.status ≠ .succeeded) : Swapped before first second left right where
  succeeded_iff := iff_of_false leftFailed rightFailed
  context succeeded := (leftFailed succeeded).elim
  results succeeded := (leftFailed succeeded).elim

section Swap

variable {first second : Task} (different : first.name ≠ second.name)
  (firstAvoids : first.Avoids second.name) (secondAvoids : second.Avoids first.name)

include different firstAvoids secondAvoids

/-- Two tasks that do not refer to each other may be carried out in either order. -/
theorem carryOut_swap (after : List Task) (job : Job) :
    Swapped (job.results.map TaskResult.name) first.name second.name
      (carryOut answers (first :: second :: after) job)
      (carryOut answers (second :: first :: after) job) := by
  rcases runTask_result (.byAttempt answers) first job.context 0 with
    ⟨attempts, output, settled⟩ | ⟨attempts, cause, settled⟩
  · rcases runTask_result (.byAttempt answers) second job.context 0 with
      ⟨others, otherOutput, otherSettled⟩ | ⟨others, cause, otherSettled⟩
    · have behind : settle answers second (job.pass first.name attempts output).context =
          .success second.name others otherOutput :=
        (settle_publish secondAvoids _ _).trans otherSettled
      have otherBehind : settle answers first (job.pass second.name others otherOutput).context =
          .success first.name attempts output :=
        (settle_publish firstAvoids _ _).trans settled
      rw [carryOut_of_success settled, carryOut_of_success behind,
        carryOut_of_success otherSettled, carryOut_of_success otherBehind]
      have published :
          ((job.pass first.name attempts output).pass second.name others otherOutput).context =
            ((job.pass second.name others otherOutput).pass first.name attempts output).context :=
        Context.publish_comm job.context different output otherOutput
      obtain ⟨status, context, later, results, otherResults⟩ :=
        carryOut_congr after published
      refine ⟨by rw [status], fun _ => context,
        fun _ => ⟨job.results, .success first.name attempts output,
          .success second.name others otherOutput, later, ?_, ?_, rfl, rfl, rfl⟩⟩
      · rw [results]
        simp only [Job.pass, List.append_assoc]
        rfl
      · rw [otherResults]
        simp only [Job.pass, List.append_assoc]
        rfl
    · have behind : settle answers second (job.pass first.name attempts output).context =
          .failure second.name others cause :=
        (settle_publish secondAvoids _ _).trans otherSettled
      rw [carryOut_of_success settled]
      exact .of_not_succeeded (carryOut_status_ne_of_failure behind _)
        (carryOut_status_ne_of_failure otherSettled _)
  · refine .of_not_succeeded (carryOut_status_ne_of_failure settled _) ?_
    rcases runTask_result (.byAttempt answers) second job.context 0 with
      ⟨others, otherOutput, otherSettled⟩ | ⟨others, cause, otherSettled⟩
    · have behind : settle answers first (job.pass second.name others otherOutput).context =
          .failure first.name attempts cause :=
        (settle_publish firstAvoids _ _).trans settled
      rw [carryOut_of_success otherSettled]
      exact carryOut_status_ne_of_failure behind _
    · exact carryOut_status_ne_of_failure otherSettled _

/-- The tasks in front of the two are carried out alike. -/
theorem carryOut_append_swap (before after : List Task) (job : Job) :
    Swapped (job.results.map TaskResult.name ++ before.map Task.name) first.name second.name
      (carryOut answers (before ++ first :: second :: after) job)
      (carryOut answers (before ++ second :: first :: after) job) := by
  induction before generalizing job with
  | nil =>
      rw [List.map_nil, List.append_nil]
      exact carryOut_swap different firstAvoids secondAvoids after job
  | cons task before ih =>
      rw [List.cons_append, List.cons_append]
      rcases runTask_result (.byAttempt answers) task job.context 0 with
        ⟨attempts, output, settled⟩ | ⟨attempts, cause, settled⟩
      · rw [carryOut_of_success settled, carryOut_of_success settled]
        have names : (job.pass task.name attempts output).results.map TaskResult.name ++
            before.map Task.name =
              job.results.map TaskResult.name ++ (task :: before).map Task.name := by
          rw [Job.pass, List.map_append, List.append_assoc]
          rfl
        exact names ▸ ih (job.pass task.name attempts output)
      · exact .of_not_succeeded (carryOut_status_ne_of_failure settled _)
          (carryOut_status_ne_of_failure settled _)

end Swap

/-- **Neighbours that do not refer to each other commute.** With the two tasks swapped, a job
succeeds alike, and then it ends with the same context and with the same results, those of the two
in swapped places. -/
theorem run_swap {workflow : Workflow} (accepted : workflow.Accepted)
    {before after : List Task} {first second : Task}
    (split : workflow.tasks = before ++ first :: second :: after)
    (firstAvoids : first.Avoids second.name) (secondAvoids : second.Avoids first.name)
    (regular : executor.AnswersByAttempt answers between) (inputs : Dictionary String)
    {state other : σ} (rested : between state) (otherRested : between other) :
    Swapped (before.map Task.name) first.name second.name
      (run executor workflow inputs state).job
      (run executor { workflow with tasks := before ++ second :: first :: after }
        inputs other).job := by
  have different : first.name ≠ second.name := by
    have distinct := accepted.wellNamed.names_nodup
    rw [split, List.map_append, List.nodup_append] at distinct
    have absent := (List.nodup_cons.mp distinct.2.1).1
    exact fun same => absent (same ▸ List.mem_cons_self)
  rw [run, run, runTasks_job regular _ rested, runTasks_job regular _ otherRested, split]
  exact carryOut_append_swap different firstAvoids secondAvoids before after
    (startJob workflow inputs)

/-- Say what is asked for, but at the second attempt only. -/
def secondTime (invocation : Invocation) (failures : Nat) : Except ExecutionError Output :=
  match failures, invocation with
  | 0, _ => .error (.io "refused")
  | _ + 1, .cli command => .ok ⟨String.intercalate " " command.argv.tail, none, [], none⟩
  | _ + 1, .http request => .ok ⟨request.url, none, [], none⟩

theorem fork_run_swap :
    Workflow.fork.Accepted ∧ (Executor.byAttempt secondTime).AnswersByAttempt secondTime (· = 0) ∧
      ∃ left right join, Workflow.fork.tasks = [left, right, join] ∧
        left.Avoids right.name ∧ right.Avoids left.name ∧
        Swapped [] "left" "right" (run (.byAttempt secondTime) .fork [("name", "Ada")] 0).job
          (run (.byAttempt secondTime) { Workflow.fork with tasks := [right, left, join] }
            [("name", "Ada")] 0).job ∧
        (run (.byAttempt secondTime) .fork [("name", "Ada")] 0).job.status = .succeeded := by
  have regular := Executor.answersByAttempt_byAttempt secondTime
  have split : Workflow.fork.tasks = [] ++ _ :: _ :: _ := rfl
  exact ⟨Workflow.fork_accepted, regular, _, _, _, rfl, by decide, by decide,
    run_swap Workflow.fork_accepted split (by decide) (by decide) regular _ rfl rfl,
    by decide +kernel⟩

end Engine

end Runbook
