import Runbook.Pool

/-!
# Moves of a pool

What a move does to the one job that makes it and to the permits (`Pool.Advances`), and that every
job comes to its end after a limited number of moves (`Pool.State.movesLeft_lt`).
-/

namespace Runbook

namespace Pool

variable {answers : Answers} {submission : Submission} {move : Move}

/-- What a move changes: how many permits are available, and how far the job has come. -/
inductive Advances (answers : Answers) (submission : Submission) :
    Move → Nat → Progress → Nat → Progress → Prop
  | acquire (available : Nat) :
      Advances answers submission .acquire (available + 1) .queued available (start submission)
  | resolve (available : Nat) (job : Job) (task : Task) (rest : List Task) :
      Advances answers submission .resolve available (.working job none (task :: rest)) available
        (resolveTask job task rest)
  | beginCall (available : Nat) (job : Job) (trial : Trial) (rest : List Task) :
      Advances answers submission .beginCall available (.working job (some trial) rest) available
        (.calling job trial rest)
  | endCall (available : Nat) (job : Job) (trial : Trial) (rest : List Task) :
      Advances answers submission .endCall available (.calling job trial rest) available
        (takeAnswer job trial rest (answers trial.invocation))
  | release (available : Nat) (job : Job) :
      Advances answers submission .release available (.working job none []) (available + 1)
        (.finished (conclude job))

theorem advance_eq_some_iff {before after : Nat} {slot : Slot} {progress : Progress} :
    advance answers before slot move = some (after, progress) ↔
      Advances answers slot.submission move before slot.progress after progress := by
  obtain ⟨submission, current⟩ := slot
  constructor
  · intro made
    -- Each move is made from one kind of progress, and gives nothing from all others.
    cases move <;> simp only [advance] at made <;> split at made <;>
      simp only [Option.some.injEq, Prod.mk.injEq, reduceCtorEq] at made <;>
      obtain ⟨rfl, rfl⟩ := made
    · exact .acquire _
    · exact .resolve _ _ _ _
    · exact .beginCall _ _ _ _
    · exact .endCall _ _ _ _
    · exact .release _ _
  · intro made
    dsimp only at made
    cases made <;> rfl

namespace Progress

variable {progress : Progress}

theorem eq_finished_of_job? {job : Job} (found : progress.job? = some job) :
    progress = .finished job := by
  cases progress with
  | finished _ =>
      cases found
      rfl
  | queued => cases found
  | working _ _ _ => cases found
  | calling _ _ _ => cases found

/-- A job that neither holds a permit nor has finished waits for its permit. -/
theorem eq_queued (free : ¬ progress.holdsPermit) (unfinished : ¬ progress.job?.isSome) :
    progress = .queued := by
  cases progress with
  | queued => rfl
  | working _ _ _ => exact (free rfl).elim
  | calling _ _ _ => exact (free rfl).elim
  | finished _ => exact (unfinished rfl).elim

/-- A call is made with a permit. -/
theorem holdsPermit_of_isCalling (calling : progress.isCalling) : progress.holdsPermit := by
  cases progress with
  | calling _ _ _ => rfl
  | queued => cases calling
  | working _ _ _ => cases calling
  | finished _ => cases calling

end Progress

/-- A job that is resolved or takes an answer goes on working. -/
theorem holdsPermit_resolveTask (job : Job) (task : Task) (rest : List Task) :
    (resolveTask job task rest).holdsPermit := by
  unfold resolveTask
  cases Engine.prepare task job.context <;> rfl

theorem holdsPermit_takeAnswer (job : Job) (trial : Trial) (rest : List Task)
    (answer : Except ExecutionError Output) : (takeAnswer job trial rest answer).holdsPermit := by
  unfold takeAnswer
  cases answer with
  | ok output => rfl
  | error cause => cases trial.retries <;> rfl

/-- A permit is taken with the first move and given back with the last one. All moves in between are
made with a permit. -/
theorem Advances.permits {before after : Nat} {current next : Progress}
    (advances : Advances answers submission move before current after next) :
    (after + if next.holdsPermit then 1 else 0) = (before + if current.holdsPermit then 1 else 0) ∧
      (move ≠ .acquire → current.holdsPermit) := by
  cases advances with
  | acquire => exact ⟨rfl, fun first => (first rfl).elim⟩
  | resolve _ job task rest =>
      rw [holdsPermit_resolveTask]
      exact ⟨rfl, fun _ => rfl⟩
  | beginCall => exact ⟨rfl, fun _ => rfl⟩
  | endCall _ job trial rest =>
      rw [holdsPermit_takeAnswer]
      exact ⟨rfl, fun _ => rfl⟩
  | release => exact ⟨rfl, fun _ => rfl⟩

/-- A job that holds a permit can make a move. -/
theorem exists_advances_of_holdsPermit (answers : Answers) (submission : Submission)
    (available : Nat) {current : Progress} (holds : current.holdsPermit) :
    ∃ move after next, Advances answers submission move available current after next := by
  cases current with
  | queued => cases holds
  | working job trial rest =>
      cases trial with
      | some trial => exact ⟨_, _, _, .beginCall available job trial rest⟩
      | none =>
          cases rest with
          | nil => exact ⟨_, _, _, .release available job⟩
          | cons task rest => exact ⟨_, _, _, .resolve available job task rest⟩
  | calling job trial rest => exact ⟨_, _, _, .endCall available job trial rest⟩
  | finished job => cases holds

/-! ## The length of a schedule -/

/-- The most moves that tasks can take. -/
def taskMoves (tasks : List Task) : Nat :=
  (tasks.map fun task => 3 + 2 * Engine.retryBudget task).sum

/-- The most moves that a job can still make. -/
def Progress.movesLeft (submission : Submission) : Progress → Nat
  | .queued => moveBound submission
  | .working _ none rest => taskMoves rest + 1
  | .working _ (some trial) rest => taskMoves rest + 2 * trial.retries + 3
  | .calling _ trial rest => taskMoves rest + 2 * trial.retries + 2
  | .finished _ => 0

/-- A move is one less that is left. -/
theorem Advances.movesLeft_lt {before after : Nat} {current next : Progress}
    (advances : Advances answers submission move before current after next) :
    next.movesLeft submission < current.movesLeft submission := by
  cases advances with
  | acquire =>
      simp only [start, Progress.movesLeft, moveBound, taskMoves]
      omega
  | resolve _ job task rest =>
      unfold resolveTask
      cases Engine.prepare task job.context with
      | error cause =>
          simp only [Progress.movesLeft, taskMoves, List.map_cons, List.sum_cons, List.map_nil,
            List.sum_nil]
          omega
      | ok invocation =>
          simp only [Progress.movesLeft, taskMoves, List.map_cons, List.sum_cons]
          omega
  | beginCall => exact Nat.lt_succ_self _
  | endCall _ job trial rest =>
      cases answers trial.invocation with
      | ok output =>
          simp only [takeAnswer, Progress.movesLeft]
          omega
      | error cause =>
          cases retries : trial.retries with
          | zero =>
              simp only [takeAnswer, retries, Progress.movesLeft, taskMoves, List.map_nil,
                List.sum_nil]
              omega
          | succ left =>
              simp only [takeAnswer, retries, Progress.movesLeft]
              omega
  | release => exact Nat.succ_pos _

end Pool

end Runbook
