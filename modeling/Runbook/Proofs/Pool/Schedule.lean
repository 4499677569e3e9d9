import Mathlib.Data.List.Induction
import Runbook.Proofs.Acceptance
import Runbook.Proofs.Pool.Outcome

/-!
# Schedules of a pool

Jobs are handed in at any time and make their moves in any order (`Pool.Reachable`). Whatever the
order, the permits are accounted for, each job ends as it does alone, and the pool is not stuck
before all jobs have finished (`Pool.reachable_orderly`). The fair schedule finishes all of them
(`Pool.runAll_finishes`).
-/

namespace Runbook

namespace Pool

/-- The states that a pool comes to, with the jobs handed in so far. -/
inductive Reachable (answers : Answers) (pool : Pool) : List Submission → State → Prop
  | initial : Reachable answers pool [] pool.initial
  | submit {submissions : List Submission} {state : State} (submission : Submission) :
      Reachable answers pool submissions state →
        Reachable answers pool (submissions ++ [submission]) (state.submit submission)
  | move {submissions : List Submission} {state after : State} {position : Nat} {move : Move} :
      Reachable answers pool submissions state → state.step answers position move = some after →
        Reachable answers pool submissions after

namespace State

/-- How many jobs hold a permit. -/
def holders (state : State) : Nat := state.slots.countP (·.progress.holdsPermit)

/-- The most moves that can still be made. -/
def movesLeft (state : State) : Nat :=
  (state.slots.map fun slot => slot.progress.movesLeft slot.submission).sum

/-- Whether all jobs have finished. -/
def AllFinished (state : State) : Prop := ∀ slot ∈ state.slots, slot.progress.job?.isSome

end State

variable {answers : Answers} {state after : State} {position : Nat} {move : Move}

/-- A move is made by one job, and leaves all others where they are. -/
theorem exists_advances_of_step (made : state.step answers position move = some after) :
    ∃ before slot behind available progress, state.slots = before ++ slot :: behind ∧
      before.length = position ∧
        Advances answers slot.submission move state.available slot.progress available progress ∧
          after = ⟨available, before ++ ⟨slot.submission, progress⟩ :: behind⟩ := by
  unfold State.step at made
  obtain ⟨slot, found, made⟩ := Option.bind_eq_some_iff.mp made
  obtain ⟨⟨available, progress⟩, advanced, made⟩ := Option.bind_eq_some_iff.mp made
  obtain ⟨inside, rfl⟩ := List.getElem?_eq_some_iff.mp found
  refine ⟨state.slots.take position, state.slots[position], state.slots.drop (position + 1),
    available, progress, ?_, ?_, advance_eq_some_iff.mp advanced, ?_⟩
  · rw [List.getElem_cons_drop, List.take_append_drop]
  · exact List.length_take_of_le (Nat.le_of_lt inside)
  · cases made
    rw [List.set_eq_take_append_cons_drop, if_pos inside]

theorem step_of_advances {before behind : List Slot} {slot : Slot} {available : Nat}
    {progress : Progress} (split : state.slots = before ++ slot :: behind)
    (advances : Advances answers slot.submission move state.available slot.progress available
      progress) : ∃ after, state.step answers before.length move = some after := by
  have found : state.slots[before.length]? = some slot := by
    rw [split, List.getElem?_append_right (Nat.le_refl _), Nat.sub_self]
    rfl
  unfold State.step
  rw [found]
  simp only [Option.bind_eq_bind, Option.bind_some, advance_eq_some_iff.mpr advances]
  exact ⟨_, rfl⟩

/-- Each move uses up one of those that are left. -/
theorem State.movesLeft_lt (made : state.step answers position move = some after) :
    after.movesLeft < state.movesLeft := by
  obtain ⟨before, slot, behind, available, progress, split, -, advances, rfl⟩ :=
    exists_advances_of_step made
  have fewer := advances.movesLeft_lt
  simp only [movesLeft, split, List.map_append, List.map_cons, List.sum_append, List.sum_cons]
  omega

/-- What holds of a pool in every state: the permits add up, and each job is on the way to the end
that is expected of it. -/
structure Sound (answers : Answers) (limit : Nat) (submissions : List Submission) (state : State) :
    Prop where
  submitted : state.slots.map Slot.submission = submissions
  permits : state.available + state.holders = limit
  faithful : ∀ slot ∈ state.slots,
    slot.progress.outcome answers slot.submission = expected answers slot.submission ∧
      slot.progress.Consistent

section Sound

variable {limit : Nat} {submissions : List Submission}

theorem Sound.submit (sound : Sound answers limit submissions state) (submission : Submission) :
    Sound answers limit (submissions ++ [submission]) (state.submit submission) where
  submitted := by
    simp only [State.submit, List.map_append, sound.submitted, List.map_cons, List.map_nil]
  permits := by
    have holders : (state.submit submission).holders = state.holders := by
      simp only [State.submit, State.holders, List.countP_append]
      rfl
    rw [holders]
    exact sound.permits
  faithful slot member := by
    rcases List.mem_append.mp member with earlier | last
    · exact sound.faithful slot earlier
    · rw [List.mem_singleton.mp last]
      exact ⟨rfl, trivial⟩

theorem Sound.step (sound : Sound answers limit submissions state)
    (made : state.step answers position move = some after) :
    Sound answers limit submissions after := by
  obtain ⟨before, slot, behind, available, progress, split, -, advances, rfl⟩ :=
    exists_advances_of_step made
  have listed : slot ∈ state.slots := split ▸ List.mem_append_right _ List.mem_cons_self
  obtain ⟨outcome, consistent⟩ := sound.faithful slot listed
  obtain ⟨kept, stillConsistent⟩ := advances.outcome_eq consistent
  refine ⟨?_, ?_, ?_⟩
  · rw [← sound.submitted, split]
    simp only [List.map_append, List.map_cons]
  · have taken := advances.permits.1
    have total := sound.permits
    simp only [State.holders, split, List.countP_append, List.countP_cons] at total ⊢
    omega
  · intro other member
    rcases List.mem_append.mp member with earlier | later
    · exact sound.faithful other (split ▸ List.mem_append_left _ earlier)
    · rcases List.mem_cons.mp later with rfl | later
      · exact ⟨kept.trans outcome, stillConsistent⟩
      · exact sound.faithful other
          (split ▸ List.mem_append_right _ (List.mem_cons_of_mem _ later))

end Sound

theorem Reachable.sound {pool : Pool} {submissions : List Submission}
    (reachable : Reachable answers pool submissions state) :
    Sound answers pool.limit submissions state := by
  induction reachable with
  | initial => exact ⟨rfl, rfl, fun _ member => nomatch member⟩
  | submit submission _ ih => exact ih.submit submission
  | move _ made ih => exact ih.step made

/-- A job that has finished has ended as expected. -/
theorem Sound.job_eq {limit : Nat} {submissions : List Submission}
    (sound : Sound answers limit submissions state) {slot : Slot} (member : slot ∈ state.slots)
    {job : Job} (finished : slot.progress.job? = some job) :
    job = expected answers slot.submission := by
  have outcome := (sound.faithful slot member).1
  rw [Progress.eq_finished_of_job? finished] at outcome
  exact outcome

/-- A job that has finished holds no permit. -/
theorem holders_eq_zero (finished : state.AllFinished) : state.holders = 0 := by
  refine List.countP_eq_zero.mpr fun slot member => ?_
  obtain ⟨job, done⟩ := Option.isSome_iff_exists.mp (finished slot member)
  rw [Progress.eq_finished_of_job? done]
  exact Bool.false_ne_true

/-- As long as a job has not finished, some job can make a move: one that holds a permit, or else
one that waits, since then a permit is available. -/
theorem Sound.exists_step {limit : Nat} {submissions : List Submission}
    (sound : Sound answers limit submissions state) (admits : 0 < limit)
    (unfinished : ¬ state.AllFinished) :
    ∃ position move after, state.step answers position move = some after := by
  by_cases held : state.holders = 0
  · obtain ⟨slot, waiting⟩ := not_forall.mp unfinished
    obtain ⟨member, waiting⟩ := Classical.not_imp.mp waiting
    obtain ⟨before, behind, split⟩ := List.append_of_mem member
    have queued := Progress.eq_queued (List.countP_eq_zero.mp held slot member) waiting
    have available := sound.permits
    rw [held, Nat.add_zero] at available
    obtain ⟨left, rfl⟩ := Nat.exists_eq_add_one.mpr admits
    have advances : Advances answers slot.submission .acquire state.available slot.progress left
        (start slot.submission) := by
      rw [available, queued]
      exact .acquire left
    exact ⟨before.length, .acquire, step_of_advances split advances⟩
  · obtain ⟨slot, member, holds⟩ := List.countP_pos_iff.mp (Nat.pos_of_ne_zero held)
    obtain ⟨before, behind, split⟩ := List.append_of_mem member
    obtain ⟨move, available, progress, advances⟩ :=
      exists_advances_of_holdsPermit answers slot.submission state.available holds
    exact ⟨before.length, move, step_of_advances split advances⟩

/-- What can be relied on in a pool with so many permits, to which the jobs have been handed in. -/
structure Orderly (answers : Answers) (limit : Nat) (jobs : List Job) (state : State) : Prop where
  permits : state.available + state.holders = limit
  holders_le : state.holders ≤ limit
  callCount_le : state.callCount ≤ limit
  /-- All moves but the first one of a job are made with a permit. -/
  permitted : ∀ position move after, state.step answers position move = some after →
    move ≠ .acquire →
      ∃ slot : Slot, state.slots[position]? = some slot ∧ slot.progress.holdsPermit
  length : state.slots.length = jobs.length
  /-- The job that has finished at a place is the one that was expected there. -/
  isolated : ∀ (position : Nat) (slot : Slot) (job : Job), state.slots[position]? = some slot →
    slot.progress.job? = some job → jobs[position]? = some job
  enabled : ¬ state.AllFinished → ∃ position move after,
    state.step answers position move = some after
  /-- No schedule makes moves forever. -/
  ends : Acc (fun after before => ∃ position move, before.step answers position move = some after)
    state
  drained : state.AllFinished → state.available = limit ∧ state.jobs = jobs

theorem State.callCount_le_holders (state : State) : state.callCount ≤ state.holders :=
  List.countP_mono_left fun _ _ calling => Progress.holdsPermit_of_isCalling calling

/-- Moves are used up, so that there is an end to them. -/
theorem State.acc (answers : Answers) (state : State) :
    Acc (fun after before => ∃ position move, State.step answers before position move = some after)
      state := by
  have wellFounded := InvImage.wf State.movesLeft Nat.lt_wfRel.wf
  refine Subrelation.accessible ?_ (wellFounded.apply state)
  rintro after before ⟨position, move, made⟩
  exact State.movesLeft_lt made

theorem Sound.orderly {limit : Nat} {submissions : List Submission}
    (sound : Sound answers limit submissions state) (admits : 0 < limit) :
    Orderly answers limit (submissions.map (expected answers)) state where
  permits := sound.permits
  holders_le := sound.permits ▸ Nat.le_add_left _ _
  callCount_le := Nat.le_trans state.callCount_le_holders (sound.permits ▸ Nat.le_add_left _ _)
  permitted position move after made later := by
    obtain ⟨before, slot, behind, _, _, split, rfl, advances, -⟩ := exists_advances_of_step made
    refine ⟨slot, ?_, advances.permits.2 later⟩
    rw [split, List.getElem?_append_right (Nat.le_refl _), Nat.sub_self]
    rfl
  length := by
    rw [List.length_map, ← sound.submitted, List.length_map]
  isolated position slot job found finished := by
    rw [sound.job_eq (List.mem_of_getElem? found) finished, ← sound.submitted, List.map_map,
      List.getElem?_map, found]
    rfl
  enabled := sound.exists_step admits
  ends := state.acc answers
  drained finished := by
    constructor
    · rw [← sound.permits, holders_eq_zero finished, Nat.add_zero]
    · have each : ∀ slot ∈ state.slots,
          slot.progress.job? = some (expected answers slot.submission) := by
        intro slot member
        obtain ⟨job, found⟩ := Option.isSome_iff_exists.mp (finished slot member)
        rw [found, sound.job_eq member found]
      rw [State.jobs, List.filterMap_congr each, ← sound.submitted, List.map_map]
      exact congrFun List.filterMap_eq_map _

theorem withLimit_eq_some {jobs : Nat} {pool : Pool} (granted : withLimit jobs = some pool) :
    pool.limit = max jobs 1 := by
  unfold withLimit at granted
  dsimp only at granted
  split at granted
  · cases granted
    rfl
  · cases granted

/-! ## The fair schedule -/

theorem exists_step_of_next (made : next answers state = some after) :
    ∃ position move, state.step answers position move = some after := by
  obtain ⟨move, -, found⟩ := List.exists_of_findSome?_eq_some made
  obtain ⟨position, -, stepped⟩ := List.exists_of_findSome?_eq_some found
  exact ⟨position, move, stepped⟩

/-- The fair schedule considers all moves of all jobs. -/
theorem step_eq_none_of_next (stuck : next answers state = none) (position : Nat) (move : Move) :
    state.step answers position move = none := by
  by_cases inside : position < state.slots.length
  · have considered : move ∈ preference := by
      cases move <;> decide
    exact List.findSome?_eq_none_iff.mp (List.findSome?_eq_none_iff.mp stuck move considered)
      position (List.mem_range.mpr inside)
  · unfold State.step
    rw [List.getElem?_eq_none (Nat.not_lt.mp inside)]
    rfl

theorem reachable_runMoves {pool : Pool} {submissions : List Submission}
    (reachable : Reachable answers pool submissions state) (moves peak : Nat) :
    Reachable answers pool submissions (runMoves answers moves peak state).2 := by
  induction moves generalizing state peak with
  | zero => exact reachable
  | succ moves ih =>
      rw [runMoves]
      cases found : next answers state with
      | none => exact reachable
      | some after =>
          obtain ⟨position, move, made⟩ := exists_step_of_next found
          exact ih (reachable.move made) _

theorem reachable_submitAll (answers : Answers) (pool : Pool) (submissions : List Submission) :
    Reachable answers pool submissions (submissions.foldl State.submit pool.initial) := by
  induction submissions using List.reverseRecOn with
  | nil => exact .initial
  | append_singleton submissions submission ih =>
      rw [List.foldl_append]
      exact .submit submission ih

/-- The state that the fair schedule comes to is one of those that the pool can come to. -/
theorem reachable_runAll (answers : Answers) (pool : Pool) (submissions : List Submission) :
    Reachable answers pool submissions (pool.runAll answers submissions).2 :=
  reachable_runMoves (reachable_submitAll answers pool submissions) _ _

/-- So many moves as are left are enough. -/
theorem next_runMoves {moves : Nat} (enough : state.movesLeft ≤ moves) (peak : Nat) :
    next answers (runMoves answers moves peak state).2 = none := by
  induction moves generalizing state peak with
  | zero =>
      rw [runMoves]
      cases found : next answers state with
      | none => rfl
      | some after =>
          obtain ⟨position, move, made⟩ := exists_step_of_next found
          exact (Nat.not_lt_zero _ (Nat.lt_of_lt_of_le (State.movesLeft_lt made) enough)).elim
  | succ moves ih =>
      rw [runMoves]
      cases found : next answers state with
      | none => exact found
      | some after =>
          obtain ⟨position, move, made⟩ := exists_step_of_next found
          exact ih (Nat.le_of_lt_succ (Nat.lt_of_lt_of_le (State.movesLeft_lt made) enough)) _

theorem movesLeft_submitAll (pool : Pool) (submissions : List Submission) :
    (submissions.foldl State.submit pool.initial).movesLeft = (submissions.map moveBound).sum := by
  induction submissions using List.reverseRecOn with
  | nil => rfl
  | append_singleton submissions submission ih =>
      rw [List.foldl_append, List.map_append, List.sum_append, ← ih]
      simp only [State.movesLeft, State.submit, List.foldl_cons, List.foldl_nil, List.map_append,
        List.sum_append]
      rfl

theorem peak_runMoves {pool : Pool} {submissions : List Submission}
    (reachable : Reachable answers pool submissions state) (moves : Nat) {peak : Nat}
    (below : peak ≤ pool.limit) : (runMoves answers moves peak state).1 ≤ pool.limit := by
  induction moves generalizing state peak with
  | zero => exact below
  | succ moves ih =>
      rw [runMoves]
      cases found : next answers state with
      | none => exact below
      | some after =>
          obtain ⟨position, move, made⟩ := exists_step_of_next found
          have reached := reachable.move made
          refine ih reached (Nat.max_le.mpr ⟨below, ?_⟩)
          exact Nat.le_trans after.callCount_le_holders
            (reached.sound.permits ▸ Nat.le_add_left _ _)

/-- The fair schedule finishes all jobs, with all permits given back at the end and never more calls
at once than the pool has permits. -/
theorem runAll_finishes {jobs : Nat} {pool : Pool} (granted : withLimit jobs = some pool)
    (answers : Answers) (submissions : List Submission) :
    (pool.runAll answers submissions).1 ≤ pool.limit ∧
      (pool.runAll answers submissions).2.available = pool.limit ∧
        (pool.runAll answers submissions).2.jobs = submissions.map (expected answers) := by
  have admits : 0 < pool.limit := by
    rw [withLimit_eq_some granted]
    exact Nat.lt_of_lt_of_le Nat.zero_lt_one (Nat.le_max_right _ _)
  have orderly := (reachable_runAll answers pool submissions).sound.orderly admits
  have stuck : next answers (pool.runAll answers submissions).2 = none :=
    next_runMoves (Nat.le_of_eq (movesLeft_submitAll pool submissions)) 0
  have finished : (pool.runAll answers submissions).2.AllFinished := by
    by_contra unfinished
    obtain ⟨position, move, after, made⟩ := orderly.enabled unfinished
    rw [step_eq_none_of_next stuck] at made
    cases made
  exact ⟨peak_runMoves (reachable_submitAll answers pool submissions) _ (Nat.zero_le _),
    orderly.drained finished⟩

/-! ## Any schedule -/

/-- **A pool is orderly at all times**, in whatever order its jobs are handed in and make their
moves. Each of them ends as it does when it is run alone. -/
theorem reachable_orderly {σ : Type} {jobs : Nat} {pool : Pool}
    (granted : withLimit jobs = some pool) {executor : Executor σ}
    (stateless : ∀ invocation state, (executor.execute invocation state).1 = answers invocation)
    {submissions : List Submission} (reachable : Reachable answers pool submissions state)
    (start : σ) :
    pool.limit = max jobs 1 ∧
      Orderly answers (max jobs 1) (submissions.map (alone executor start)) state := by
  have limit := withLimit_eq_some granted
  have admits : 0 < max jobs 1 := Nat.lt_of_lt_of_le Nat.zero_lt_one (Nat.le_max_right _ _)
  have ends : submissions.map (alone executor start) = submissions.map (expected answers) :=
    List.map_congr_left fun submission _ => alone_eq_expected stateless start submission
  rw [ends]
  exact ⟨limit, (limit ▸ reachable.sound).orderly admits⟩

/-- The answers of a program that greets. -/
def greeting : Answers := fun _ => .ok ⟨"Hi", none, [], none⟩

/-- A job with its input and one without it. -/
def relays : List Submission := [⟨.relay, [("name", "Ada")]⟩, ⟨.relay, []⟩]

/-- Two jobs share the one permit that there is at least. After nine moves the first of them has
finished and the second one has just started. -/
theorem relays_reachable_orderly :
    withLimit 0 = some ⟨1⟩ ∧
      (∀ invocation state, (greeting.executor.execute invocation state).1 = greeting invocation) ∧
      ∃ state, Reachable greeting ⟨1⟩ relays state ∧
        state.slots.map (·.progress.job?.isSome) = [true, false] ∧
        state.slots.map (·.progress.holdsPermit) = [false, true] ∧
        Orderly greeting (max 0 1) (relays.map (alone greeting.executor ())) state := by
  have granted : withLimit 0 = some ⟨1⟩ := by
    decide
  have stateless : ∀ invocation state,
      (greeting.executor.execute invocation state).1 = greeting invocation := fun _ _ => rfl
  have reachable := reachable_runMoves (reachable_submitAll greeting ⟨1⟩ relays) 9 0
  exact ⟨granted, stateless, _, reachable, by decide +kernel, by decide +kernel,
    (reachable_orderly granted stateless reachable ()).2⟩

end Pool

end Runbook
