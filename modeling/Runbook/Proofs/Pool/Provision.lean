import Runbook.Proofs.Config
import Runbook.Proofs.Formats
import Runbook.Proofs.Pool.Schedule

/-!
# Pools that configurations ask for

Every number of 64 bits can be configured as the number of jobs that may run at once, in a file and
by a variable. There is a pool for it exactly if so many permits can be counted, and a configuration
that asks for no job at all gets a pool for one (`Config.provisionLaw`).
-/

namespace Runbook

namespace Pool

/-- A pool serves as one for so many jobs: all its permits are available before a job is handed in
and after all jobs have finished, as they do, and there are never more calls than permits. -/
structure Serves (pool : Pool) (jobs : Nat) : Prop where
  limit : pool.limit = max 1 jobs
  available : pool.initial.available = pool.limit
  runs : ∀ answers submissions,
    (pool.runAll answers submissions).1 ≤ pool.limit ∧
      (pool.runAll answers submissions).2.available = pool.limit ∧
        (pool.runAll answers submissions).2.jobs = submissions.map (expected answers)

theorem exists_withLimit_iff {jobs : Nat} :
    (∃ pool, withLimit jobs = some pool) ↔ jobs ≤ 2 ^ 61 - 1 := by
  have atLeastOne : max jobs 1 ≤ 2 ^ 61 - 1 ↔ jobs ≤ 2 ^ 61 - 1 := by
    omega
  unfold withLimit
  dsimp only
  rw [mostPermits, ← atLeastOne]
  split_ifs with counted
  · exact iff_of_true ⟨_, rfl⟩ counted
  · refine iff_of_false ?_ counted
    rintro ⟨pool, granted⟩
    cases granted

theorem serves_of_withLimit {jobs : Nat} {pool : Pool} (granted : withLimit jobs = some pool) :
    pool.Serves jobs where
  limit := (withLimit_eq_some granted).trans (Nat.max_comm jobs 1)
  available := rfl
  runs := runAll_finishes granted

end Pool

namespace Config

/-- The variable for the number of jobs. -/
def jobsVariable : String := "WORKFLOWS_MAX_CONCURRENT_JOBS"

/-- A number as the text of a variable. -/
def digits (word : UInt64) : String := String.ofList (Nat.toDigits 10 word.toNat)

/-- What a file with nothing but a number of jobs writes. -/
def jobsOnly (word : UInt64) : Json := .object [("max_concurrent_jobs", Json.ofNat word.toNat)]

/-- A variable that holds a number sets the number of jobs, and nothing else. -/
theorem override_update_jobs (config : Config) (environment : Environment) (word : UInt64) :
    config.override (Function.update environment jobsVariable (some (digits word))) =
      { config.override environment with maxConcurrentJobs := word } := by
  have inside : word.toNat ≤ 2 ^ 64 - 1 := Nat.le_pred_of_lt word.toNat_lt
  obtain ⟨writes, -⟩ := Decimal.readNatural_eq_some_iff.mp (Decimal.readNatural_toDigits inside)
  have set : Setting.maxConcurrentJobs.override?
      (Function.update environment jobsVariable (some (digits word))) =
        some (Json.ofNat word.toNat) := by
    refine Setting.override?_eq_some_iff.mpr ⟨digits word, Function.update_self .., word, ?_, rfl⟩
    rwa [digits, String.toList_ofList]
  apply Setting.eq_of_value_eq
  intro setting
  rw [setting.value_override]
  by_cases own : setting = .maxConcurrentJobs
  · subst own
    rw [set]
    rfl
  · -- The variables of the other settings have names of their own.
    have apart : setting.variableName ≠ jobsVariable := by
      cases setting with
      | maxConcurrentJobs => exact absurd rfl own
      | _ => decide
    rw [Setting.override?_congr (Function.update_of_ne apart ..), ← setting.value_override]
    cases setting with
    | maxConcurrentJobs => exact absurd rfl own
    | _ => rfl

/-- Without its variable, the number of jobs is left as it is. -/
theorem override_with_jobs {environment : Environment} (unset : environment jobsVariable = none)
    (config : Config) (word : UInt64) :
    { config with maxConcurrentJobs := word }.override environment =
      { config.override environment with maxConcurrentJobs := word } := by
  have unread : number? environment jobsVariable = none := by
    rw [number?, unset]
    rfl
  rw [jobsVariable] at unread
  simp only [override, unread, Option.getD_none]

theorem decode_jobsOnly (word : UInt64) :
    Document.decode (Text.Utf8.encode (Json.text (jobsOnly word))) = some (jobsOnly word) := by
  have fits : (Number.int word.toNat).Fits := by
    have small := word.toNat_lt
    simp only [Number.Fits, Number.leastInt, Number.greatestInt]
    omega
  have readable : Json.Readable Json.deepest (jobsOnly word) := by
    refine .object (by decide) (List.pairwise_singleton _ _) ?_
    exact List.forall_mem_singleton.mpr (.number fits)
  have integral : (jobsOnly word).Integral := by
    refine JsonTree.integral_object_iff.mpr (List.forall_mem_singleton.mpr ?_)
    exact List.forall_mem_singleton.mpr rfl
  rw [Document.decode_encode, Json.text, String.toList_ofList,
    Json.ofChars_chars readable integral]
  rfl

theorem read_jobsOnly (word : UInt64) :
    record.read (jobsOnly word) = .ok { builtIn with maxConcurrentJobs := word } := by
  have admitted : ∀ setting : Setting, ∀ json ∈
      Dictionary.get? [("max_concurrent_jobs", Json.ofNat word.toNat)] setting.key,
      setting.Admits json := by
    intro setting json given
    cases setting with
    | maxConcurrentJobs => exact ⟨word, (Option.some.inj given).symm⟩
    | _ => cases given
  obtain ⟨config, read⟩ := (exists_read_iff (List.pairwise_singleton _ _)).mpr admitted
  rw [jobsOnly, read]
  refine congrArg Except.ok (Setting.eq_of_value_eq fun setting => ?_)
  rw [value_of_read read]
  cases setting <;> rfl

/-- What becomes of the number of jobs that is configured. -/
structure Provision (file : Option (Except FileError (List UInt8))) (environment : Environment) :
    Prop where
  served : ∀ config, load file environment = .ok config →
    config.maxConcurrentJobs.toNat ≤ 2 ^ 61 - 1 →
      ∃ pool, Pool.ofConfig config = some pool ∧ pool.Serves config.maxConcurrentJobs.toNat
  /-- There is no pool with more permits than can be counted. -/
  unserved : ∀ config, load file environment = .ok config →
    2 ^ 61 - 1 < config.maxConcurrentJobs.toNat → Pool.ofConfig config = none
  /-- Each number can be put in the place of the one that is configured, by its variable. -/
  byVariable : ∀ config, load file environment = .ok config → ∀ word : UInt64,
    load file (Function.update environment jobsVariable (some (digits word))) =
      .ok { config with maxConcurrentJobs := word }
  /-- Each number can be configured by a file, if the variable is not set. -/
  byFile : environment jobsVariable = none → ∀ word : UInt64,
    load (some (.ok (Text.Utf8.encode (Json.text (jobsOnly word))))) environment =
      .ok { builtIn.override environment with maxConcurrentJobs := word }

/-- **Configured pools.** A configuration that has been loaded gets a pool for the number of jobs that
it allows, and at least for one, exactly if that many permits can be counted. Loading does not
depend on this. -/
theorem provisionLaw (file : Option (Except FileError (List UInt8))) (environment : Environment) :
    Provision file environment where
  served := by
    intro config _ counted
    obtain ⟨pool, granted⟩ := Pool.exists_withLimit_iff.mpr counted
    exact ⟨pool, granted, Pool.serves_of_withLimit granted⟩
  unserved := by
    intro config _ beyond
    refine Option.eq_none_iff_forall_ne_some.mpr fun pool granted => ?_
    have counted := Pool.exists_withLimit_iff.mp ⟨pool, granted⟩
    exact absurd counted (Nat.not_le.mpr beyond)
  byVariable := by
    intro config loaded word
    cases file with
    | none =>
        cases loaded
        exact congrArg Except.ok (override_update_jobs builtIn environment word)
    | some content =>
        obtain ⟨given, read, rfl⟩ := map_eq_ok_iff.mp loaded
        rw [load, read]
        exact congrArg Except.ok (override_update_jobs given environment word)
  byFile := by
    intro unset word
    have read : ofFile (.ok (Text.Utf8.encode (Json.text (jobsOnly word)))) =
        .ok { builtIn with maxConcurrentJobs := word } := by
      simp only [ofFile, decode_jobsOnly, read_jobsOnly]
      rfl
    rw [load, read]
    exact congrArg Except.ok (override_with_jobs unset builtIn word)

/-- The variables of an environment that asks for one permit more than can be counted. -/
def boundless : Environment := Dictionary.get? [(jobsVariable, "2305843009213693952")]

/-- A configuration can be loaded for which there is no pool. -/
theorem boundless_unserved :
    load none boundless = .ok { builtIn with maxConcurrentJobs := 2305843009213693952 } ∧
      Pool.ofConfig { builtIn with maxConcurrentJobs := 2305843009213693952 } = none := by
  decide +kernel

end Config

end Runbook
