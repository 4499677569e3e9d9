import Runbook.Config
import Runbook.Proofs.NameOrder
import Runbook.Proofs.Schema.Fields
import Runbook.Proofs.Schema.Rows

/-!
# Layers of the configuration

Each setting has a key in the file and a variable of its own. Its value is what the variable stands
for, else what the file gives, else what is built in, and nothing else has a part in it. A file can
be used if the values of the known keys are of their types; the environment never makes a
configuration fail (`Config.layeringLaw`).
-/

namespace Runbook

/-! ## Numbers in variables -/

namespace Decimal

/-- A text writes a natural number: digits, which a plus sign may stand in front of. -/
inductive Writes : List Char → Nat → Prop
  | unsigned {digits : List Char} (given : digits ≠ [])
      (all : ∀ c ∈ digits, c.isDigit = true) : Writes digits (Nat.ofDigitChars 10 digits 0)
  | signed {digits : List Char} (given : digits ≠ [])
      (all : ∀ c ∈ digits, c.isDigit = true) : Writes ('+' :: digits) (Nat.ofDigitChars 10 digits 0)

theorem isDigit_of_digit? {c : Char} {value : Nat} (digit : digit? c = some value) :
    c.isDigit = true := by
  unfold digit? at digit
  split_ifs at digit with bounds
  simpa [Char.isDigit, Char.le_def] using bounds

theorem isDigit_of_foldlM {digits : List Char} {start value : Nat}
    (read : digits.foldlM (fun value c => (digit? c).map (value * 10 + ·)) start = some value) :
    ∀ c ∈ digits, c.isDigit = true := by
  induction digits generalizing start with
  | nil => exact fun c member => nomatch member
  | cons digit digits ih =>
      rw [List.foldlM_cons] at read
      obtain ⟨next, first, rest⟩ := Option.bind_eq_some_iff.mp read
      obtain ⟨found, known, -⟩ := Option.map_eq_some_iff.mp first
      exact List.forall_mem_cons.mpr ⟨isDigit_of_digit? known, ih rest⟩

/-- Digits without a sign are read as their number. -/
theorem readDigits_eq_some_iff {greatest n : Nat} {digits : List Char} :
    (if digits.isEmpty then none
      else (digits.foldlM (fun value c => (digit? c).map (value * 10 + ·)) 0).filter
        (· ≤ greatest)) = some n ↔
      (digits ≠ [] ∧ (∀ c ∈ digits, c.isDigit = true) ∧ n = Nat.ofDigitChars 10 digits 0) ∧
        n ≤ greatest := by
  cases digits with
  | nil => simp
  | cons digit digits =>
      simp only [List.isEmpty_cons, Bool.false_eq_true, ↓reduceIte, Option.filter_eq_some_iff,
        decide_eq_true_eq, ne_eq, reduceCtorEq, not_false_eq_true, true_and]
      refine and_congr_left fun _ => ⟨fun read => ?_, fun ⟨all, value⟩ => ?_⟩
      · have all := isDigit_of_foldlM read
        rw [foldlM_digit? all] at read
        exact ⟨all, (Option.some.inj read).symm⟩
      · rw [foldlM_digit? all, value]

theorem readNatural_eq_some_iff {greatest n : Nat} {chars : List Char} :
    readNatural greatest chars = some n ↔ Writes chars n ∧ n ≤ greatest := by
  unfold readNatural
  dsimp only
  rw [readDigits_eq_some_iff]
  refine and_congr_left fun _ => ?_
  split
  · rename_i rest
    constructor
    · rintro ⟨given, all, rfl⟩
      exact .signed given all
    · intro writes
      cases writes with
      | signed given all => exact ⟨given, all, rfl⟩
      | unsigned given all =>
          have sign := all '+' List.mem_cons_self
          cases sign
  · rename_i unsigned
    constructor
    · rintro ⟨given, all, rfl⟩
      exact .unsigned given all
    · intro writes
      cases writes with
      | signed given all => exact (unsigned _ rfl).elim
      | unsigned given all => exact ⟨given, all, rfl⟩

end Decimal

/-! ## Settings -/

namespace Config

open Schema

/-- What a file or the environment may set. -/
inductive Setting where
  | workflowsDir
  | maxConcurrentJobs
  | connectionTimeout
  | readTimeout
  | executionTimeout
deriving DecidableEq

namespace Setting

/-- The key in a file. -/
def key : Setting → String
  | workflowsDir => "workflows_dir"
  | maxConcurrentJobs => "max_concurrent_jobs"
  | connectionTimeout => "default_connection_timeout_ms"
  | readTimeout => "default_read_timeout_ms"
  | executionTimeout => "default_execution_timeout_ms"

/-- The variable of the environment. -/
def variableName : Setting → String
  | workflowsDir => "WORKFLOWS_DIR"
  | maxConcurrentJobs => "WORKFLOWS_MAX_CONCURRENT_JOBS"
  | connectionTimeout => "WORKFLOWS_CONNECTION_TIMEOUT_MS"
  | readTimeout => "WORKFLOWS_READ_TIMEOUT_MS"
  | executionTimeout => "WORKFLOWS_EXECUTION_TIMEOUT_MS"

/-- The value in a configuration, as a file writes it. -/
def value (config : Config) : Setting → Json
  | workflowsDir => .string config.workflowsDir
  | maxConcurrentJobs => .ofNat config.maxConcurrentJobs.toNat
  | connectionTimeout => .ofNat config.connectionTimeout.toNat
  | readTimeout => .ofNat config.readTimeout.toNat
  | executionTimeout => .ofNat config.executionTimeout.toNat

/-- The values of the type: a text for the directory, and integers of 64 bits for the others. -/
def Admits : Setting → Json → Prop
  | workflowsDir, json => ∃ text, json = .string text
  | _, json => ∃ word : UInt64, json = .ofNat word.toNat

/-- The value that the text of a variable stands for. -/
def Reads : Setting → String → Json → Prop
  | workflowsDir, text, json => json = .string text
  | _, text, json =>
    ∃ word : UInt64, Decimal.Writes text.toList word.toNat ∧ json = .ofNat word.toNat

/-- The value of a setting, from its variable and its entry in the file alone. -/
inductive Layered (setting : Setting) (given : Option String) (entry : Option Json) : Json → Prop
  | overridden {text : String} {json : Json} (named : given = some text)
      (reads : setting.Reads text json) : Layered setting given entry json
  | filed {json : Json} (unread : ∀ text ∈ given, ∀ other, ¬ setting.Reads text other)
      (present : entry = some json) : Layered setting given entry json
  | builtIn (unread : ∀ text ∈ given, ∀ other, ¬ setting.Reads text other)
      (absent : entry = none) : Layered setting given entry (setting.value Config.builtIn)

/-- A field of the record sets one setting from the values of its type, and no other. -/
structure IsField (setting : Setting) (field : Schema.Field Config) : Prop where
  named : field.name = setting.key
  unaliased : field.aliases = []
  sets : ∀ config json next, field.set config json = .ok next →
    setting.value next = json ∧ ∀ other ≠ setting, other.value next = other.value config
  accepts : ∀ config json, setting.Admits json → ∃ next, field.set config json = .ok next

theorem IsField.of_free {β : Type} {setting : Setting} {shape : Reader β}
    {put : Config → β → Config} {encode : β → Json}
    (reads : ∀ {json found}, shape json = .ok found ↔ json = encode found)
    (admits : ∀ json, setting.Admits json → ∃ found, json = encode found)
    (own : ∀ config found, setting.value (put config found) = encode found)
    (others : ∀ config found, ∀ other ≠ setting,
      other.value (put config found) = other.value config) :
    setting.IsField (.free setting.key shape put) where
  named := rfl
  unaliased := rfl
  sets := by
    intro config json next set
    obtain ⟨found, read, rfl⟩ := map_eq_ok_iff.mp set
    exact ⟨(own config found).trans (reads.mp read).symm, others config found⟩
  accepts := by
    intro config json admitted
    obtain ⟨found, written⟩ := admits json admitted
    exact exists_map_iff.mpr ⟨found, reads.mpr written⟩

/-- Each field of the record is that of a setting. -/
theorem exists_isField {field : Schema.Field Config} (member : field ∈ record.fields) :
    ∃ setting : Setting, setting.IsField field := by
  simp only [record, List.mem_cons, List.not_mem_nil, or_false] at member
  rcases member with rfl | rfl | rfl | rfl | rfl
  · refine ⟨workflowsDir, .of_free textAs_eq_ok_iff (fun _ => id) (fun _ _ => rfl) ?_⟩
    intro config found other different
    cases other with
    | workflowsDir => exact (different rfl).elim
    | _ => rfl
  · refine ⟨maxConcurrentJobs, .of_free natural_map_eq_ok_iff (fun _ => id) (fun _ _ => rfl) ?_⟩
    intro config found other different
    cases other with
    | maxConcurrentJobs => exact (different rfl).elim
    | _ => rfl
  · refine ⟨connectionTimeout, .of_free natural_map_eq_ok_iff (fun _ => id) (fun _ _ => rfl) ?_⟩
    intro config found other different
    cases other with
    | connectionTimeout => exact (different rfl).elim
    | _ => rfl
  · refine ⟨readTimeout, .of_free natural_map_eq_ok_iff (fun _ => id) (fun _ _ => rfl) ?_⟩
    intro config found other different
    cases other with
    | readTimeout => exact (different rfl).elim
    | _ => rfl
  · refine ⟨executionTimeout, .of_free natural_map_eq_ok_iff (fun _ => id) (fun _ _ => rfl) ?_⟩
    intro config found other different
    cases other with
    | executionTimeout => exact (different rfl).elim
    | _ => rfl

theorem key_injective : Function.Injective key := by
  intro first second same
  cases first <;> cases second <;> simp_all [key]

theorem shows (setting : Setting) :
    record.Shows setting.key (fun json shown => shown = json) setting.value where
  listed := by cases setting <;> decide
  distinct := by decide
  unaliased := by
    intro field member
    obtain ⟨other, isField⟩ := exists_isField member
    rw [isField.unaliased]
    exact ⟨List.not_mem_nil, fun _ => rfl⟩
  own := by
    intro field member named config json next set
    obtain ⟨other, isField⟩ := exists_isField member
    obtain rfl := key_injective (isField.named.symm.trans named)
    exact (isField.sets config json next set).1
  kept := by
    intro field member named config json next set
    obtain ⟨other, isField⟩ := exists_isField member
    refine (isField.sets config json next set).2 setting ?_
    rintro rfl
    exact named isField.named

theorem admits_value (setting : Setting) (config : Config) :
    setting.Admits (setting.value config) := by
  cases setting with
  | workflowsDir => exact ⟨config.workflowsDir, rfl⟩
  | _ => exact ⟨_, rfl⟩

/-- Configurations are told apart by the values of their settings. -/
theorem eq_of_value_eq {first second : Config}
    (same : ∀ setting : Setting, setting.value first = setting.value second) : first = second := by
  have number {left right : UInt64} (equal : Json.ofNat left.toNat = Json.ofNat right.toNat) :
      left = right := UInt64.toNat_inj.mp (Json.ofNat_inj.mp equal)
  cases first
  cases second
  have directory := JsonTree.string.inj (same workflowsDir)
  have jobs := number (same maxConcurrentJobs)
  have connection := number (same connectionTimeout)
  have read := number (same readTimeout)
  have execution := number (same executionTimeout)
  simp_all

/-! ## Variables -/

/-- What the variable of a setting stands for. -/
def override? (setting : Setting) (environment : Environment) : Option Json :=
  match setting with
  | workflowsDir => (environment setting.variableName).map .string
  | _ => (number? environment setting.variableName).map (Json.ofNat ·.toNat)

theorem value_override (setting : Setting) (config : Config) (environment : Environment) :
    setting.value (config.override environment) =
      (setting.override? environment).getD (setting.value config) := by
  cases setting with
  | workflowsDir => exact (Option.getD_map JsonTree.string _ _).symm
  | _ => exact (Option.getD_map (fun word : UInt64 => Json.ofNat word.toNat) _ _).symm

theorem number?_eq_some_iff {environment : Environment} {name : String} {word : UInt64} :
    number? environment name = some word ↔
      ∃ text, environment name = some text ∧ Decimal.Writes text.toList word.toNat := by
  unfold number?
  constructor
  · intro found
    obtain ⟨text, named, found⟩ := Option.bind_eq_some_iff.mp found
    obtain ⟨n, read, found⟩ := Option.bind_eq_some_iff.mp found
    cases found
    obtain ⟨writes, inside⟩ := Decimal.readNatural_eq_some_iff.mp read
    have small : n < 2 ^ 64 := by omega
    refine ⟨text, named, ?_⟩
    rwa [UInt64.toNat_ofNat_of_lt' small]
  · rintro ⟨text, named, writes⟩
    have inside : word.toNat ≤ 2 ^ 64 - 1 := Nat.le_pred_of_lt word.toNat_lt
    refine Option.bind_eq_some_iff.mpr ⟨text, named, Option.bind_eq_some_iff.mpr
      ⟨word.toNat, Decimal.readNatural_eq_some_iff.mpr ⟨writes, inside⟩, ?_⟩⟩
    exact congrArg some word.ofNat_toNat

theorem override?_eq_some_iff {setting : Setting} {environment : Environment} {json : Json} :
    setting.override? environment = some json ↔
      ∃ text ∈ environment setting.variableName, setting.Reads text json := by
  have number : ∀ name, (number? environment name).map (Json.ofNat ·.toNat) = some json ↔
      ∃ text ∈ environment name, ∃ word : UInt64,
        Decimal.Writes text.toList word.toNat ∧ json = .ofNat word.toNat := by
    intro name
    rw [Option.map_eq_some_iff]
    simp only [number?_eq_some_iff, Option.mem_def]
    constructor
    · rintro ⟨word, ⟨text, named, writes⟩, rfl⟩
      exact ⟨text, named, word, writes, rfl⟩
    · rintro ⟨text, named, word, writes, rfl⟩
      exact ⟨word, ⟨text, named, writes⟩, rfl⟩
  cases setting with
  | workflowsDir =>
      refine Option.map_eq_some_iff.trans ?_
      exact exists_congr fun text => and_congr_right fun _ => eq_comm
  | _ => exact number _

theorem override?_congr {setting : Setting} {environment other : Environment}
    (same : other setting.variableName = environment setting.variableName) :
    setting.override? other = setting.override? environment := by
  ext json
  rw [override?_eq_some_iff, override?_eq_some_iff, same]

theorem override?_update {setting : Setting} {environment : Environment} {name text : String}
    (named : environment name = some text)
    (unread : setting.variableName = name → ∀ json, ¬ setting.Reads text json) :
    setting.override? (Function.update environment name none) = setting.override? environment := by
  by_cases own : setting.variableName = name
  · ext json
    rw [override?_eq_some_iff, override?_eq_some_iff, own, Function.update_self, named]
    simp [unread own json]
  · exact override?_congr (Function.update_of_ne own ..)

/-- The layers of a setting determine its value. -/
theorem layered_iff {setting : Setting} {environment : Environment} {entry : Option Json}
    {json : Json} :
    setting.Layered (environment setting.variableName) entry json ↔
      (setting.override? environment).getD (entry.getD (setting.value builtIn)) = json := by
  cases found : setting.override? environment with
  | some other =>
      obtain ⟨text, named, reads⟩ := override?_eq_some_iff.mp found
      rw [Option.getD_some]
      constructor
      · intro layered
        cases layered with
        | overridden again read =>
            have same := override?_eq_some_iff.mpr ⟨_, again, read⟩
            exact Option.some.inj (found.symm.trans same)
        | filed unread => exact (unread text named other reads).elim
        | builtIn unread => exact (unread text named other reads).elim
      · rintro rfl
        exact .overridden named reads
  | none =>
      have unread : ∀ text ∈ environment setting.variableName, ∀ other,
          ¬ setting.Reads text other := by
        intro text named other reads
        cases found.symm.trans (override?_eq_some_iff.mpr ⟨text, named, reads⟩)
      rw [Option.getD_none]
      constructor
      · intro layered
        cases layered with
        | overridden named read => exact (unread _ named _ read).elim
        | filed _ present => rw [present, Option.getD_some]
        | builtIn _ absent => rw [absent, Option.getD_none]
      · rintro rfl
        cases entry with
        | none => exact .builtIn unread rfl
        | some given => exact .filed unread rfl

end Setting

/-! ## Loading -/

/-- The settings of an object are those that it gives, and the others are built in. -/
theorem value_of_read {members : Dictionary Json} {config : Config}
    (read : record.read (.object members) = .ok config) (setting : Setting) :
    setting.value config = (members.get? setting.key).getD (setting.value builtIn) := by
  have shown := setting.shows.of_read read
  rw [Record.given?] at shown
  cases given : members.get? setting.key with
  | none =>
      rw [given] at shown
      exact shown
  | some json =>
      rw [given] at shown
      exact shown

/-- An object gives a configuration exactly if its entries for settings are of their types. -/
theorem exists_read_iff {members : Dictionary Json} (sorted : members.Sorted) :
    (∃ config, record.read (.object members) = .ok config) ↔
      ∀ setting : Setting, ∀ json ∈ members.get? setting.key, setting.Admits json := by
  constructor
  · rintro ⟨config, read⟩ setting json given
    have shown := value_of_read read setting
    rw [Option.mem_def.mp given, Option.getD_some] at shown
    exact shown ▸ setting.admits_value config
  · intro admitted
    have unaliased : ∀ field ∈ record.fields, field.aliases = [] := by
      intro field member
      obtain ⟨setting, isField⟩ := Setting.exists_isField member
      exact isField.unaliased
    have sets : ∀ field ∈ record.fields, ∀ json, (field.name, json) ∈ members →
        ∀ config, ∃ next, field.set config json = .ok next := by
      intro field member json given config
      obtain ⟨setting, isField⟩ := Setting.exists_isField member
      rw [isField.named] at given
      have present := Dictionary.get?_of_mem sorted given
      exact isField.accepts config json (admitted setting json present)
    obtain ⟨last, config, read⟩ := Record.exists_setMembers unaliased sorted sets
      (fun _ _ => List.not_mem_nil) record.initial
    -- No field is required, so none is missing.
    exact ⟨config, bind_eq_ok_iff.mpr ⟨(last, config), read, rfl⟩⟩

/-- What loading makes of the entries of a file and of the environment. -/
structure Layering (file : Option (Except FileError (List UInt8))) (entries : Dictionary Json)
    (environment : Environment) : Prop where
  loads_iff : (∃ config, load file environment = .ok config) ↔
    ∀ setting : Setting, ∀ json ∈ entries.get? setting.key, setting.Admits json
  layered : ∀ config, load file environment = .ok config → ∀ (setting : Setting) (json : Json),
    setting.Layered (environment setting.variableName) (entries.get? setting.key) json ↔
      setting.value config = json
  /-- A variable has a part in its own setting only. -/
  apart : ∀ other config changed, load file environment = .ok config →
    load file other = .ok changed → ∀ setting : Setting,
      other setting.variableName = environment setting.variableName →
        setting.value changed = setting.value config
  /-- A variable that cannot be read might as well not be set. -/
  unread : ∀ name text, environment name = some text →
    (∀ setting : Setting, setting.variableName = name → ∀ json, ¬ setting.Reads text json) →
      load file environment = load file (Function.update environment name none)

/-- Loading comes in layers if, before the environment is looked at, each setting is what its entry
gives or built in. -/
theorem layering_of_entries {file : Option (Except FileError (List UInt8))}
    {entries : Dictionary Json} {settled : Except LoadError Config}
    (loads : ∀ environment, load file environment = settled.map (·.override environment))
    (settles_iff : (∃ config, settled = .ok config) ↔
      ∀ setting : Setting, ∀ json ∈ entries.get? setting.key, setting.Admits json)
    (given : ∀ config, settled = .ok config → ∀ setting : Setting,
      setting.value config = (entries.get? setting.key).getD (setting.value builtIn))
    (environment : Environment) : Layering file entries environment := by
  have value : ∀ {environment config}, load file environment = .ok config →
      ∀ setting : Setting, setting.value config =
        (setting.override? environment).getD
          ((entries.get? setting.key).getD (setting.value builtIn)) := by
    intro environment config loaded setting
    rw [loads] at loaded
    obtain ⟨start, found, rfl⟩ := map_eq_ok_iff.mp loaded
    rw [setting.value_override, given start found setting]
  refine ⟨?_, ?_, ?_, ?_⟩
  · rw [loads, exists_map_iff, settles_iff]
  · intro config loaded setting json
    rw [Setting.layered_iff, value loaded setting]
  · intro other config changed loaded again setting same
    rw [value loaded setting, value again setting, Setting.override?_congr same]
  · intro name text named unreadable
    have same : ∀ config : Config,
        config.override environment = config.override (Function.update environment name none) := by
      intro config
      apply Setting.eq_of_value_eq
      intro setting
      rw [setting.value_override, setting.value_override,
        Setting.override?_update named (unreadable setting)]
    rw [loads, loads]
    exact congrArg (Except.map · settled) (funext same)

/-- **Configurations come in layers.** This holds of every file that writes an object, and of the
empty one if no file is named; then loading never fails. -/
theorem layeringLaw {bytes : List UInt8} {entries : Dictionary Json}
    (decoded : Document.decode bytes = some (.object entries)) (environment : Environment) :
    Layering (some (.ok bytes)) entries environment ∧ Layering none [] environment ∧
      ∃ config, load none environment = .ok config := by
  refine ⟨?_, ?_, ⟨_, rfl⟩⟩
  · have read : ofFile (.ok bytes) = (record.read (.object entries)).mapError .invalid := by
      simp only [ofFile, decoded]
    have sorted : entries.Sorted := by
      cases Document.inOrder_of_decode decoded with
      | object sorted _ => exact sorted
    refine layering_of_entries (fun _ => rfl) ?_ ?_ environment
    · simp only [read, mapError_eq_ok_iff, exists_read_iff sorted]
    · intro config found
      rw [read, mapError_eq_ok_iff] at found
      exact value_of_read found
  · have loads : ∀ environment, load none environment =
        (Except.ok builtIn : Except LoadError Config).map (·.override environment) := fun _ => rfl
    refine layering_of_entries loads ?_ ?_ environment
    · exact iff_of_true ⟨builtIn, rfl⟩ fun setting json given => nomatch given
    · intro config found setting
      cases found
      rfl

/-- A file with a name that is no key, where one variable can be read and another one cannot. -/
theorem layeringLaw_partial :
    Document.decode (Text.Utf8.encode "default_read_timeout_ms: 500\nother: ~") =
        some (.object [("default_read_timeout_ms", Json.ofNat 500), ("other", .null)]) ∧
      Layering (some (.ok (Text.Utf8.encode "default_read_timeout_ms: 500\nother: ~")))
        [("default_read_timeout_ms", Json.ofNat 500), ("other", .null)]
        (Dictionary.get? [("WORKFLOWS_MAX_CONCURRENT_JOBS", "+8"),
          ("WORKFLOWS_READ_TIMEOUT_MS", "-1")]) := by
  have decoded : Document.decode (Text.Utf8.encode "default_read_timeout_ms: 500\nother: ~") =
      some (.object [("default_read_timeout_ms", Json.ofNat 500), ("other", .null)]) := by
    decide +kernel
  exact ⟨decoded, (layeringLaw decoded _).1⟩

end Config

end Runbook
