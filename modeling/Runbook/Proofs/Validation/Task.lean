import Runbook.Proofs.Image
import Runbook.Proofs.Resolution
import Runbook.Proofs.Template.Layout
import Runbook.Task.Validation

/-!
# Well-formed tasks

What the draft of a task has to satisfy (`TaskDraft.WellFormed`), stated without the checks that
find it out, and what a task keeps of its draft (`Task.CarriesOver`). A draft is validated exactly
if it is well formed (`TaskDraft.exists_validate_iff`), and the task carries the draft over
(`Task.carriesOver_of_validate`).
-/

namespace Runbook

open SchemaError

/-- A character of the text is not blank. -/
def Text.Given (text : String) : Prop := ∃ c ∈ text.toList, isBlank c = false

theorem Text.isBlankText_eq_false_iff {text : String} : isBlankText text = false ↔ Given text :=
  List.all_eq_false.trans (by simp only [Given, Bool.not_eq_true])

/-- The text is the name of the method, in letters of either case. -/
def HttpMethod.Named (text : String) (method : HttpMethod) : Prop :=
  upperCase text = method.name

/-- What a request sends: nothing, or the one of text, form and JSON value that is given. -/
inductive HttpDraft.Sends (draft : HttpDraft) : Body String → Prop
  | empty (noText : draft.body = none) (noForm : draft.form = none) (noJson : draft.json = none) :
      Sends draft .empty
  | raw {text : String} (given : draft.body = some text) (noForm : draft.form = none)
      (noJson : draft.json = none) : Sends draft (.raw text)
  | form {fields : Dictionary String} (noText : draft.body = none)
      (given : draft.form = some fields) (noJson : draft.json = none) : Sends draft (.form fields)
  | json {value : Json} (noText : draft.body = none) (noForm : draft.form = none)
      (given : draft.json = some value) : Sends draft (.json value)

/-- What the draft of a request has to satisfy. -/
structure HttpDraft.WellFormed (draft : HttpDraft) : Prop where
  method : ∃ method : HttpMethod, method.Named draft.method
  uri_given : Text.Given draft.uri
  uri : Template.WellFormed draft.uri
  headers : ∀ fields ∈ draft.headers, ∀ value ∈ fields.values, Template.WellFormed value
  body : ∃ body, draft.Sends body ∧ ∀ text ∈ body.leaves, Template.WellFormed text
  statusCodes : ∀ code ∈ draft.statusCodes, 100 ≤ code ∧ code ≤ 599

/-- What the draft of a command has to satisfy. -/
structure CliDraft.WellFormed (draft : CliDraft) : Prop where
  program_given : ∃ program ∈ draft.command.head?, Text.Given program
  command : ∀ text ∈ draft.command, Template.WellFormed text

/-- The payload is given once, under the type of the draft. -/
inductive TaskDraft.PayloadWellFormed (draft : TaskDraft) : Prop
  | http {http : HttpDraft} (type : draft.type = "http") (given : draft.http = some http)
      (noCli : draft.cli = none) (wellFormed : http.WellFormed)
  | cli {cli : CliDraft} (type : draft.type = "cli") (noHttp : draft.http = none)
      (given : draft.cli = some cli) (wellFormed : cli.WellFormed)

/-- What the draft of a task has to satisfy. -/
structure TaskDraft.WellFormed (draft : TaskDraft) : Prop where
  name_given : draft.name ≠ ""
  name_free : draft.name ≠ "workflow"
  name_addressable : ∀ c ∈ draft.name.toList,
    c ∉ ['.', '$', '\x7b', '\x7d'] ∧ Text.isBlank c = false
  payload : draft.PayloadWellFormed
  requires : ∀ raw ∈ draft.requires, ∃ reference, Reference.Placeholder raw reference

/-- What a request keeps of its draft. -/
structure HttpTask.CarriesOver (task : HttpTask) (draft : HttpDraft) : Prop where
  method : task.method.Named draft.method
  uri : task.uri.raw = draft.uri
  headers : task.headers.mapValues Template.raw = draft.headers.getD []
  body : draft.Sends (task.body.map Template.raw)
  written : ∀ text ∈ task.texts, text.Written
  contentType : task.contentType = draft.contentType
  statusCodes : task.statusCodes = draft.statusCodes
  connectionTimeout : ∀ timeout,
    timeout ∈ task.connectionTimeout ↔ timeout ∈ draft.connectionTimeout ∧ timeout ≠ 0
  readTimeout : ∀ timeout,
    timeout ∈ task.readTimeout ↔ timeout ∈ draft.readTimeout ∧ timeout ≠ 0

/-- What a command keeps of its draft. -/
structure CliTask.CarriesOver (task : CliTask) (draft : CliDraft) : Prop where
  command : task.command.map Template.raw = draft.command
  written : ∀ text ∈ task.command, text.Written
  executionTimeout : ∀ timeout,
    timeout ∈ task.executionTimeout ↔ timeout ∈ draft.executionTimeout ∧ timeout ≠ 0

/-- What a payload keeps of the draft of its task. -/
inductive TaskPayload.CarriesOver (draft : TaskDraft) : TaskPayload → Prop
  | http {task : HttpTask} {http : HttpDraft} (given : draft.http = some http)
      (kept : task.CarriesOver http) : CarriesOver draft (.http task)
  | cli {task : CliTask} {cli : CliDraft} (given : draft.cli = some cli)
      (kept : task.CarriesOver cli) : CarriesOver draft (.cli task)

/-- What a task keeps of its draft. -/
structure Task.CarriesOver (task : Task) (draft : TaskDraft) : Prop where
  name : task.name = draft.name
  requires : List.Forall₂ Reference.Placeholder draft.requires task.requires
  retries : task.retries = draft.retries
  payload : task.payload.CarriesOver draft

/-! ## Readers -/

theorem HttpMethod.ofName?_eq_some_iff {text : String} {method : HttpMethod} :
    ofName? text = some method ↔ method.Named text := by
  rw [ofName?, Named]
  constructor
  · intro found
    have same := List.find?_some found
    exact (beq_iff_eq.mp same).symm
  · intro named
    rw [named]
    cases method <;> rfl

theorem TaskType.ofName?_eq_some_iff {text : String} {type : TaskType} :
    ofName? text = some type ↔ text = type.name := by
  rw [ofName?]
  constructor
  · intro found
    have same := List.find?_some found
    exact (beq_iff_eq.mp same).symm
  · rintro rfl
    cases type <;> rfl

theorem SchemaError.parseMethod_eq_ok_iff {text : String} {method : HttpMethod} :
    parseMethod text = .ok method ↔ method.Named text := by
  rw [← HttpMethod.ofName?_eq_some_iff, parseMethod]
  cases HttpMethod.ofName? text with
  | none => simp only [reduceCtorEq]
  | some found => simp only [Except.ok.injEq, Option.some.injEq]

theorem SchemaError.parseType_eq_ok_iff {text : String} {type : TaskType} :
    parseType text = .ok type ↔ text = type.name := by
  rw [← TaskType.ofName?_eq_some_iff, parseType]
  cases TaskType.ofName? text with
  | none => simp only [reduceCtorEq]
  | some found => simp only [Except.ok.injEq, Option.some.injEq]

theorem SchemaError.parseTemplate_eq_ok_iff {raw : String} {template : Template} :
    parseTemplate raw = .ok template ↔ template.raw = raw ∧ template.Written :=
  mapError_eq_ok_iff.trans Template.parse_eq_ok_iff

/-- A text can be read as part of a schema exactly if it is well formed. -/
theorem SchemaError.exists_parseTemplate_iff {raw : String} :
    (∃ template, parseTemplate raw = .ok template) ↔ Template.WellFormed raw :=
  (exists_congr fun _ => mapError_eq_ok_iff).trans Template.exists_parse_iff

theorem mem_nonzero_iff {timeout : Option UInt64} {found : Milliseconds} :
    found ∈ nonzero timeout ↔ found ∈ timeout ∧ found ≠ 0 := by
  simp only [nonzero, Option.mem_def, Option.filter_eq_some_iff, decide_eq_true_eq, ne_eq]

/-! ## Requests -/

/-- The body is read from what the request sends. -/
theorem HttpDraft.validateBody_eq_ok_iff {draft : HttpDraft} {body : Body Template} :
    draft.validateBody = .ok body ↔
      ∃ given, draft.Sends given ∧ given.traverse Template.parse = .ok body := by
  have form : ∀ fields : Dictionary String, Dictionary.traverse parseTemplate fields =
      (Dictionary.traverse Template.parse fields).mapError .placeholder :=
    Dictionary.traverse_mapError Template.parse SchemaError.placeholder
  constructor
  · intro done
    rw [validateBody] at done
    split at done
    · rename_i noText noForm noJson
      cases done
      exact ⟨.empty, .empty noText noForm noJson, rfl⟩
    · rename_i text given noForm noJson
      exact ⟨.raw text, .raw given noForm noJson, map_mapError_eq_ok_iff.mp done⟩
    · rename_i fields noText given noJson
      rw [form] at done
      exact ⟨.form fields, .form noText given noJson, map_mapError_eq_ok_iff.mp done⟩
    · rename_i value noText noForm given
      exact ⟨.json value, .json noText noForm given, map_mapError_eq_ok_iff.mp done⟩
    · cases done
  · rintro ⟨given, sends, read⟩
    cases sends with
    | empty noText noForm noJson =>
        cases read
        simp only [validateBody, noText, noForm, noJson]
    | raw given noForm noJson =>
        simp only [validateBody, given, noForm, noJson]
        exact map_mapError_eq_ok_iff.mpr read
    | form noText given noJson =>
        simp only [validateBody, noText, given, noJson, form]
        exact map_mapError_eq_ok_iff.mpr read
    | json noText noForm given =>
        simp only [validateBody, noText, noForm, given]
        exact map_mapError_eq_ok_iff.mpr read

/-- What the validation of a request checks, and the request that it gives. -/
theorem HttpDraft.validate_eq_ok_iff {draft : HttpDraft} {task : HttpTask} :
    draft.validate = .ok task ↔
      ∃ method uri headers body, parseMethod draft.method = .ok method ∧
        parseTemplate draft.uri = .ok uri ∧ Text.isBlankText draft.uri = false ∧
        Dictionary.traverse parseTemplate (draft.headers.getD []) = .ok headers ∧
        draft.validateBody = .ok body ∧ (∀ code ∈ draft.statusCodes, isStatusCode code = true) ∧
        task = ⟨uri, method, headers, body, draft.contentType, draft.statusCodes,
          nonzero draft.connectionTimeout, nonzero draft.readTimeout⟩ := by
  have codes : draft.statusCodes.find? (fun code => !isStatusCode code) = none ↔
      ∀ code ∈ draft.statusCodes, isStatusCode code = true := by
    simp only [List.find?_eq_none, Bool.not_eq_true', Bool.not_eq_false]
  rw [validate]
  constructor
  · intro done
    obtain ⟨method, known, done⟩ := bind_eq_ok_iff.mp done
    obtain ⟨uri, read, done⟩ := bind_eq_ok_iff.mp done
    cases blank : Text.isBlankText draft.uri with
    | true =>
        rw [blank] at done
        cases done
    | false =>
        rw [blank] at done
        obtain ⟨headers, named, done⟩ := bind_eq_ok_iff.mp done
        obtain ⟨body, sent, done⟩ := bind_eq_ok_iff.mp done
        split at done
        · cases done
        · rename_i valid
          cases done
          exact ⟨method, uri, headers, body, known, read, rfl, named, sent, codes.mp valid, rfl⟩
  · rintro ⟨method, uri, headers, body, known, read, given, named, sent, valid, rfl⟩
    rw [known, read, given, named, sent, codes.mpr valid]
    rfl

/-- A body can be read exactly if one is sent whose texts are well formed. -/
theorem HttpDraft.exists_validateBody_iff {draft : HttpDraft} :
    (∃ body, draft.validateBody = .ok body) ↔
      ∃ given, draft.Sends given ∧ ∀ text ∈ given.leaves, Template.WellFormed text := by
  simp only [validateBody_eq_ok_iff, ← Template.exists_parse_iff, ← Body.exists_traverse_iff]
  exact exists_comm.trans (exists_congr fun _ => exists_and_left)

/-- Headers can be read exactly if their values are well formed. -/
theorem HttpDraft.exists_headers_iff {fields : Option (Dictionary String)} :
    (∃ headers, Dictionary.traverse parseTemplate (fields.getD []) = .ok headers) ↔
      ∀ entries ∈ fields, ∀ value ∈ entries.values, Template.WellFormed value := by
  simp only [← exists_parseTemplate_iff, ← Dictionary.exists_traverse_iff]
  cases fields with
  | none => exact iff_of_true ⟨[], rfl⟩ fun entries member => nomatch member
  | some entries => simp only [Option.getD_some, Option.mem_def, Option.some.injEq, forall_eq']

theorem isStatusCode_iff {code : UInt16} : isStatusCode code = true ↔ 100 ≤ code ∧ code ≤ 599 := by
  simp only [isStatusCode, Bool.and_eq_true, decide_eq_true_eq]

/-- Requests are validated exactly if they are well formed. -/
theorem HttpDraft.exists_validate_iff {draft : HttpDraft} :
    (∃ task, draft.validate = .ok task) ↔ draft.WellFormed := by
  constructor
  · rintro ⟨task, valid⟩
    obtain ⟨method, uri, headers, body, known, read, given, named, sent, codes, -⟩ :=
      validate_eq_ok_iff.mp valid
    exact {
      method := ⟨method, parseMethod_eq_ok_iff.mp known⟩
      uri_given := Text.isBlankText_eq_false_iff.mp given
      uri := exists_parseTemplate_iff.mp ⟨uri, read⟩
      headers := exists_headers_iff.mp ⟨headers, named⟩
      body := exists_validateBody_iff.mp ⟨body, sent⟩
      statusCodes := fun code member => isStatusCode_iff.mp (codes code member) }
  · intro wellFormed
    obtain ⟨method, known⟩ := wellFormed.method
    obtain ⟨uri, read⟩ := exists_parseTemplate_iff.mpr wellFormed.uri
    obtain ⟨headers, named⟩ := exists_headers_iff.mpr wellFormed.headers
    obtain ⟨body, sent⟩ := exists_validateBody_iff.mpr wellFormed.body
    exact ⟨_, validate_eq_ok_iff.mpr ⟨method, uri, headers, body,
      parseMethod_eq_ok_iff.mpr known, read, Text.isBlankText_eq_false_iff.mpr wellFormed.uri_given,
      named, sent, fun code member => isStatusCode_iff.mpr (wellFormed.statusCodes code member),
      rfl⟩⟩

/-- A validated request carries its draft over. -/
theorem HttpTask.carriesOver_of_validate {draft : HttpDraft} {task : HttpTask}
    (valid : draft.validate = .ok task) : task.CarriesOver draft := by
  obtain ⟨method, uri, headers, body, known, read, -, named, sent, -, rfl⟩ :=
    HttpDraft.validate_eq_ok_iff.mp valid
  obtain ⟨same, written⟩ := parseTemplate_eq_ok_iff.mp read
  obtain ⟨given, sends, traversed⟩ := HttpDraft.validateBody_eq_ok_iff.mp sent
  refine {
    method := parseMethod_eq_ok_iff.mp known
    uri := same
    headers := Dictionary.mapValues_of_traverse
      (fun found => (parseTemplate_eq_ok_iff.mp found).1) named
    body := ?_
    written := ?_
    contentType := rfl
    statusCodes := rfl
    connectionTimeout := fun _ => mem_nonzero_iff
    readTimeout := fun _ => mem_nonzero_iff }
  · rw [Body.map_of_traverse (fun found => (Template.parse_eq_ok_iff.mp found).1) traversed]
    exact sends
  · intro text listed
    rcases List.mem_append.mp listed with header | listed
    · obtain ⟨_, -, found⟩ := Dictionary.exists_of_mem_values named header
      exact (parseTemplate_eq_ok_iff.mp found).2
    · rcases List.mem_append.mp listed with leaf | address
      · obtain ⟨_, -, found⟩ := Body.exists_of_mem_leaves traversed leaf
        exact (Template.parse_eq_ok_iff.mp found).2
      · rw [List.mem_singleton.mp address]
        exact written

/-! ## Commands -/

/-- What the validation of a command checks, and the command that it gives. -/
theorem CliDraft.validate_eq_ok_iff {draft : CliDraft} {task : CliTask} :
    draft.validate = .ok task ↔
      (∃ program ∈ draft.command.head?, Text.Given program) ∧
        ∃ command, draft.command.mapM parseTemplate = .ok command ∧
          task = ⟨command, nonzero draft.executionTimeout⟩ := by
  rw [validate]
  cases listed : draft.command with
  | nil =>
      refine iff_of_false (fun done => nomatch done) ?_
      rintro ⟨⟨program, member, -⟩, -⟩
      cases member
  | cons program arguments =>
      simp only [List.head?_cons, Option.mem_def, Option.some.injEq, exists_eq_left',
        ← Text.isBlankText_eq_false_iff]
      cases blank : Text.isBlankText program with
      | true => exact iff_of_false (fun done => nomatch done) fun checked => nomatch checked.1
      | false =>
          simp only [Bool.false_eq_true, ↓reduceIte, true_and]
          constructor
          · intro done
            obtain ⟨command, read, built⟩ := bind_eq_ok_iff.mp done
            cases built
            exact ⟨command, read, rfl⟩
          · rintro ⟨command, read, rfl⟩
            exact bind_eq_ok_iff.mpr ⟨command, read, rfl⟩

/-- Commands are validated exactly if they are well formed. -/
theorem CliDraft.exists_validate_iff {draft : CliDraft} :
    (∃ task, draft.validate = .ok task) ↔ draft.WellFormed := by
  have readable : (∃ command, draft.command.mapM parseTemplate = .ok command) ↔
      ∀ text ∈ draft.command, Template.WellFormed text :=
    exists_mapM_iff.trans (forall₂_congr fun _ _ => exists_parseTemplate_iff)
  constructor
  · rintro ⟨task, valid⟩
    obtain ⟨given, command, read, -⟩ := validate_eq_ok_iff.mp valid
    exact ⟨given, readable.mp ⟨command, read⟩⟩
  · rintro ⟨given, wellFormed⟩
    obtain ⟨command, read⟩ := readable.mpr wellFormed
    exact ⟨_, validate_eq_ok_iff.mpr ⟨given, command, read, rfl⟩⟩

/-- A validated command carries its draft over. -/
theorem CliTask.carriesOver_of_validate {draft : CliDraft} {task : CliTask}
    (valid : draft.validate = .ok task) : task.CarriesOver draft := by
  obtain ⟨-, command, read, rfl⟩ := CliDraft.validate_eq_ok_iff.mp valid
  refine ⟨map_of_mapM (fun found => (parseTemplate_eq_ok_iff.mp found).1) read, ?_,
    fun _ => mem_nonzero_iff⟩
  intro text listed
  obtain ⟨_, -, found⟩ := exists_of_mem_mapM read listed
  exact (parseTemplate_eq_ok_iff.mp found).2

/-! ## Tasks -/

theorem isNameChar_iff {c : Char} :
    isNameChar c = true ↔ c ∉ ['.', '$', '\x7b', '\x7d'] ∧ Text.isBlank c = false := by
  simp only [isNameChar, Bool.not_eq_true', Bool.or_eq_false_iff, beq_eq_false_iff_ne,
    List.mem_cons, List.not_mem_nil, or_false, not_or, and_assoc, ne_eq]

/-- The name of a task is checked to be given, free, and a single segment of a path. -/
theorem TaskDraft.validateName_eq_ok_iff {draft : TaskDraft} :
    draft.validateName = .ok () ↔
      draft.name ≠ "" ∧ draft.name ≠ "workflow" ∧ ∀ c ∈ draft.name.toList,
        c ∉ ['.', '$', '\x7b', '\x7d'] ∧ Text.isBlank c = false := by
  have characters : draft.name.toList.find? (fun c => !isNameChar c) = none ↔
      ∀ c ∈ draft.name.toList, c ∉ ['.', '$', '\x7b', '\x7d'] ∧ Text.isBlank c = false := by
    simp only [List.find?_eq_none, Bool.not_eq_true', Bool.not_eq_false, isNameChar_iff]
  rw [validateName, ← characters]
  cases blank : Text.isBlankText draft.name with
  | true =>
      refine iff_of_false (fun done => nomatch done) ?_
      rintro ⟨given, -, addressable⟩
      obtain ⟨c, member⟩ := List.exists_mem_of_ne_nil _ (String.toList_eq_nil_iff.not.mpr given)
      have visible := (characters.mp addressable c member).2
      rw [List.all_eq_true.mp blank c member] at visible
      cases visible
  | false =>
      have given : draft.name ≠ "" := by
        rintro empty
        rw [empty] at blank
        cases blank
      simp only [Bool.false_eq_true, ↓reduceIte]
      by_cases reserved : draft.name = workflowSpace
      · simp only [reserved, ↓reduceIte, reduceCtorEq, false_iff]
        exact fun checked => checked.2.1 rfl
      · simp only [reserved, ↓reduceIte]
        cases found : draft.name.toList.find? (fun c => !isNameChar c) with
        | some c => exact iff_of_false (fun done => nomatch done) fun checked => nomatch checked.2.2
        | none => exact iff_of_true rfl ⟨given, reserved, rfl⟩

/-- The payload is checked to be the one of the type. -/
theorem TaskDraft.validatePayload_eq_ok_iff {draft : TaskDraft} {payload : TaskPayload} :
    draft.validatePayload = .ok payload ↔
      (∃ http task, draft.type = "http" ∧ draft.http = some http ∧ draft.cli = none ∧
        http.validate = .ok task ∧ payload = .http task) ∨
      ∃ cli task, draft.type = "cli" ∧ draft.http = none ∧ draft.cli = some cli ∧
        cli.validate = .ok task ∧ payload = .cli task := by
  rw [validatePayload, bind_eq_ok_iff]
  constructor
  · rintro ⟨type, known, done⟩
    have named := parseType_eq_ok_iff.mp known
    split at done
    · rename_i http given noCli
      obtain ⟨task, valid, built⟩ := bind_eq_ok_iff.mp done
      cases built
      exact Or.inl ⟨http, task, named, given, noCli, valid, rfl⟩
    · rename_i cli noHttp given
      obtain ⟨task, valid, built⟩ := bind_eq_ok_iff.mp done
      cases built
      exact Or.inr ⟨cli, task, named, noHttp, given, valid, rfl⟩
    · cases done
  · rintro (⟨http, task, named, given, noCli, valid, rfl⟩ |
      ⟨cli, task, named, noHttp, given, valid, rfl⟩)
    · refine ⟨.http, parseType_eq_ok_iff.mpr named, ?_⟩
      simp only [given, noCli]
      exact bind_eq_ok_iff.mpr ⟨task, valid, rfl⟩
    · refine ⟨.cli, parseType_eq_ok_iff.mpr named, ?_⟩
      simp only [noHttp, given]
      exact bind_eq_ok_iff.mpr ⟨task, valid, rfl⟩

/-- A payload can be validated exactly if it is well formed. -/
theorem TaskDraft.exists_validatePayload_iff {draft : TaskDraft} :
    (∃ payload, draft.validatePayload = .ok payload) ↔ draft.PayloadWellFormed := by
  simp only [validatePayload_eq_ok_iff]
  constructor
  · rintro ⟨_, ⟨http, task, named, given, noCli, valid, -⟩ |
      ⟨cli, task, named, noHttp, given, valid, -⟩⟩
    · exact .http named given noCli (HttpDraft.exists_validate_iff.mp ⟨task, valid⟩)
    · exact .cli named noHttp given (CliDraft.exists_validate_iff.mp ⟨task, valid⟩)
  · intro wellFormed
    cases wellFormed with
    | @http http named given noCli wellFormed =>
        obtain ⟨task, valid⟩ := HttpDraft.exists_validate_iff.mpr wellFormed
        exact ⟨.http task, Or.inl ⟨http, task, named, given, noCli, valid, rfl⟩⟩
    | @cli cli named noHttp given wellFormed =>
        obtain ⟨task, valid⟩ := CliDraft.exists_validate_iff.mpr wellFormed
        exact ⟨.cli task, Or.inr ⟨cli, task, named, noHttp, given, valid, rfl⟩⟩

/-- What the validation of a task checks, and the task that it gives. -/
theorem TaskDraft.validate_eq_ok_iff {draft : TaskDraft} {task : Task} :
    draft.validate = .ok task ↔
      draft.validateName = .ok () ∧ ∃ payload requires, draft.validatePayload = .ok payload ∧
        List.Forall₂ Reference.Placeholder draft.requires requires ∧
          task = ⟨draft.name, requires, draft.retries, payload⟩ := by
  have references : ∀ requires : List Reference,
      (draft.requires.mapM fun raw => liftPlaceholder (Reference.parsePlaceholder raw)) =
        .ok requires ↔ List.Forall₂ Reference.Placeholder draft.requires requires := by
    intro requires
    simp only [mapM_eq_ok_iff, liftPlaceholder, mapError_eq_ok_iff,
      Reference.parsePlaceholder_eq_ok_iff]
  constructor
  · intro done
    obtain ⟨_, named, done⟩ := bind_eq_ok_iff.mp done
    obtain ⟨payload, valid, done⟩ := bind_eq_ok_iff.mp (mapError_eq_ok_iff.mp done)
    obtain ⟨requires, read, built⟩ := bind_eq_ok_iff.mp done
    cases built
    exact ⟨named, payload, requires, valid, (references requires).mp read, rfl⟩
  · rintro ⟨named, payload, requires, valid, read, rfl⟩
    refine bind_eq_ok_iff.mpr ⟨(), named, mapError_eq_ok_iff.mpr ?_⟩
    exact bind_eq_ok_iff.mpr ⟨payload, valid,
      bind_eq_ok_iff.mpr ⟨requires, (references requires).mpr read, rfl⟩⟩

/-- Tasks are validated exactly if they are well formed. -/
theorem TaskDraft.exists_validate_iff {draft : TaskDraft} :
    (∃ task, draft.validate = .ok task) ↔ draft.WellFormed := by
  constructor
  · rintro ⟨task, valid⟩
    obtain ⟨named, payload, requires, checked, read, -⟩ := validate_eq_ok_iff.mp valid
    obtain ⟨given, free, addressable⟩ := validateName_eq_ok_iff.mp named
    exact ⟨given, free, addressable, exists_validatePayload_iff.mp ⟨payload, checked⟩,
      exists_forall₂_iff.mp ⟨requires, read⟩⟩
  · rintro ⟨given, free, addressable, payload, requires⟩
    obtain ⟨payload, checked⟩ := exists_validatePayload_iff.mpr payload
    obtain ⟨requires, read⟩ := exists_forall₂_iff.mpr requires
    exact ⟨_, validate_eq_ok_iff.mpr ⟨validateName_eq_ok_iff.mpr ⟨given, free, addressable⟩,
      payload, requires, checked, read, rfl⟩⟩

/-- A validated task carries its draft over. -/
theorem Task.carriesOver_of_validate {draft : TaskDraft} {task : Task}
    (valid : draft.validate = .ok task) : task.CarriesOver draft := by
  obtain ⟨-, payload, requires, checked, read, rfl⟩ := TaskDraft.validate_eq_ok_iff.mp valid
  refine ⟨rfl, read, rfl, ?_⟩
  rcases TaskDraft.validatePayload_eq_ok_iff.mp checked with
    ⟨http, call, -, given, -, built, rfl⟩ | ⟨cli, run, -, -, given, built, rfl⟩
  · exact .http given (HttpTask.carriesOver_of_validate built)
  · exact .cli given (CliTask.carriesOver_of_validate built)

end Runbook
