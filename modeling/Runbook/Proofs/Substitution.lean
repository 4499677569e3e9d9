import Runbook.Proofs.NameOrder
import Runbook.Proofs.Resolution

/-!
# Substitution

What a task resolves to (`Task.resolutionLaw`). Each text becomes the concatenation of its literals
and of the values of its references (`Template.filled`), and all else is taken over. A task that
cannot be resolved fails with the first of its references that has no value, where headers, form
fields and members of JSON objects are taken in order of their names.
-/

namespace Runbook

variable {context : Context}

/-! ## Filling in values -/

/-- The text that stands for a segment: literals as they are, and the values of references, which
are not read as templates again. -/
def Segment.filled (context : Context) : Segment → String
  | .literal text => text
  | .reference target =>
    match context.lookup target with
    | some (.string text) => text
    | some value => Json.text value
    | none => ""

/-- The concatenation of the texts of all segments. -/
def Template.filled (context : Context) (template : Template) : String :=
  String.join (template.segments.map (Segment.filled context))

/-- The request with all values put in. -/
def HttpTask.filled (context : Context) (task : HttpTask) : HttpRequest where
  method := task.method
  url := task.uri.filled context
  headers := task.headers.mapValues (Template.filled context)
  body := task.body.map (Template.filled context)
  contentType := task.contentType
  statusCodes := task.statusCodes
  connectionTimeout := task.connectionTimeout
  readTimeout := task.readTimeout

/-- The command with all values put in. -/
def CliTask.filled (context : Context) (task : CliTask) : CliInvocation where
  argv := task.command.map (Template.filled context)
  executionTimeout := task.executionTimeout

/-- What a task asks for, with all values put in. -/
def Task.filled (context : Context) (task : Task) : Invocation :=
  match task.payload with
  | .http http => .http (http.filled context)
  | .cli cli => .cli (cli.filled context)

/-! ## Resolved tasks -/

theorem Segment.eq_filled_of_resolve {segment : Segment} {text : String}
    (resolved : segment.resolve context = .ok text) : text = segment.filled context := by
  cases segment with
  | literal _ => exact (Except.ok.inj resolved).symm
  | reference target =>
      rw [resolve] at resolved
      rw [filled]
      cases found : context.lookup target with
      | none =>
          rw [found] at resolved
          cases resolved
      | some value =>
          rw [found] at resolved
          cases value <;> exact (Except.ok.inj resolved).symm

/-- A template is resolved to the concatenation of its segments. -/
theorem Template.eq_filled_of_resolve {template : Template} {text : String}
    (resolved : template.resolve context = .ok text) : text = template.filled context := by
  obtain ⟨texts, segments, joined⟩ := bind_eq_ok_iff.mp resolved
  rw [eq_map_of_mapM Segment.eq_filled_of_resolve segments] at joined
  exact (Except.ok.inj joined).symm

theorem HttpTask.eq_filled_of_resolve {task : HttpTask} {request : HttpRequest}
    (resolved : task.resolve context = .ok request) : request = task.filled context := by
  obtain ⟨headers, named, resolved⟩ := bind_eq_ok_iff.mp resolved
  obtain ⟨body, sent, resolved⟩ := bind_eq_ok_iff.mp resolved
  obtain ⟨url, address, built⟩ := bind_eq_ok_iff.mp resolved
  cases built
  rw [filled, Dictionary.eq_mapValues_of_traverse Template.eq_filled_of_resolve named,
    Body.eq_map_of_traverse Template.eq_filled_of_resolve sent,
    Template.eq_filled_of_resolve address]

theorem CliTask.eq_filled_of_resolve {task : CliTask} {command : CliInvocation}
    (resolved : task.resolve context = .ok command) : command = task.filled context := by
  obtain ⟨argv, texts, built⟩ := bind_eq_ok_iff.mp resolved
  cases built
  rw [filled, eq_map_of_mapM Template.eq_filled_of_resolve texts]

/-- A task is resolved to what it asks for with all values put in. -/
theorem Task.eq_filled_of_resolve {task : Task} {invocation : Invocation}
    (resolved : task.resolve context = .ok invocation) : invocation = task.filled context := by
  unfold resolve at resolved
  unfold filled
  cases payload : task.payload with
  | http http =>
      rw [payload] at resolved
      obtain ⟨request, done, rfl⟩ := map_eq_ok_iff.mp resolved
      exact congrArg Invocation.http (HttpTask.eq_filled_of_resolve done)
  | cli cli =>
      rw [payload] at resolved
      obtain ⟨command, done, rfl⟩ := map_eq_ok_iff.mp resolved
      exact congrArg Invocation.cli (CliTask.eq_filled_of_resolve done)

/-- What a task resolves to in a context. -/
structure Task.ResolutionLaw (task : Task) (context : Context) : Prop where
  /-- The values of a request are listed by name. -/
  inOrder : task.InOrder
  resolved_iff : (∃ invocation, task.resolve context = .ok invocation) ↔
    ∀ reference ∈ task.templateReferences, context.lookup reference ≠ none
  /-- The error names the first reference without a value: in a command from left to right, and in a
  request first in the headers, then in the body, and then in the address. -/
  failed_iff : ∀ cause, task.resolve context = .error cause ↔
    ∃ before reference behind, task.resolutionOrder = before ++ reference :: behind ∧
      (∀ earlier ∈ before, context.lookup earlier ≠ none) ∧ context.lookup reference = none ∧
        cause = .missing reference.text
  filled : ∀ invocation, task.resolve context = .ok invocation → invocation = task.filled context
  argv_length : ∀ command run, task.payload = .cli command →
    task.resolve context = .ok (.cli run) → run.argv.length = command.command.length
  header_names : ∀ call request, task.payload = .http call →
    task.resolve context = .ok (.http request) → request.headers.keys = call.headers.keys
  field_names : ∀ call fields request, task.payload = .http call → call.body = .form fields →
    task.resolve context = .ok (.http request) →
      ∃ sent, request.body = .form sent ∧ sent.keys = fields.keys
  /-- A context counts only through the values of the references. -/
  congr : ∀ other : Context,
    (∀ reference ∈ task.templateReferences, context.lookup reference = other.lookup reference) →
      task.resolve context = task.resolve other

/-- **How tasks are resolved.** This holds of all tasks that documents and builders give, in each
context. -/
theorem Task.resolutionLaw {task : Task} (accepted : task.Accepted) (context : Context) :
    task.ResolutionLaw context where
  inOrder := accepted.inOrder
  resolved_iff := exists_resolve_iff
  failed_iff _ := resolve_eq_error_iff_firstMissing.trans Context.firstMissing_eq_some_iff
  filled _ := eq_filled_of_resolve
  argv_length command run payload resolved := by
    have same := eq_filled_of_resolve resolved
    rw [Task.filled, payload] at same
    cases same
    exact List.length_map ..
  header_names call request payload resolved := by
    have same := eq_filled_of_resolve resolved
    rw [Task.filled, payload] at same
    cases same
    exact Dictionary.keys_mapValues ..
  field_names call fields request payload form resolved := by
    have same := eq_filled_of_resolve resolved
    rw [Task.filled, payload] at same
    cases same
    refine ⟨fields.mapValues (Template.filled context), ?_, Dictionary.keys_mapValues ..⟩
    rw [HttpTask.filled, form]
    rfl
  congr _ agree := resolve_congr agree

/-- A request whose address is looked up behind its header and its JSON value. -/
def Task.notice : Task where
  name := "notice"
  requires := []
  retries := 0
  payload := .http {
    uri := ⟨"http://fleet/$\x7bworkflow.input.device\x7d",
      [.literal "http://fleet/", .reference ⟨"workflow", ["input", "device"]⟩]⟩
    method := .post
    headers := [("X-Sender", ⟨"$\x7bworkflow.input.sender\x7d",
      [.reference ⟨"workflow", ["input", "sender"]⟩]⟩)]
    body := .json (.object [
      ("notes", .array [.string ⟨"seen by $\x7bscan.output\x7d",
        [.literal "seen by ", .reference ⟨"scan", ["output"]⟩]⟩]),
      ("state", .string ⟨"open", [.literal "open"]⟩)])
    contentType := none
    statusCodes := []
    connectionTimeout := none
    readTimeout := none }

theorem Task.notice_accepted : notice.Accepted := by
  have values : TaskScript.ValuesInOrder
      ⟨.service "notice" "post" "http://fleet/$\x7bworkflow.input.device\x7d",
        [.json (.object [("notes", .array [.string "seen by $\x7bscan.output\x7d"]),
          ("state", .string "open")]), .header "X-Sender" "$\x7bworkflow.input.sender\x7d"]⟩ := by
    intro value member
    simp only [List.mem_cons, TaskSetting.json.injEq, reduceCtorEq, List.not_mem_nil,
      or_false] at member
    subst member
    refine .object (by decide) ?_
    simp only [List.forall_mem_cons]
    exact ⟨.array (by simpa using .string _), .string _, fun _ member => nomatch member⟩
  exact .built values (by decide +kernel)

/-- The sender is reported, since the header comes before the JSON value and the address. -/
theorem Task.notice_resolutionLaw :
    notice.Accepted ∧ notice.ResolutionLaw .empty ∧
      notice.resolve .empty = .error (.missing "workflow.input.sender") :=
  ⟨notice_accepted, resolutionLaw notice_accepted _, by decide +kernel⟩

end Runbook
