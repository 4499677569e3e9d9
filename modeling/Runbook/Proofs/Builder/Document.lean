import Runbook.Document
import Runbook.Proofs.Builder.Script

/-!
# Built workflows and documents

The document of a script is read into the draft that the calls of the script fill in
(`TaskScript.read_tree`, `WorkflowCall.draft_document`), so that building and reading have the same
result, be it a workflow or an error (`buildWorkflow_eq_interpret`).
-/

namespace Runbook

open Schema TaskSetting WorkflowCall

namespace TaskScript

/-- If the task is a request, null is not its last JSON value. -/
def JsonGiven (script : TaskScript) : Prop :=
  script.opening.service?.isSome → lastOf json? script.settings ≠ some .null

instance (script : TaskScript) : Decidable script.JsonGiven :=
  inferInstanceAs (Decidable (_ → _))

/-- The command of a document is read into the command after the calls. -/
theorem read_cliTree (settings : List TaskSetting) (command : List String) :
    CliDraft.record.read (cliTree settings command) = .ok (cliDraft settings command) := by
  have required : CliDraft.record.required = ["command"] := rfl
  have distinct : ["command", "executionTimeOut"].Nodup := by decide
  refine Record.read_ofRows ?_ distinct ?_
  · refine .given rfl (list_ofTexts command) ?_
    refine .row id rfl (fun timeout _ => ?_) rfl .nil
    exact congrArg (Except.map some) (word64_ofNat timeout)
  · intro name member
    rw [required, List.mem_singleton] at member
    exact ⟨.ofTexts command, by simp [member]⟩

/-- The request of a document is read into the request after the calls, unless null is its JSON
value. -/
theorem read_httpTree {settings : List TaskSetting} (service : String × String)
    (given : lastOf json? settings ≠ some .null) :
    HttpDraft.record.read (httpTree settings service) = .ok (httpDraft settings service) := by
  have required : HttpDraft.record.required = ["uri", "method"] := rfl
  have distinct : ["body", "connectionTimeOut", "contentType", "formdata", "headers", "json",
    "method", "readTimeOut", "statusCodes", "uri"].Nodup := by decide
  have timeouts (timeout : UInt64) :
      optional word64 (Json.ofNat timeout.toNat) = .ok (some timeout) :=
    congrArg (Except.map some) (word64_ofNat timeout)
  have entries (fields : Dictionary String) :
      optional (dictionary text) (Json.ofEntries fields) = .ok (some fields) :=
    congrArg (Except.map some) (dictionary_ofEntries fields)
  have json : ∀ value ∈ lastOf json? settings, optional anything value = .ok (some value) := by
    intro value member
    refine optional_of_ne_null anything ?_
    rintro rfl
    exact given member
  have codes (codes : List UInt16) :
      list word16 (.array (codes.map (Json.ofNat ·.toNat))) = .ok codes := by
    rw [list_map fun code _ => word16_ofNat code]
    exact congrArg Except.ok (List.map_id _)
  refine Record.read_ofRows ?_ distinct ?_
  · refine .row id rfl (fun _ _ => rfl) rfl ?_
    refine .row id rfl (fun timeout _ => timeouts timeout) rfl ?_
    refine .row id rfl (fun _ _ => rfl) rfl ?_
    refine .row id rfl (fun fields _ => entries fields) rfl ?_
    refine .row id rfl (fun fields _ => entries fields) rfl ?_
    refine .plain id rfl json rfl ?_
    refine .given rfl rfl ?_
    refine .row id rfl (fun timeout _ => timeouts timeout) rfl ?_
    refine .row (Option.getD · []) rfl (fun given _ => codes given) rfl ?_
    exact .given rfl rfl .nil
  · intro name member
    rw [required, List.mem_pair] at member
    rcases member with rfl | rfl
    · exact ⟨.string service.2, by simp⟩
    · exact ⟨.string service.1, by simp⟩

/-- The task of a document is read into the draft after the calls. -/
theorem read_tree {script : TaskScript} (given : script.JsonGiven) :
    TaskDraft.record.read script.tree = .ok script.draft := by
  have required : TaskDraft.record.required = ["name", "type"] := rfl
  have distinct : ["cli", "http", "name", "requires", "retries", "type"].Nodup := by decide
  rw [draft_eq]
  refine Record.read_ofRows ?_ distinct ?_
  · refine .row (Option.map (cliDraft script.settings)) rfl (fun command _ => ?_) rfl ?_
    · exact congrArg (Except.map some) (read_cliTree script.settings command)
    refine .row (Option.map (httpDraft script.settings)) rfl (fun service member => ?_) rfl ?_
    · exact congrArg (Except.map some)
        (read_httpTree service (given (Option.isSome_of_mem member)))
    refine .given rfl rfl ?_
    refine .row (Option.getD · []) rfl (fun texts _ => list_ofTexts texts) rfl ?_
    refine .row (Option.getD · 0) rfl (fun count _ => word32_ofNat count) rfl ?_
    rw [getD_listOf]
    exact .given rfl rfl .nil
  · intro name member
    rw [required, List.mem_pair] at member
    rcases member with rfl | rfl
    · exact ⟨.string script.opening.name, by simp⟩
    · exact ⟨.string script.opening.type.name, by simp⟩

end TaskScript

namespace WorkflowCall

/-- The document of calls is read into the draft that the calls fill in. -/
theorem draft_document (name : String) {calls : List WorkflowCall}
    (given : ∀ script ∈ calls.filterMap task?, script.JsonGiven) :
    Document.draft (document name calls) =
      .ok ((WorkflowDraft.new name).setAll (calls.map setting)) := by
  have required : WorkflowDraft.record.required = ["name", "tasks"] := rfl
  have distinct : ["description", "inputParameters", "name", "schemaVersion", "tasks",
    "version"].Nodup := by decide
  refine mapError_eq_ok_iff.mpr ?_
  rw [setAll_eq]
  refine Record.read_ofRows ?_ distinct ?_
  · refine .row (Option.getD · "") rfl (fun _ _ => rfl) rfl ?_
    refine .row (Option.getD · []) rfl (fun texts _ => list_ofTexts texts) rfl ?_
    refine .given rfl rfl ?_
    refine .row (Option.getD · 0) rfl (fun number _ => word32_ofNat number) rfl ?_
    refine .given rfl (list_map fun script member => TaskScript.read_tree (given script member)) ?_
    refine .row (Option.getD · 0) rfl (fun number _ => word32_ofNat number) rfl ?_
    rw [getD_listOf]
    exact .nil
  · intro field member
    rw [required, List.mem_pair] at member
    rcases member with rfl | rfl
    · exact ⟨.string name, by simp⟩
    · exact ⟨.array ((calls.filterMap task?).map TaskScript.tree), by simp⟩

end WorkflowCall

/-- What the validation of each task of a document gives, in order. -/
def Document.validateEach (value : Json) : Except SchemaError (List (Except SchemaError Task)) :=
  (draft value).map fun draft => draft.tasks.map TaskDraft.validate

/-- **Builders and documents agree.** Calls give what the document that they describe gives, and
each task that they build gives by itself what it gives inside that document. -/
theorem buildWorkflow_eq_interpret (name : String) (calls : List WorkflowCall)
    (given : ∀ script ∈ calls.filterMap task?, script.JsonGiven) :
    buildWorkflow name (calls.map setting) = Document.interpret (document name calls) ∧
      Document.validateEach (document name calls) =
        .ok ((calls.filterMap task?).map TaskScript.build) := by
  have read := draft_document name given
  constructor
  · rw [Document.interpret, read]
    rfl
  · rw [Document.validateEach, read, setAll_eq]
    exact congrArg Except.ok (List.map_map ..)

/-- Two tasks, of which the first one sets its header and its JSON value twice and the second one
sets a part that only a request has. -/
def WorkflowCall.drain : List WorkflowCall := [
  .input "device",
  .task ⟨.service "lock" "post" "http://fleet/$\x7bworkflow.input.device\x7d", [
    .json .null, .header "Accept" "text/plain", .retries 2, .header "Accept" "application/json",
    .json (.object [("state", .string "locked")])]⟩,
  .task ⟨.program "wipe" ["wipe", "$\x7bworkflow.input.device\x7d"], [
    .requires "$\x7block.status\x7d", .json .null, .executionTimeout 500]⟩]

theorem drain_buildWorkflow_eq_interpret :
    (∀ script ∈ drain.filterMap task?, script.JsonGiven) ∧
      buildWorkflow "drain" (drain.map setting) = Document.interpret (document "drain" drain) ∧
        Document.validateEach (document "drain" drain) =
          .ok ((drain.filterMap task?).map TaskScript.build) := by
  have given : ∀ script ∈ drain.filterMap task?, script.JsonGiven := by decide
  exact ⟨given, buildWorkflow_eq_interpret "drain" drain given⟩

end Runbook
