import Mathlib.Data.List.Induction
import Runbook.Builder
import Runbook.Proofs.Schema.Rows

/-!
# Scripts of calls

The calls that build a task or a workflow, as data (`TaskScript`, `WorkflowCall`), and the document
that they describe (`WorkflowCall.document`): of a value that is set several times the last one
counts, entries of a dictionary replace earlier ones of the same name, and what is listed stands in
the order of the calls. What no call gives is left out.
-/

namespace Runbook

variable {σ α β : Type}

/-! ## What calls give -/

/-- The value of the last call of a kind, if there is one. -/
def lastOf (pick : σ → Option β) (calls : List σ) : Option β :=
  (calls.filterMap pick).getLast?

/-- The values of all calls of a kind, if there is one. -/
def listOf (pick : σ → Option β) (calls : List σ) : Option (List β) :=
  if calls.filterMap pick = [] then none else some (calls.filterMap pick)

/-- The entries of all calls of a kind, if there is one. -/
def dictionaryOf (pick : σ → Option (String × String)) (calls : List σ) :
    Option (Dictionary String) :=
  (listOf pick calls).map Dictionary.ofList

/-- Begins a task. -/
inductive TaskOpening where
  | service (name method uri : String)
  | program (name : String) (command : List String)
deriving DecidableEq, Repr, Inhabited

/-- The calls that build a task: the one that begins it, and those that set its parts. -/
structure TaskScript where
  opening : TaskOpening
  settings : List TaskSetting
deriving DecidableEq, Repr, Inhabited

/-- A call that sets a part of a workflow, with the calls that build its task. -/
inductive WorkflowCall where
  | description (text : String)
  | version (number : UInt32)
  | schemaVersion (number : UInt32)
  | input (parameter : String)
  | task (script : TaskScript)
deriving DecidableEq, Repr, Inhabited

namespace TaskOpening

def name : TaskOpening → String
  | .service name _ _ => name
  | .program name _ => name

def type : TaskOpening → TaskType
  | .service .. => .http
  | .program .. => .cli

/-- The method and the address of a request. -/
def service? : TaskOpening → Option (String × String)
  | .service _ method uri => some (method, uri)
  | .program .. => none

/-- The program and its arguments. -/
def command? : TaskOpening → Option (List String)
  | .service .. => none
  | .program _ command => some command

/-- The task as it is begun. -/
def draft : TaskOpening → TaskDraft
  | .service name method uri => TaskDraft.callService name method uri
  | .program name command => TaskDraft.runProgram name command

end TaskOpening

namespace TaskSetting

def requires? : TaskSetting → Option String
  | .requires placeholder => some placeholder
  | _ => none

def retries? : TaskSetting → Option UInt32
  | .retries count => some count
  | _ => none

def header? : TaskSetting → Option (String × String)
  | .header name value => some (name, value)
  | _ => none

def body? : TaskSetting → Option String
  | .body text => some text
  | _ => none

def formField? : TaskSetting → Option (String × String)
  | .formField name value => some (name, value)
  | _ => none

def json? : TaskSetting → Option Json
  | .json value => some value
  | _ => none

def contentType? : TaskSetting → Option String
  | .contentType text => some text
  | _ => none

def statusCodes? : TaskSetting → Option (List UInt16)
  | .statusCodes codes => some codes
  | _ => none

def connectionTimeout? : TaskSetting → Option UInt64
  | .connectionTimeout timeout => some timeout
  | _ => none

def readTimeout? : TaskSetting → Option UInt64
  | .readTimeout timeout => some timeout
  | _ => none

def executionTimeout? : TaskSetting → Option UInt64
  | .executionTimeout timeout => some timeout
  | _ => none

end TaskSetting

namespace WorkflowCall

def description? : WorkflowCall → Option String
  | .description text => some text
  | _ => none

def version? : WorkflowCall → Option UInt32
  | .version number => some number
  | _ => none

def schemaVersion? : WorkflowCall → Option UInt32
  | .schemaVersion number => some number
  | _ => none

def input? : WorkflowCall → Option String
  | .input parameter => some parameter
  | _ => none

def task? : WorkflowCall → Option TaskScript
  | .task script => some script
  | _ => none

end WorkflowCall

/-! ## Documents of scripts -/

namespace TaskScript

open TaskSetting

/-- The request of a document. -/
def httpTree (settings : List TaskSetting) (service : String × String) : Json :=
  .ofRows [
    ("body", (lastOf body? settings).map .string),
    ("connectionTimeOut", (lastOf connectionTimeout? settings).map (Json.ofNat ·.toNat)),
    ("contentType", (lastOf contentType? settings).map .string),
    ("formdata", (dictionaryOf formField? settings).map .ofEntries),
    ("headers", (dictionaryOf header? settings).map .ofEntries),
    ("json", lastOf json? settings),
    ("method", some (.string service.1)),
    ("readTimeOut", (lastOf readTimeout? settings).map (Json.ofNat ·.toNat)),
    ("statusCodes", (lastOf statusCodes? settings).map fun codes =>
      .array (codes.map (Json.ofNat ·.toNat))),
    ("uri", some (.string service.2))]

/-- The command of a document. -/
def cliTree (settings : List TaskSetting) (command : List String) : Json :=
  .ofRows [
    ("command", some (.ofTexts command)),
    ("executionTimeOut", (lastOf executionTimeout? settings).map (Json.ofNat ·.toNat))]

/-- The task of a document. -/
def tree (script : TaskScript) : Json :=
  .ofRows [
    ("cli", script.opening.command?.map (cliTree script.settings)),
    ("http", script.opening.service?.map (httpTree script.settings)),
    ("name", some (.string script.opening.name)),
    ("requires", (listOf requires? script.settings).map .ofTexts),
    ("retries", (lastOf retries? script.settings).map (Json.ofNat ·.toNat)),
    ("type", some (.string script.opening.type.name))]

end TaskScript

namespace WorkflowCall

/-- The document of a name and calls. Its tasks are listed even if there are none, since a document
cannot go without them. -/
def document (name : String) (calls : List WorkflowCall) : Json :=
  .ofRows [
    ("description", (lastOf description? calls).map .string),
    ("inputParameters", (listOf input? calls).map .ofTexts),
    ("name", some (.string name)),
    ("schemaVersion", (lastOf schemaVersion? calls).map (Json.ofNat ·.toNat)),
    ("tasks", some (.array ((calls.filterMap task?).map TaskScript.tree))),
    ("version", (lastOf version? calls).map (Json.ofNat ·.toNat))]

end WorkflowCall

/-! ## Carrying out scripts -/

/-- The draft after the calls. -/
def TaskScript.draft (script : TaskScript) : TaskDraft :=
  script.opening.draft.setAll script.settings

/-- Build the task of a script by itself. -/
def TaskScript.build (script : TaskScript) : Except SchemaError Task :=
  script.draft.validate

/-- The call with the draft of its task. -/
def WorkflowCall.setting : WorkflowCall → WorkflowSetting
  | .description text => .description text
  | .version number => .version number
  | .schemaVersion number => .schemaVersion number
  | .input parameter => .input parameter
  | .task script => .task script.draft

section Append

variable (pick : σ → Option β) (calls : List σ) (call : σ)

theorem filterMap_append_singleton :
    (calls ++ [call]).filterMap pick = calls.filterMap pick ++ (pick call).toList := by
  rw [List.filterMap_append]
  rfl

/-- The last call counts if it is of the kind, and else the last one before it. -/
theorem lastOf_append_singleton :
    lastOf pick (calls ++ [call]) = (pick call).or (lastOf pick calls) := by
  rw [lastOf, filterMap_append_singleton]
  cases pick call with
  | none => rw [Option.toList, List.append_nil, Option.none_or, lastOf]
  | some value => rw [Option.toList, List.getLast?_concat, Option.some_or]

theorem getD_listOf : (listOf pick calls).getD [] = calls.filterMap pick := by
  rw [listOf]
  split
  · rename_i nothing
    exact nothing.symm
  · rfl

end Append

theorem getD_dictionaryOf (pick : σ → Option (String × String)) (calls : List σ) :
    (dictionaryOf pick calls).getD [] = Dictionary.ofList (calls.filterMap pick) := by
  rw [dictionaryOf, listOf]
  split
  · rename_i nothing
    rw [nothing]
    rfl
  · rfl

/-- An entry replaces one of the same name that an earlier call gives. -/
theorem dictionaryOf_append_singleton (pick : σ → Option (String × String)) (calls : List σ)
    (call : σ) :
    dictionaryOf pick (calls ++ [call]) =
      match pick call with
      | none => dictionaryOf pick calls
      | some (name, value) => TaskDraft.withEntry (dictionaryOf pick calls) name value := by
  cases given : pick call with
  | none =>
      rw [dictionaryOf, listOf, filterMap_append_singleton, given]
      simp only [Option.toList, List.append_nil, dictionaryOf, listOf]
  | some entry =>
      have listed : listOf pick (calls ++ [call]) = some (calls.filterMap pick ++ [entry]) := by
        rw [listOf, filterMap_append_singleton, given]
        exact if_neg (List.append_ne_nil_of_right_ne_nil _ (List.cons_ne_nil _ _))
      simp only [TaskDraft.withEntry, getD_dictionaryOf]
      rw [dictionaryOf, listed, Option.map_some, Dictionary.ofList, List.foldl_append]
      rfl

namespace TaskScript

open TaskSetting

/-- The request after the calls. -/
def httpDraft (settings : List TaskSetting) (service : String × String) : HttpDraft where
  uri := service.2
  method := service.1
  headers := dictionaryOf header? settings
  body := lastOf body? settings
  form := dictionaryOf formField? settings
  json := lastOf json? settings
  contentType := lastOf contentType? settings
  statusCodes := (lastOf statusCodes? settings).getD []
  connectionTimeout := lastOf connectionTimeout? settings
  readTimeout := lastOf readTimeout? settings

/-- The command after the calls. -/
def cliDraft (settings : List TaskSetting) (command : List String) : CliDraft :=
  ⟨command, lastOf executionTimeout? settings⟩

/-- The draft of a script, part by part. -/
theorem draft_eq (script : TaskScript) :
    script.draft = {
      name := script.opening.name
      type := script.opening.type.name
      requires := script.settings.filterMap requires?
      retries := (lastOf retries? script.settings).getD 0
      http := script.opening.service?.map (httpDraft script.settings)
      cli := script.opening.command?.map (cliDraft script.settings) } := by
  obtain ⟨opening, settings⟩ := script
  -- From the last call on, since that is the one that counts and the last one carried out.
  induction settings using List.reverseRecOn with
  | nil => cases opening <;> rfl
  | append_singleton settings setting ih =>
      have step : draft ⟨opening, settings ++ [setting]⟩ =
          (draft ⟨opening, settings⟩).set setting :=
        List.foldl_append ..
      rw [step, ih]
      cases opening with
      | service name method uri =>
          cases setting <;> simp only [TaskDraft.set, TaskDraft.onHttp, TaskDraft.onCli,
            TaskOpening.service?, TaskOpening.command?, Option.map_some, Option.map_none, httpDraft,
            lastOf_append_singleton, filterMap_append_singleton, dictionaryOf_append_singleton,
            requires?, retries?, header?, body?, formField?, json?, contentType?, statusCodes?,
            connectionTimeout?, readTimeout?, Option.none_or, Option.some_or, Option.getD_some,
            Option.toList, List.append_nil]
      | program name command =>
          cases setting <;> simp only [TaskDraft.set, TaskDraft.onHttp, TaskDraft.onCli,
            TaskOpening.service?, TaskOpening.command?, Option.map_some, Option.map_none, cliDraft,
            lastOf_append_singleton, filterMap_append_singleton, requires?, retries?,
            executionTimeout?, Option.none_or, Option.some_or, Option.getD_some, Option.toList,
            List.append_nil]

end TaskScript

/-- The draft of a workflow after the calls, part by part. -/
theorem WorkflowCall.setAll_eq (name : String) (calls : List WorkflowCall) :
    (WorkflowDraft.new name).setAll (calls.map setting) = {
      name := name
      description := (lastOf description? calls).getD ""
      version := (lastOf version? calls).getD 0
      schemaVersion := (lastOf schemaVersion? calls).getD 0
      inputParameters := calls.filterMap input?
      tasks := (calls.filterMap task?).map TaskScript.draft } := by
  induction calls using List.reverseRecOn with
  | nil => rfl
  | append_singleton calls call ih =>
      have step : (WorkflowDraft.new name).setAll ((calls ++ [call]).map setting) =
          ((WorkflowDraft.new name).setAll (calls.map setting)).set call.setting := by
        rw [List.map_append]
        exact List.foldl_append ..
      rw [step, ih]
      cases call <;> simp only [WorkflowDraft.set, setting, lastOf_append_singleton,
        filterMap_append_singleton, List.map_append, description?, version?, schemaVersion?, input?,
        task?, Option.none_or, Option.some_or, Option.getD_some, Option.toList, List.map_cons,
        List.map_nil, List.append_nil]

end Runbook
