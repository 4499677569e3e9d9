import Runbook.Decimal.Reading
import Runbook.Output
import Runbook.Task.Validation
import Runbook.Template

/-!
# Contexts

The variables of a job: its inputs, and the outputs of the tasks that have succeeded.
-/

namespace Runbook

/-- Why a task cannot be resolved. References are given in dotted form. -/
inductive ResolutionError where
  /-- A template refers to a value that is not there. -/
  | missing (reference : String)
  /-- A value that the task requires is not there. -/
  | unmet (reference : String)
deriving DecidableEq, Repr, Inhabited

namespace ResolutionError

/-- The reference that has no value. -/
def reference : ResolutionError → String
  | .missing reference => reference
  | .unmet reference => reference

/-- The wording of a resolution error. -/
def message : ResolutionError → String
  | .missing reference => "unresolved reference $\x7b" ++ reference ++ "\x7d"
  | .unmet reference => "requirement $\x7b" ++ reference ++ "\x7d is not satisfied"

end ResolutionError

/-- The greatest position that can be written in a path. -/
def greatestIndex : Nat := 2 ^ 64 - 1

/-- The value one step further on: a member of an object, or an item of an array. -/
def Json.step (value : Json) (segment : String) : Option Json :=
  match value with
  | .object members => Dictionary.get? members segment
  | .array items => do items[← Decimal.readNatural greatestIndex segment.toList]?
  | _ => none

/-- The value at the end of a path. -/
def Json.descend (value : Json) (path : List String) : Option Json :=
  path.foldlM Json.step value

/-- How a value stands in a text: texts as they are, and all else as compact JSON. -/
def Json.rendered : Json → String
  | .string text => text
  | value => Json.text value

/-- The variables of a job. -/
structure Context where
  bindings : Dictionary Json
deriving DecidableEq, Repr, Inhabited

namespace Context

/-- No variables. -/
def empty : Context := ⟨[]⟩

/-- The name under which inputs stand in their name space. -/
def inputSpace : String := "input"

/-- Bind a name in the value at a key, which is made an object if it is not there. A value that is
no object stays as it is. -/
def bindAt (bindings : Dictionary Json) (key : String)
    (bind : Dictionary Json → Dictionary Json) : Dictionary Json :=
  match bindings.get? key with
  | none => bindings.insert key (.object (bind []))
  | some (.object members) => bindings.insert key (.object (bind members))
  | some _ => bindings

/-- Bind an input. -/
def bindInput (context : Context) (name value : String) : Context :=
  ⟨bindAt context.bindings workflowSpace fun spaces =>
    bindAt spaces inputSpace fun inputs => inputs.insert name (.string value)⟩

/-- The context that a job starts with: the inputs that are given for the declared parameters. -/
def withInputs (parameters : List String) (inputs : Dictionary String) : Context :=
  parameters.foldl (fun context name =>
    match inputs.get? name with
    | some value => context.bindInput name value
    | none => context) empty

/-- Publish the output of a task under its name. -/
def publish (context : Context) (task : String) (output : Output) : Context :=
  ⟨context.bindings.insert task output.published⟩

/-- The value of a reference. -/
def lookup (context : Context) (reference : Reference) : Option Json := do
  Json.descend (← context.bindings.get? reference.space) reference.path

/-- Whether a reference has a value. -/
def contains (context : Context) (reference : Reference) : Bool :=
  (context.lookup reference).isSome

/-- Whether a task has published an output. -/
def hasTask (context : Context) (task : String) : Bool :=
  task ≠ workflowSpace && context.bindings.contains task

/-- All variables as one value. -/
def json (context : Context) : Json := .object context.bindings

end Context

/-- The text of a segment, with the value of its reference put in. -/
def Segment.resolve (context : Context) : Segment → Except ResolutionError String
  | .literal text => .ok text
  | .reference target =>
    match context.lookup target with
    | some value => .ok (Json.rendered value)
    | none => .error (.missing target.text)

/-- The text of a template, with all values put in. -/
def Template.resolve (context : Context) (template : Template) : Except ResolutionError String := do
  return String.join (← template.segments.mapM (Segment.resolve context))

/-- A value with the texts of its templates. -/
def JsonTemplate.resolve (context : Context) (value : JsonTemplate) : Except ResolutionError Json :=
  JsonTree.traverse (Template.resolve context) value

end Runbook
