import Runbook.Document
import Runbook.Files

/-!
# Registries

The workflows of a directory by their names. Files are read in order of their names, and a later
file replaces an earlier one that holds a workflow of the same name.
-/

namespace Runbook

/-- Why a file yields no workflow. -/
inductive LoadError where
  | unreadable (cause : FileError)
  | unparsable (cause : ParseError)
deriving DecidableEq, Repr, Inhabited

/-- The wording of a load error, for the file at a path. -/
def LoadError.message (path : String) : LoadError → String
  | .unreadable _ => "Failed to read workflow file: " ++ path
  | .unparsable _ => "Failed to parse workflow file: " ++ path

/-- The workflow in a file, given what reading it yields. -/
def loadWorkflow (content : Except FileError (List UInt8)) : Except LoadError Workflow :=
  match content with
  | .error cause => .error (.unreadable cause)
  | .ok bytes => (Document.parse bytes).mapError .unparsable

/-- Workflows by name. -/
abbrev Registry := Dictionary Workflow

namespace Registry

/-- Add a workflow under its own name. -/
def add (registry : Registry) (workflow : Workflow) : Registry :=
  Dictionary.insert workflow.name workflow registry

/-- A regular file: its name in the directory, and its content. -/
abbrev NamedFile := String × List UInt8

/-- Files in order of their names. -/
def sortFiles (files : List NamedFile) : List NamedFile :=
  files.mergeSort (fun left right => left.1 ≤ right.1)

/-- The workflows that files hold, in order of the files' names. Files that hold none are
skipped. -/
def workflowsOf (files : List NamedFile) : List Workflow :=
  (sortFiles files).filterMap fun (_, content) => (loadWorkflow (.ok content)).toOption

/-- The registry of the workflows in some files. -/
def ofFiles (files : List NamedFile) : Registry :=
  (workflowsOf files).foldl add []

/-- The regular files in a directory, links to such files included. A directory that cannot be read
has none. -/
def filesIn (tree : FileTree) (directory : FilePath) (path : String) : List NamedFile :=
  ((tree.list directory path).getD []).filterMap fun name =>
    match tree.find? directory (path ++ "/" ++ name) with
    | some (.file content _) => some (name, content)
    | _ => none

/-- The registry of the workflows in the directory at a path. -/
def ofDirectory (tree : FileTree) (directory : FilePath) (path : String) : Registry :=
  ofFiles (filesIn tree directory path)

end Registry

end Runbook
