import Runbook.Shell.OwnOption
import Runbook.Shell.Reader

/-!
# What names mean

A name may be a word of the language, stand for another text, or name a function, a command of the
shell itself, or a program.
-/

namespace Runbook.Shell

namespace Session

/-! ## Names for other texts -/

/-- The number of shelves on which the names for other texts are kept. -/
def shelves : Nat := 39

/-- The shelf of a name. -/
def shelf (name : String) : Nat :=
  let codes := name.toList.map Char.toNat
  (codes.headD 0 * 16 + codes.sum) % shelves

/-- Entries in the order of the shelves of their names. -/
def onShelves {α : Type} (entries : List (String × α)) : List (String × α) :=
  (List.range shelves).flatMap fun n => entries.filter (shelf ·.1 == n)

/-- The line that says what a name stands for. -/
def aliasText (entry : String × String) : String := entry.1 ++ "=" ++ quotedText entry.2

/-- Let names stand for other texts, or write what they stand for. -/
def aliasAll (session : Session) (arguments : List String) : Session :=
  if arguments.isEmpty then
    ((onShelves session.aliases).foldl (fun session entry =>
      session.writeLine (aliasText entry)) session).finish 0
  else
    arguments.foldl (fun session argument =>
      let (name, rest) := (argument.toList.take 1, argument.toList.drop 1)
      match rest.span (· != '=') with
      | (others, _ :: value) =>
        let entry := (String.ofList (name ++ others), String.ofList value)
        if session.aliases.any (·.1 == entry.1) then
          { session with
            aliases := session.aliases.map fun other => if other.1 = entry.1 then entry else other }
        else { session with aliases := session.aliases ++ [entry] }
      | _ =>
        match session.aliases.lookup argument with
        | some value => session.writeLine (aliasText (argument, value))
        | none => (session.writeComplaintLine ("alias: " ++ argument ++ " not found")).finish 1)
      (session.finish 0)

/-- Let names stand for themselves again. -/
def unaliasAll (session : Session) (arguments : List String) : Session :=
  session.withOptions "unalias" "a" "" arguments fun options =>
    if options.has 'a' then { session with aliases := [] }.finish 0
    else
      options.operands.foldl (fun session name =>
        if session.aliases.any (·.1 == name) then
          { session with aliases := session.aliases.filter (·.1 != name) }
        else (session.writeComplaintLine ("unalias: " ++ name ++ " not found")).finish 1)
        (session.finish 0)

/-! ## Meanings -/

/-- The commands of the shell itself that no program has to carry out. -/
def ownNames : List String :=
  [":", ".", "[", "alias", "bg", "break", "cd", "chdir", "command", "continue", "echo", "eval",
    "exec", "exit", "export", "false", "fg", "getopts", "hash", "jobs", "kill", "local", "printf",
    "pwd", "read", "readonly", "return", "set", "shift", "test", "times", "trap", "true", "type",
    "ulimit", "umask", "unalias", "unset", "wait"]

/-- What a name stands for as a command. -/
inductive Meaning where
  | special
  | text (value : String)
  | function
  | own
  | program (path : String)
deriving DecidableEq, Repr, Inhabited

/-- What a name stands for as a command, if it does for anything. -/
def meaning? (session : Session) (name : String) : Option Meaning :=
  if Command.specialWords.contains name then some .special
  else
    match session.aliases.lookup name with
    | some value => some (.text value)
    | none =>
      if (session.functions.lookup name).isSome then some .function
      else if ownNames.contains name then some .own
      else
        if Program.Tool.isRunnable session.around name then some (.program (Program.Tool.pathOf name))
        else none

/-- Write what names stand for, in a sentence or as short as can be. -/
def describeNames (session : Session) (short : Bool) (names : List String) : Session :=
  names.foldl (fun session name =>
    let line (brief long : String) : Session := session.writeLine (if short then brief else long)
    match session.meaning? name with
    | some .special => line name (name ++ " is a shell keyword")
    | some (.text value) =>
      line ("alias " ++ aliasText (name, value)) (name ++ " is an alias for " ++ value)
    | some .function => line name (name ++ " is a shell function")
    | some .own =>
      line name (name ++ " is a " ++ (if specialNames.contains name then "special " else "")
        ++ "shell builtin")
    | some (.program path) => line path (name ++ " is " ++ path)
    | none =>
      (if short then session else session.writeLine (name ++ ": not found")).finish 127)
    (session.finish 0)

/-- Look for programs by their names. -/
def hash (session : Session) (arguments : List String) : Session :=
  session.withOptions "hash" "r" "" arguments fun options =>
    options.operands.foldl (fun session name =>
      if (session.meaning? name).isSome then session
      else (session.complain ("hash: " ++ name ++ ": not found")).finish 1) (session.finish 0)

end Session

end Runbook.Shell
