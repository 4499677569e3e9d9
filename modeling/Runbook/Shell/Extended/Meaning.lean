import Runbook.Shell.Extended.Quotation
import Runbook.Shell.Extended.Reader
import Runbook.Shell.LineInput
import Runbook.Shell.Meaning
import Runbook.Shell.OwnOption

/-!
# What names mean in the extended language
-/

namespace Runbook.Shell

namespace Session

open Extended

/-- The commands of the shell itself. -/
def extendedNames : List String :=
  [".", ":", "[", "alias", "bg", "bind", "break", "builtin", "caller", "cd", "command", "compgen",
    "complete", "compopt", "continue", "declare", "dirs", "disown", "echo", "enable", "eval",
    "exec", "exit", "export", "false", "fc", "fg", "getopts", "hash", "help", "history", "jobs",
    "kill", "let", "local", "logout", "mapfile", "popd", "printf", "pushd", "pwd", "read",
    "readarray", "readonly", "return", "set", "shift", "shopt", "source", "suspend", "test",
    "times", "trap", "true", "type", "typeset", "ulimit", "umask", "unalias", "unset", "wait"]

/-- A thing that a name stands for as a command. -/
inductive Sense where
  | keyword
  | function
  | own
  | file (path : String)
deriving DecidableEq, Repr, Inhabited

/-- The programs of some name. -/
def programPaths (session : Session) (name : String) : List String :=
  if !Program.Tool.isRunnable session.around name then []
  else if name.contains '/' then [name]
  else ["/usr/bin/" ++ name, "/bin/" ++ name]

/-- All that a name stands for, what is taken first in front. -/
def senses (session : Session) (functions : Bool) (name : String) : List Sense :=
  (if specialWords.contains name then [.keyword] else [])
    ++ (if functions && (session.functions.lookup name).isSome then [.function] else [])
    ++ (if extendedNames.contains name then [.own] else [])
    ++ (session.programPaths name).map .file

/-- The sentence that tells what a name stands for. -/
def senseText (name : String) : Sense → String
  | .keyword => name ++ " is a shell keyword"
  | .function => name ++ " is a function"
  | .own => name ++ " is a shell builtin"
  | .file path => name ++ " is " ++ path

/-- The word for a kind of meaning. -/
def senseKind : Sense → String
  | .keyword => "keyword"
  | .function => "function"
  | .own => "builtin"
  | .file _ => "file"

/-- Tell what names stand for. -/
def typeWords (session : Session) (arguments : List String) : Session :=
  session.withChoices "type" "afptP" "" arguments fun options =>
    (options.operands).foldl (fun session name =>
      let all := session.senses (!options.has 'f') name
      let all := if options.has 'P' then (session.programPaths name).map .file else all
      let chosen := if options.has 'a' then all else all.take 1
      if chosen.isEmpty then
        if options.has 't' || options.has 'p' || options.has 'P' then session.finish 1
        else session.dispute "type" (name ++ ": not found")
      else
        chosen.foldl (fun session sense =>
          if options.has 't' then session.writeLine (senseKind sense)
          else if options.has 'p' || options.has 'P' then
            match sense with
            | .file path => session.writeLine path
            | _ => session
          else session.writeLine (senseText name sense)) session) (session.finish 0)

/-- Tell what names stand for as commands, in a sentence or as short as can be. -/
def commandWords (session : Session) (short : Bool) (names : List String) : Session :=
  let (session, found) := names.foldl (fun (session, found) name =>
    match session.senses true name with
    | [] =>
      (if short then session else session.dispute "command" (name ++ ": not found"), found)
    | sense :: _ =>
      let text := if !short then senseText name sense else match sense with
        | .file path => path
        | _ => name
      (session.writeLine text, true)) (session.finish 0, false)
  session.finish (if found || names.isEmpty then 0 else 1)

/-- Look for programs by their names. -/
def hashWords (session : Session) (arguments : List String) : Session :=
  session.withChoices "hash" "lrdt" "p" arguments fun options =>
    if options.operands.isEmpty then
      if options.has 'r' then session.finish 0
      else (session.writeLine "hash: hash table empty").finish 0
    else
      options.operands.foldl (fun session name =>
        match session.programPaths name with
        | path :: _ => if options.has 't' then session.writeLine path else session
        | [] =>
          if extendedNames.contains name || options.has 'p' then session
          else session.dispute "hash" (name ++ ": not found")) (session.finish 0)

/-- The line that says what a name stands for. -/
def aliasLine (entry : String × String) : String :=
  "alias " ++ entry.1 ++ "=" ++ Quotation.single entry.2

/-- Let names stand for other texts, or write what they stand for. -/
def aliasWords (session : Session) (arguments : List String) : Session :=
  session.withChoices "alias" "p" "" arguments fun options =>
    let all (session : Session) : Session :=
      (session.aliases.mergeSort fun a b => a.1 ≤ b.1).foldl (fun session entry =>
        session.writeLine (aliasLine entry)) session
    let session := if options.has 'p' || options.operands.isEmpty then all session else session
    options.operands.foldl (fun session argument =>
      match argument.toList.span (· != '=') with
      | (name, _ :: value) =>
        let entry := (String.ofList name, String.ofList value)
        { session with
          aliases := entry :: session.aliases.filter fun other => other.1 != entry.1 }
      | (_, []) =>
        match session.aliases.lookup argument with
        | some value => session.writeLine (aliasLine (argument, value))
        | none => session.dispute "alias" (argument ++ ": not found")) (session.finish 0)

/-- Let names stand for themselves again. -/
def unaliasWords (session : Session) (arguments : List String) : Session :=
  session.withChoices "unalias" "a" "" arguments fun options =>
    if options.has 'a' then { session with aliases := [] }.finish 0
    else if options.operands.isEmpty then session.misuse "unalias"
    else
      options.operands.foldl (fun session name =>
        if session.aliases.any (·.1 == name) then
          { session with aliases := session.aliases.filter (·.1 != name) }
        else session.dispute "unalias" (name ++ ": not found")) (session.finish 0)

/-- Write the commands of the shell itself. None of them is given up. -/
def enableWords (session : Session) (arguments : List String) : Session :=
  session.withChoices "enable" "adnps" "f" arguments fun options =>
    if options.operands.isEmpty then
      if options.has 'n' then session.finish 0
      else (extendedNames.foldl (fun session name =>
        session.writeLine ("enable " ++ name)) session).finish 0
    else
      options.operands.foldl (fun session name =>
        if extendedNames.contains name then session
        else session.dispute "enable" (name ++ ": not a shell builtin")) (session.finish 0)

/-- Tell which line called the function that runs, or one that called that one. -/
def callerWords (session : Session) (arguments : List String) : Session :=
  let told (frame : Frame) (later : List Frame) : String × String × String :=
    (Decimal.digitText frame.line, (later.head?.map (·.name)).getD "main",
      (later.head?.map (·.origin)).getD "NULL")
  match arguments with
  | [] =>
    match session.frames with
    | frame :: later =>
      if frame.name = "main" then session.finish 1
      else
        let (line, _, origin) := told frame later
        (session.writeLine (line ++ " " ++ origin)).finish 0
    | [] => session.finish 1
  | text :: _ =>
    match wholeNumber? text with
    | none => ((session.dispute "caller" (text ++ ": invalid number")).misuse "caller")
    | some n =>
      match session.frames.drop n.toNat with
      | frame :: next :: later =>
        let (line, name, origin) := told frame (next :: later)
        (session.writeLine (line ++ " " ++ name ++ " " ++ origin)).finish 0
      | _ => session.finish 1

end Session

end Runbook.Shell
