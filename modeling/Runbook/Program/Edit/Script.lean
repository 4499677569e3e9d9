import Runbook.Regex.Reader

/-!
# Scripts of edits

An edit goes through lines one by one. Each command of its script is carried out on the lines that
it selects.
-/

namespace Runbook.Program.Edit

/-- An expression, and whether edges between lines count in it. -/
structure Pattern where
  regex : Regex
  manyLines : Bool
deriving Inhabited

/-- What selects a line. -/
inductive Address where
  | line (number : Nat)
  /-- A line, and those behind it in steps. -/
  | every (first step : Nat)
  | last
  /-- Lines that a pattern matches. Without one, it is the pattern that was used last. -/
  | pattern (pattern? : Option Pattern)
deriving Inhabited

/-- Where a range of lines ends. -/
inductive Bound where
  | address (address : Address)
  /-- Some lines later. -/
  | more (count : Nat)
  /-- On the next line with a number that is a multiple. -/
  | multiple (count : Nat)
deriving Inhabited

/-- The lines that a command is carried out on. -/
structure Selection where
  first? : Option Address
  bound? : Option Bound
  negated : Bool
deriving Inhabited

/-- How the letters of a replacement are turned into small or capital ones. -/
inductive CaseMark where
  | lower
  | upper
  | lowerNext
  | upperNext
  | ending
deriving DecidableEq, Repr, Inhabited

/-- A part of a replacement. -/
inductive Part where
  | text (bytes : List Char)
  /-- What a group has matched. -/
  | group (number : Nat)
  | mark (mark : CaseMark)
deriving DecidableEq, Repr, Inhabited

/-- A replacement of what a pattern matches. -/
structure Substitution where
  pattern? : Option Pattern
  parts : List Part
  /-- The number of the first match that is replaced. -/
  nth : Nat
  /-- Whether all matches behind that are replaced, too. -/
  everywhere : Bool
  prints : Bool
  /-- Whether the result is a command to run. -/
  runs : Bool
  outlet? : Option String
deriving Inhabited

/-- When a branch is taken. -/
inductive BranchRule where
  | always
  /-- If something was replaced since the last line was read, or since the last such branch. -/
  | replaced
  | notReplaced
deriving DecidableEq, Repr, Inhabited

/-- What a command does. -/
inductive Action where
  | nothing
  /-- The commands in front of one are carried out for the selected lines only. -/
  | block (behind : Nat)
  | tellNumber
  | tellFile
  | append (text : List UInt8)
  | insert (text : List UInt8)
  | change (text : List UInt8)
  | delete
  | deleteFirst
  | get
  | getMore
  | hold
  | holdMore
  | exchange
  | list (width? : Option Nat)
  | next
  | nextMore
  | print
  | printFirst
  | quit (code : UInt8) (prints : Bool)
  | readFile (path : String)
  | readLine (path : String)
  | write (path : String)
  | writeFirst (path : String)
  | substitute (substitution : Substitution)
  | translate (pairs : List (Char × Char))
  | branch (rule : BranchRule) (label : String)
  | clear
  | run (script : String)
deriving Inhabited

/-- A command. -/
structure Command where
  selection : Selection
  action : Action
deriving Inhabited

/-- A script: its commands, and the places of its labels among them. -/
structure Script where
  commands : Array Command
  labels : List (String × Nat)
  /-- Whether lines are written only when a command says so. -/
  quiet : Bool
deriving Inhabited

/-- The files that a script writes to. -/
def Script.outlets (script : Script) : List String :=
  script.commands.toList.filterMap fun command =>
    match command.action with
    | .write path | .writeFirst path => some path
    | .substitute substitution => substitution.outlet?
    | _ => none

end Runbook.Program.Edit
