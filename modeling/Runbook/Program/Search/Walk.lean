import Runbook.Program.Deputy
import Runbook.Program.FileChange
import Runbook.Program.Search.Reader

/-!
# Searches

The program that goes through directories and asks an expression about all entries there.
-/

namespace Runbook.Program

namespace Search

/-- An entry that a search comes to. -/
structure Entry where
  path : String
  /-- The path where the search has begun. -/
  start : String
  place : FilePath
  found : FileEntry
  depth : Nat
deriving Inhabited

namespace Entry

/-- The letter of a kind of entries. -/
def kindLetter : FileEntry → Char
  | .file _ _ => 'f'
  | .directory => 'd'
  | .device => 'c'
  | .link _ => 'l'

/-- The size of an entry in bytes. -/
def size (entry : Entry) : Nat :=
  match entry.found with
  | .file content _ => content.length
  | .directory => 4096
  | .device => 0
  | .link target => target.utf8ByteSize

/-- The target of a link. -/
def target (entry : Entry) : String :=
  match entry.found with
  | .link target => target
  | _ => ""

/-- What stands in front of the last slash of the path. -/
def front (entry : Entry) : String :=
  if entry.path.contains '/' then
    String.ofList ((entry.path.toList.reverse.dropWhile (· != '/')).drop 1).reverse
  else "."

/-- What stands behind the last slash of the path, unless it stands at its end. -/
def name (entry : Entry) : String :=
  if entry.path.endsWith "/" then entry.path
  else String.ofList (entry.path.toList.reverse.takeWhile (· != '/')).reverse

/-- The path from where the search has begun. -/
def inner (entry : Entry) : String :=
  let rest := entry.path.toList.drop entry.start.length
  String.ofList (if rest.head? = some '/' then rest.tail else rest)

/-- What a letter says about an entry. -/
def field (around : Condition.Surroundings) (entry : Entry) (letter : Char) : String :=
  let kind := String.ofList [kindLetter entry.found]
  match letter with
  | 'd' => Decimal.digitText entry.depth
  | 'f' => entry.name
  | 'g' | 'u' => "root"
  | 'G' | 'U' => "0"
  | 'h' => entry.front
  | 'H' => entry.start
  | 'k' => Decimal.digitText ((entry.size + 4095) / 4096 * 4)
  | 'l' => entry.target
  | 'm' => if kind = "d" then "755" else if kind = "l" then "777" else "644"
  | 'n' =>
    let names := (around.tree.list [] (Tool.pathText entry.place)).getD []
    let inner := names.filter fun name =>
      around.tree.entry? (entry.place ++ [name]) == some .directory
    if kind = "d" then Decimal.digitText (inner.length + 2) else "1"
  | 'p' => entry.path
  | 'P' => entry.inner
  | 's' => Decimal.digitText entry.size
  | 'y' => kind
  | 'Y' =>
    match around.tree.find [] (Tool.pathText entry.place) with
    | .ok (_, found) => String.ofList [kindLetter found]
    | .error .tooManyLinks => "L"
    | .error _ => "N"
  | _ => ""

/-- What a form says about an entry. -/
def render (around : Condition.Surroundings) (entry : Entry) : List FormPart → List UInt8
  | [] | .stop :: _ => []
  | .text bytes :: rest => bytes ++ render around entry rest
  | .field letter fillsBehind width :: rest =>
    let text := entry.field around letter
    let filled := if fillsBehind then
        text ++ String.ofList (List.replicate (width - text.length) ' ')
      else Tool.fillFront ' ' width text
    Text.Octets.toBytes filled ++ render around entry rest

end Entry

/-- How far a search has come. -/
structure Course (σ : Type) where
  /-- The name by which the program was called. -/
  name : String
  state : σ
  /-- What was written, the last first. -/
  written : Writings
  milliseconds : Option Nat
  failed : Bool
  isOver : Bool
  /-- The directory is not gone into. -/
  pruned : Bool
  /-- The paths that are kept for programs, the last first. -/
  waiting : List (Nat × String)

namespace Course

variable {σ : Type}

/-- Nothing was done yet. -/
def start (name : String) (state : σ) : Course σ :=
  ⟨name, state, [], some 0, false, false, false, []⟩

/-- Complain, with the name of the program in front. -/
def warn (text : String) (course : Course σ) : Course σ :=
  { course with written := Tool.told (course.name ++ ": " ++ text) :: course.written }

/-- Complain about something that went wrong. -/
def complain (text : String) (course : Course σ) : Course σ :=
  { course.warn text with failed := true }

/-- Write some bytes. -/
def put (bytes : List UInt8) (course : Course σ) : Course σ :=
  { course with written := Tool.shown bytes :: course.written }

/-- Run a program. The result tells whether it has succeeded. -/
def run (host : Host σ) (input : Input) (words : List String) (course : Course σ) :
    Bool × Course σ :=
  let program := words.headD ""
  match host.start course.state input program words.tail with
  | (.error cause, state) =>
    let reason := match cause with
      | .unreachable cause => Tool.reason cause
      | .notAllowed => "Permission denied"
      | .nulByte => "Invalid argument"
      | .tooLong => "Argument list too long"
    (false, { course with state := state }.warn (Mention.marked program ++ ": " ++ reason))
  | (.ok run, state) =>
    (run.status.isSuccess, { course with
      state := state
      written := run.written.reverse ++ course.written
      milliseconds := do return (← course.milliseconds) + (← run.milliseconds)
      isOver := course.isOver || run.milliseconds.isNone })

/-- Remove an entry. The result tells whether it could be removed. -/
def delete (host : Host σ) (entry : Entry) (course : Course σ) : Bool × Course σ :=
  if entry.path = "." then (true, course)
  else if entry.found = .directory && !(host.names course.state entry.place).isEmpty then
    (false, course.complain ("cannot delete " ++ Mention.marked entry.path
      ++ ": Directory not empty"))
  else (true, { course with state := host.remove course.state entry.place })

end Course

section Asking

variable {σ : Type} (host : Host σ) (input : Input)

/-- Ask a primary about an entry. -/
def Primary.ask (entry : Entry) (primary : Primary) (course : Course σ) : Bool × Course σ :=
  let around := host.around course.state
  match primary with
  | .constant value => (value, course)
  | .name pattern => (pattern.covers (Tool.lastName entry.path), course)
  | .path pattern => (pattern.covers entry.path, course)
  | .regex whole => (whole.occursIn entry.path.toList, course)
  | .kind letters => (letters.contains (Entry.kindLetter entry.found), course)
  | .empty =>
    let isEmpty := match entry.found with
      | .file content _ => content.isEmpty
      | .directory => (host.names course.state entry.place).isEmpty
      | _ => false
    (isEmpty, course)
  | .size amount unit => (amount.holds ((entry.size + unit - 1) / unit), course)
  | .newer other => (around.isNewer false (Tool.pathText entry.place) other, course)
  | .same other =>
    let place := ((host.findOwn course.state other).toOption).map (·.1)
    (place == some entry.place, course)
  | .linkTarget pattern =>
    (entry.target != "" && pattern.covers entry.target, course)
  | .executable => (around.mayEnter (Tool.pathText entry.place), course)
  | .print ending => (true, course.put (Text.Octets.toBytes entry.path ++ [ending]))
  | .format parts => (true, course.put (entry.render around parts))
  | .prune => (true, { course with pruned := true })
  | .quit => (true, { course with isOver := true })
  | .delete => course.delete host entry
  | .run words => course.run host input (words.map (·.replace pathMark entry.path))
  | .gather program => (true, { course with waiting := (program, entry.path) :: course.waiting })

/-- Ask an expression about an entry. What comes behind an operator is asked only if it matters. -/
def Expression.ask (entry : Entry) : Expression → Course σ → Bool × Course σ
  | .primary question, course =>
    if course.isOver then (false, course) else question.ask host input entry course
  | .not inner, course =>
    let (value, course) := inner.ask entry course
    (!value, course)
  | .both operator first second, course =>
    let (value, course) := first.ask entry course
    match operator, value with
    | .and, false => (false, course)
    | .or, true => (true, course)
    | _, _ => second.ask entry course

/-- Go to an entry, and into it if it is a directory. -/
def visit (plan : Plan) : (fuel : Nat) → Entry → Course σ → Course σ
  | 0, _, course => course
  | fuel + 1, entry, course =>
    let ask (course : Course σ) : Course σ :=
      if course.isOver || entry.depth < plan.limits.least then course
      else (plan.expression.ask host input entry course).2
    let goIn (course : Course σ) : Course σ :=
      if course.isOver || entry.found != .directory
        || plan.limits.greatest?.any (· ≤ entry.depth) then course
      else
        (host.names course.state entry.place).foldl (fun course name =>
          let path := FileChange.below entry.path name
          let place := entry.place ++ [name]
          let found := if plan.limits.followsLinks then
              match host.find course.state (Tool.pathText place) with
              | .ok (place, found) => some (place, found)
              | .error _ => (host.around course.state).tree.entry? place |>.map (place, ·)
            else (host.around course.state).tree.entry? place |>.map (place, ·)
          match found with
          | none => course
          | some (place, found) =>
            visit plan fuel ⟨path, entry.start, place, found, entry.depth + 1⟩ course) course
    if plan.limits.innerFirst then ask (goIn course)
    else
      let course := ask { course with pruned := false }
      if course.pruned then { course with pruned := false } else goIn course

/-- Run the programs that get many paths. -/
def finish (plan : Plan) (course : Course σ) : Course σ :=
  plan.programs.zipIdx.foldl (fun course (words, program) =>
    let paths := (course.waiting.filter (·.1 == program)).reverse.map (·.2)
    if paths.isEmpty then course
    else
      let (succeeded, course) := course.run host input (words ++ paths)
      { course with failed := course.failed || !succeeded }) course

/-- Begin a search at each of some paths. -/
def Plan.carryOut (plan : Plan) (name : String) (paths : List String) (state : σ) : Run × σ :=
  let course := plan.warnings.foldl (fun course text => course.warn text)
    (Course.start name state)
  let course := paths.foldl (fun course path =>
    if course.isOver then course
    else
      let found := if plan.limits.followsLinks then host.find course.state path
        else host.findOwn course.state path
      match found with
      | .ok (place, found) => visit host input plan 64 ⟨path, path, place, found, 0⟩ course
      | .error cause => course.complain (Mention.marked path ++ ": " ++ Tool.reason cause)) course
  let course := finish host input plan course
  (⟨.exited (if course.failed then 1 else 0), course.written.reverse, course.milliseconds⟩,
    course.state)

end Asking

end Search

/-- Search for files. -/
def find : Errand where
  run host name arguments input state :=
    let isThere (path : String) : Except FileError Unit := (host.find state path).map fun _ => ()
    match Search.readPlan isThere arguments with
    | .error complaint => (Tool.fail 1 [] [name ++ ": " ++ complaint], state)
    | .ok (paths, plan) => plan.carryOut host input name paths state

end Runbook.Program
