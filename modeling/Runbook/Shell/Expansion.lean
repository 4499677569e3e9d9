import Runbook.Shell.Conduct

/-!
# Expansion

How values are put into words. Scripts whose output becomes part of a word are run by whoever asks
for the expansion.
-/

namespace Runbook.Shell

/-- A way to run a script that begins on some line and to take what it writes. -/
abbrev Capture := Session → (line : Nat) → List Char → Session × List UInt8

open Extended

mutual

/-- Put in the values of a piece. -/
def expandPiece (capture : Capture) : (fuel : Nat) → Session → Piece → Session × List Fragment
  | 0, session, _ => ({ session with flow := .stuck }, [])
  | fuel + 1, session, piece =>
    match piece with
    | .text quoted chars => (session, [.whole quoted chars])
    | .bad => (session.giveUp 2 (session.caller ++ ScriptError.badSubstitution.message), [])
    | .wrong source => (session.drop (source ++ ": bad substitution"), [])
    | .variable quoted name =>
      let name := session.meant name
      if session.demands name then (session.lacking name, [])
      else (session, Fragment.ofVariable session quoted name)
    | .length name =>
      if session.demands name then (session.lacking name, [])
      else
        (session, [.whole false
          (Decimal.digitText ((session.value? name).getD "").length).toList])
    | .output quoted line script =>
      let (session, bytes) := capture session line script
      let (session, text) := session.outputText bytes
      (session, if quoted then [.whole true text] else [.loose text])
    | .process reads line script =>
      let (session, path) := if reads then
          let (done, bytes) := capture session line script
          { done with status := session.status, answer := session.answer }.openPassage bytes none
        else session.openPassage [] (some (line, script))
      (session, [.whole true path.toList])
    | .arithmetic expression =>
      let (session, fragments) := expandWord capture fuel session expression
      if !session.isOn then (session, [])
      else
        match session.evaluate (Fragment.joined fragments) with
        | (session, some n) => (session, [.whole false (Arithmetic.text n).toList])
        | (session, none) => (session, [])
    | .modified quoted name orEmpty modifier word =>
      let value := session.value? name
      let given := if orEmpty then value.filter (· != "") else value
      let instead (session : Session) : Session × List Fragment :=
        let (session, fragments) := expandWord capture fuel session (session.withHome word)
        (session, if quoted then fragments else fragments.map Fragment.loosened)
      match modifier, given with
      | .default, some _ | .assign, some _ | .required, some _ =>
        (session, Fragment.ofVariable session quoted name)
      | .default, none => instead session
      | .assign, none =>
        let (session, fragments) := instead session
        (session.assign name (Fragment.joined fragments), fragments)
      | .alternative, some _ => instead session
      | .alternative, none => (session, if quoted then [.whole true []] else [])
      | .required, none =>
        let (session, fragments) := expandWord capture fuel session word
        let detail := Fragment.joined fragments
        let usual := if orEmpty then "parameter not set or null" else "parameter not set"
        (session.giveUp 2 (session.caller ++ name ++ ": " ++ if detail = "" then usual else detail),
          [])
      | .cutFront longest, _ =>
        let (session, fragments) := expandWord capture fuel session word
        let rest := PatternPart.cutFront longest (Fragment.pattern fragments)
          (value.getD "").toList
        (session, Fragment.ofValue quoted (String.ofList rest))
      | .cutEnd longest, _ =>
        let (session, fragments) := expandWord capture fuel session word
        let rest := PatternPart.cutEnd longest (Fragment.pattern fragments) (value.getD "").toList
        (session, Fragment.ofValue quoted (String.ofList rest))
    | .parameter quoted source subject index change first second =>
      let (session, fragments) := expandWord capture fuel session index
      let spot : Spot :=
        ⟨subject.name, subject.extent, Fragment.joined fragments, Spot.labelOf subject source⟩
      if !session.isOn then (session, [])
      else
        match spot.reach session subject.indirect with
        | (session, none) => (session, [])
        | (session, some (spot, found)) =>
          if !session.isOn then (session, [])
          else
            match change with
            | .modify orEmpty (.cutFront longest) =>
              expandChange capture fuel session quoted spot found
                (.modify orEmpty (.cutFront longest)) first second
            | .modify orEmpty (.cutEnd longest) =>
              expandChange capture fuel session quoted spot found
                (.modify orEmpty (.cutEnd longest)) first second
            | .modify orEmpty modifier =>
              expandInstead capture fuel session quoted spot found orEmpty modifier first
            | .unknown =>
              (if found.isMissing false then session
              else session.halt (source ++ ": bad substitution"), [])
            | change => expandChange capture fuel session quoted spot found change first second

/-- Change what is found at a spot, as some words say. -/
def expandChange (capture : Capture) : (fuel : Nat) → Session → (quoted : Bool) → Spot → Found →
    Change → (first second : Word) → Session × List Fragment
  | 0, session, _, _, _, _, _, _ => ({ session with flow := .stuck }, [])
  | fuel + 1, session, quoted, spot, found, change, first, second =>
    let (session, first) := expandWord capture fuel session first
    let (session, second) := expandWord capture fuel session second
    if session.isOn then session.changed quoted spot found change first second else (session, [])

/-- Put something in the place of what is found at a spot, or of what is missing there. -/
def expandInstead (capture : Capture) : (fuel : Nat) → Session → (quoted : Bool) → Spot → Found →
    (orEmpty : Bool) → Modifier → Word → Session × List Fragment
  | 0, session, _, _, _, _, _, _ => ({ session with flow := .stuck }, [])
  | fuel + 1, session, quoted, spot, found, orEmpty, modifier, word =>
    let instead : Session × List Fragment :=
      expandWord capture fuel session (session.withHome word)
    let replaced : Session × List Fragment :=
      (instead.1, if quoted then instead.2 else instead.2.map Fragment.loosened)
    match modifier, found.isMissing orEmpty with
    | .default, true | .alternative, false => replaced
    | .alternative, true =>
      (session, if quoted && !found.isApart then [.whole true []] else [])
    | .assign, true =>
      let (session, fragments) := instead
      if !session.isOn then (session, [])
      else
        let filled := spot.fill session (Fragment.joined fragments)
        if !filled.isOn then (filled, [])
        else
          let (filled, found) := spot.found filled
          (filled, found.fragments filled quoted)
    | .required, true =>
      let (session, fragments) := instead
      let detail := Fragment.joined fragments
      let usual := if orEmpty then "parameter null or not set" else "parameter not set"
      let label := String.ofList (spot.label.toList.dropWhile (· == '$'))
      (if session.isOn then
        session.halt (label ++ ": " ++ if detail = "" then usual else detail)
      else session, [])
    | _, _ => (session, found.fragments session quoted)

/-- Put in the values of a word. -/
def expandWord (capture : Capture) : (fuel : Nat) → Session → Word → Session × List Fragment
  | 0, session, _ => ({ session with flow := .stuck }, [])
  | fuel + 1, session, word =>
    let (done, fragments) := word.foldl (fun (session, fragments) piece =>
      let (session, more) :=
        if session.isOn then expandPiece capture fuel session piece else (session, [])
      (session, fragments ++ more)) (session, (#[] : Array Fragment))
    (done, fragments.toList)

end

section

variable (capture : Capture) (fuel : Nat)

/-- Put in the values of words, and divide them into fields. -/
def expandFields (session : Session) (words : List Word) : Session × List String :=
  let words := if session.isExtended && session.switches.contains 'B' then spread words else words
  let (done, fields) := words.foldl (fun (session, fields) word =>
    if session.isOn then
      let (session, fragments) := expandWord capture fuel session (session.withHome word)
      let parts := Fragment.fields session.separators fragments
      match parts.find? session.lacksPaths with
      | some field => (session.drop ("no match: " ++ field.text), fields)
      | none => (session, fields ++ parts.flatMap session.pathsOf)
    else (session, fields)) (session, (#[] : Array String))
  (done, fields.toList)

/-- Put in the values of a word that stays one text. -/
def expandText (session : Session) (word : Word) : Session × String :=
  let (session, fragments) := expandWord capture fuel session word
  (session, Fragment.joined fragments)

/-! ## Assignments -/

/-- Put in the values of an element of an array. One without an index may become many. -/
def expandItem (session : Session) : Option Word × Bool × Word →
    Session × List (Option String × Bool × String)
  | (some key, appends, word) =>
    let (session, key) := expandText capture fuel session key
    let (session, text) := expandText capture fuel session (session.withHomes word)
    (session, [(some key, appends, text)])
  | (none, _, word) =>
    let (session, fields) := expandFields capture fuel session [word]
    (session, fields.map fun field => (none, false, field))

/-- Put in the values of what is given to a variable, and of its index. -/
def expandGift (session : Session) (assignment : Assignment) :
    Session × Option String × Session.Gift :=
  let (session, index?) : Session × Option String := match assignment.index? with
    | some index =>
      let (session, text) := expandText capture fuel session index
      (session, some text)
    | none => (session, none)
  match assignment.value with
  | .text word =>
    let (session, text) := expandText capture fuel session (session.withHomes word)
    (session, index?, .text text)
  | .elements items =>
    let (session, elements) := items.foldl (fun (session, elements) item =>
      let (session, more) := expandItem capture fuel session item
      (session, elements ++ more)) (session, (#[] : Array (Option String × Bool × String)))
    (session, index?, .elements elements.toList)

/-- Give values to variables. What is given only for a while to one that keeps its value is left
out. -/
def assignAll (forWhile : Bool) (session : Session) (assignments : List Assignment) : Session :=
  assignments.foldl (fun session assignment =>
    if !session.isOn then session
    else
      let name := assignment.name
      let (session, index?, gift) := expandGift capture fuel session assignment
      if !session.isOn then session
      else if session.isExtended then
        let told := session.traceText (Session.tracedGift name index? assignment.appends gift)
        if forWhile && told.fixed.contains (told.meant name) then
          told.complain (told.meant name ++ ": readonly variable")
        else told.give name index? assignment.appends gift
      else
        match gift with
        | .text text => session.assign name text
        | .elements _ => session) session

/-- Put in the values of the arguments of a command that declares variables. -/
def expandArguments (session : Session) (arguments : List Argument) : Session × List Declared :=
  arguments.foldl (fun (session, declared) argument =>
    if !session.isOn then (session, declared)
    else
      match argument with
      | .word word =>
        let (session, fields) := expandFields capture fuel session [word]
        (session, declared ++ fields.map .field)
      | .assignment assignment =>
        let (session, index?, gift) := expandGift capture fuel session assignment
        (session, declared ++ [.given assignment.name index? assignment.appends gift]))
    (session, [])

/-! ## Redirections -/

/-- The target of a redirection. In the extended language it is divided into fields, of which there
may only be one. -/
def expandTarget (session : Session) (redirect : Redirect) : Session × Except String String :=
  let isText := redirect.mode = .document ∨ redirect.mode = .line
  if session.isExtended ∧ ¬isText then
    match expandFields capture fuel session [redirect.target] with
    | (session, [text]) => (session, .ok text)
    | (session, _) =>
      (session, .error (Session.wordSource redirect.target ++ ": ambiguous redirect"))
  else
    let word := if isText then redirect.target else session.withHome redirect.target
    let (session, text) := expandText capture fuel session word
    (session, .ok text)

/-- Lead the streams where redirections say, up to the first one that fails, and whether all
do. -/
def redirectAll : Session → List Redirect → Session × Bool
  | session, [] => (session, true)
  | session, redirect :: redirects =>
    let (expanded, target) := expandTarget capture fuel session redirect
    if redirect.mode = .document ∧ expanded.flow = .ended then
      ({ expanded with flow := .on }, false)
    else if !expanded.isOn then (expanded, true)
    else
      let front := if expanded.isExtended then "" else expanded.caller
      match target.bind (expanded.redirect redirect.stream redirect.mode) with
      | .ok led => redirectAll led redirects
      | .error text => (expanded.complain (front ++ text), false)

/-! ## Conditions -/

/-- Whether a condition on words holds. It is not known if an expression in it is none. -/
def holds : (negated : Bool) → Session → Test → Session × Option Bool
  | negated, session, .unary operator operand =>
    let (session, text) := expandText capture fuel session (session.withHome operand)
    if !session.isOn then (session, none)
    else
      let told := session.traceText (Session.checkFront negated ++ operator ++ " "
        ++ Session.traced text ++ " ]]")
      let (done, holds) := Condition.unary told operator text
      (done, some holds)
  | negated, session, .binary operator left right =>
    let (session, left) := expandWord capture fuel session (session.withHome left)
    let (session, right) := expandWord capture fuel session (session.withHome right)
    if !session.isOn then (session, none)
    else
      (session.traceText (Session.checkFront negated ++ Session.tracedPair left operator right))
        |>.checkPair left operator right
  | _, session, .negation test =>
    let (session, holds?) := holds true session test
    (session, holds?.map (!·))
  | _, session, .both first second =>
    match holds false session first with
    | (session, some true) => holds false session second
    | other => other
  | _, session, .either first second =>
    match holds false session first with
    | (session, some false) => holds false session second
    | other => other

end

end Runbook.Shell
