import Runbook.Shell.Extended.Input
import Runbook.Shell.Extended.Value
import Runbook.Shell.OwnOption

/-!
# Declarations of the extended language

Commands that declare variables: arrays, numbers, names of other variables, variables of a function,
variables that programs see and such that keep their values.
-/

namespace Runbook.Shell

/-- An argument of a command that declares variables, with all values put in. -/
inductive Declared where
  | field (text : String)
  | given (name : String) (index? : Option String) (appends : Bool) (gift : Session.Gift)
deriving Inhabited

namespace Declared

/-- The text of an argument that is no assignment. -/
def text? : Declared → Option String
  | .field text => some text
  | .given _ _ _ _ => none

/-- The parts of an argument: a name, an index, whether something is put behind the value that is
there, and what is given. -/
def parts : Declared → String × Option String × Bool × Option Session.Gift
  | .given name index? appends gift => (name, index?, appends, some gift)
  | .field text =>
    let (front, behind) := text.toList.span (· != '=')
    let gift? := behind.tail?.map fun value => Session.Gift.text (String.ofList value)
    let appends := gift?.isSome && front.getLast? == some '+'
    let (name, index?) := Extended.Calculation.splitElement
      (String.ofList (if appends then front.dropLast else front))
    (name, index?.map Extended.Calculation.unquoted, appends, gift?)

/-- An argument as a script writes it. -/
def shown : Declared → String
  | .field text => text
  | .given name _ _ _ => name

/-- An argument as it stands in a trace. -/
def written : Declared → String
  | .given name index? appends (.text text) =>
    name ++ index?.elim "" (fun index => "[" ++ index ++ "]") ++ (if appends then "+=" else "=")
      ++ text
  | other => other.shown

/-- Read the options in front of the arguments: those that turn something on, those that turn
something off, and the arguments. -/
def options : List Declared → List Char × List Char × List Declared
  | .field "--" :: rest => ([], [], rest)
  | .field text :: rest =>
    match text.toList with
    | '-' :: c :: letters =>
      let (on, off, rest) := options rest
      (c :: letters ++ on, off, rest)
    | '+' :: c :: letters =>
      let (on, off, rest) := options rest
      (on, c :: letters ++ off, rest)
    | _ => ([], [], .field text :: rest)
  | rest => ([], [], rest)

end Declared

namespace Session

open Extended

/-! ## What is known of variables -/

/-- The names of all variables. -/
def knownNames (session : Session) : List String :=
  (session.bindings.map (·.1) ++ session.tables.map (·.1) ++ session.exported ++ session.fixed
    ++ session.traits.map (·.1)).eraseDups.mergeSort

/-- Write the declarations of variables. -/
def sayDeclarations (session : Session) (names : List String) : Session :=
  (names.foldl (fun session name =>
    session.writeLine (session.declarationOf name)) session).finish 0

/-- Forget all about a variable. -/
def forgetAll (session : Session) (name : String) : Session :=
  let session := if name = "OPTIND" then session.resetWalk name "1" else session
  { session with
    bindings := session.bindings.filter (·.1 != name)
    tables := session.tables.filter (·.1 != name)
    traits := session.traits.filter (·.1 != name)
    exported := session.exported.filter (· != name)
    fixed := session.fixed.filter (· != name) }

/-- Make a variable one of the function that runs. It has no value at first. -/
def makeLocal (session : Session) (name : String) : Session :=
  match session.locals? with
  | none => session
  | some locals =>
    if locals.any (·.name == name) then session
    else
      let isExported := session.exported.contains name
      let cleared := session.forgetAll name
      { cleared with
        locals? := some (session.kept name :: locals)
        exported := if isExported then name :: cleared.exported else cleared.exported
        traits := (name, '?') :: cleared.traits }

/-- Turn letters that belong to a variable on or off. -/
def setTraits (session : Session) (name : String) (on off : List Char) : Session :=
  let own := on.filter "iulcnt".toList.contains
  let gone := off ++ own ++ (if own.any "ulc".toList.contains then "ulc".toList else [])
  let left := session.traits.filter fun (other, letter) =>
    !(other == name && gone.contains letter)
  { session with traits := own.eraseDups.map (name, ·) ++ left }

/-- Turn a variable into an array. -/
def shapeTable (session : Session) (name : String) (isKeyed : Bool) : Session :=
  if (session.tables.lookup name).isSome then session
  else
    let value? := session.bindings.get? name
    let table : Table := if isKeyed then .keyed (value?.map ("0", ·)).toList
      else .indexed (value?.map (0, ·)).toList
    let made := session.putTable name table
    if value?.isSome then made else { made with traits := (name, '?') :: made.traits }

/-- Let a variable stand for another one. -/
def refer (session : Session) (command name target : String) : Session :=
  if (target? target).isNone && target != "" then
    session.dispute command
      ("\x60" ++ target ++ "': invalid variable name for name reference")
  else if target = name then
    session.dispute command (name ++ ": nameref variable self references not allowed")
  else
    { session with
      bindings := session.bindings.insert name target
      traits := (name, 'n') :: session.traits.filter fun trait => trait.1 != name }

/-- How a command declares variables. -/
structure DeclarationStyle where
  command : String
  on : List Char
  off : List Char
  /-- The variables belong to the function that runs. -/
  isLocal : Bool

/-- Declare a variable. The status tells of the last thing that went wrong. -/
def declareOne (style : DeclarationStyle) (session : Session) (argument : Declared) : Session :=
  let (name, index?, appends, gift?) := argument.parts
  let command := style.command
  let wrong (text : String) : Session := session.dispute command text
  let changes := gift?.isSome || style.isLocal || style.off.contains 'r'
  if !isName name then session.disputeName command argument.shown
  else if session.fixed.contains name && changes then
    wrong (name ++ ": readonly variable")
  else
    let session := if style.isLocal then session.makeLocal name else session
    let table? := session.tables.lookup name
    let wants (letter : Char) : Bool := style.on.contains letter
    if wants 'a' && table?.any Table.isKeyed then
      wrong (name ++ ": cannot convert associative to indexed array")
    else if wants 'A' && table?.any (!·.isKeyed) then
      wrong (name ++ ": cannot convert indexed to associative array")
    else if table?.isSome && (style.off.contains 'a' || style.off.contains 'A') then
      wrong (name ++ ": cannot destroy array variables in this way")
    else if wants 'n' then
      match gift? with
      | some (.text target) => session.refer command name target
      | _ => { session with traits := (name, 'n') :: session.traits.filter (·.1 != name) }
    else
      let shaped := if wants 'A' then session.shapeTable name true
        else if wants 'a' || index?.isSome then session.shapeTable name false else session
      let shaped := shaped.setTraits name style.on style.off
      let given := match gift? with
        | some gift =>
          let done := { shaped with status := 0 }.give name index? appends gift
          { done with status := if done.isOn then session.status else done.status }
        | none =>
          if shaped.isKnown name then shaped
          else { shaped with traits := (name, '?') :: shaped.traits }
      let meant := given.meant name
      let given := if gift?.isSome then
        { given with traits := given.traits.filter (· != (meant, '?')) } else given
      let given := if wants 'x' then { given with exported := meant :: given.exported }
        else if style.off.contains 'x' then
          { given with exported := given.exported.filter (· != meant) }
        else given
      if wants 'r' then { given with fixed := name :: given.fixed } else given

/-- The names of variables that have all of some letters. -/
def namesWith (session : Session) (letters : List Char) : List String :=
  let own := letters.filter "aAinrxlut".toList.contains
  session.knownNames.filter fun name =>
    own.all fun letter => (session.marks name).toList.contains letter

/-- Declare functions, or write their names. -/
def declareFunctions (session : Session) (short : Bool) (arguments : List Declared) : Session :=
  let names := (session.functions.map (·.1)).eraseDups.mergeSort
  match arguments with
  | [] =>
    (names.foldl (fun session name =>
      if short then session.writeLine ("declare -f " ++ name) else session) session).finish 0
  | arguments =>
    arguments.foldl (fun session argument =>
      let name := argument.shown
      if names.contains name then if short then session.writeLine name else session
      else session.finish 1) (session.finish 0)

/-- Declare variables, or write what was declared. -/
def declareAll (session : Session) (command : String) (arguments : List Declared) : Session :=
  let (on, off, arguments) := Declared.options arguments
  let known := "aAfFgiIlnprtuxc".toList
  match (on ++ off).find? (!known.contains ·) with
  | some letter => session.disputeOption command (.unknown letter)
  | none =>
    if command = "local" && session.locals?.isNone then
      session.dispute "local" "can only be used in a function"
    else if on.contains 'F' || on.contains 'f' then
      session.declareFunctions (on.contains 'F') arguments
    else if arguments.isEmpty then
      if command = "local" then
        session.sayDeclarations (((session.locals?.getD []).map (·.name)).eraseDups.mergeSort)
      else session.sayDeclarations (session.namesWith on)
    else if on.contains 'p' then
      arguments.foldl (fun session argument =>
        let name := argument.shown
        if session.isKnown name then session.writeLine (session.declarationOf name)
        else session.dispute command (name ++ ": not found")) (session.finish 0)
    else
      let style : DeclarationStyle :=
        ⟨command, on, off, session.locals?.isSome && !on.contains 'g'⟩
      session.finish 0 |>.eachOf arguments (declareOne style)

/-- Mark variables, and give them values that stand with them. -/
def markAll (session : Session) (command : String) (arguments : List Declared)
    (mark : Session → String → Session) : Session :=
  (session.finish 0).eachOf arguments fun session argument =>
    let (name, index?, appends, gift?) := argument.parts
    if !isName name then session.disputeName command argument.shown
    else
      let name := session.meant name
      match gift? with
      | none => mark session name
      | some gift =>
        let done := { session with status := 0 }.give name index? appends gift
        if done.flow = .dropped then { done with flow := .on, status := 1 }
        else mark { done with status := if done.isOn then session.status else done.status } name

/-- Let programs see variables, or let them see them no more. -/
def exportWords (session : Session) (arguments : List Declared) : Session :=
  let (on, off, operands) := Declared.options arguments
  match (on ++ off).find? (!"fnp".toList.contains ·) with
  | some letter => session.disputeOption "export" (.unknown letter)
  | none =>
    if on.contains 'f' then
      operands.foldl (fun session argument =>
        if (session.functions.lookup argument.shown).isSome then session
        else session.dispute "export" (argument.shown ++ ": not a function")) (session.finish 0)
    else if operands.isEmpty then
      session.sayDeclarations (session.exported.eraseDups.mergeSort)
    else
      session.markAll "export" operands fun session name =>
        if on.contains 'n' then
          { session with exported := session.exported.filter (· != name) }
        else { session with exported := name :: session.exported }

/-- Let variables keep their values. -/
def fixWords (session : Session) (arguments : List Declared) : Session :=
  let (on, off, operands) := Declared.options arguments
  match (on ++ off).find? (!"aAfp".toList.contains ·) with
  | some letter => session.disputeOption "readonly" (.unknown letter)
  | none =>
    if on.contains 'f' then
      operands.foldl (fun session argument =>
        if (session.functions.lookup argument.shown).isSome then session
        else session.dispute "readonly" (argument.shown ++ ": not a function")) (session.finish 0)
    else if operands.isEmpty then
      session.sayDeclarations (session.fixed.eraseDups.mergeSort)
    else
      let shape (session : Session) (name : String) : Session :=
        if on.contains 'A' then session.shapeTable name true
        else if on.contains 'a' then session.shapeTable name false else session
      let shaped := operands.foldl (fun session argument =>
        let (name, _) := argument.parts
        if isName name && !session.fixed.contains name then shape session name else session) session
      shaped.markAll "readonly" operands fun session name =>
        { session with fixed := name :: session.fixed }

/-! ## Forgetting -/

/-- Forget an element of an array. -/
def unsetElement (session : Session) (name index : String) : Session :=
  match session.tables.lookup name with
  | some (.keyed elements) =>
    session.putTable name (.keyed (elements.filter (·.1 != index)))
  | some (.indexed elements) =>
    if index = "@" ∨ index = "*" then session.putTable name (.indexed [])
    else
      match session.calculate index with
      | (session, none) => session
      | (session, some n) =>
        match (Table.indexed elements).place? n with
        | some place => session.putTable name (.indexed (elements.filter (·.1 != place)))
        | none => session.dispute "unset" ("[" ++ index ++ "]: bad array subscript")
  | none =>
    if (session.bindings.get? name).isNone then session
    else
      match session.calculate index with
      | (session, some 0) => session.forgetAll name
      | (session, some _) => session.dispute "unset" (name ++ ": not an array variable")
      | (session, none) => session

/-- Forget a function. -/
def unsetFunction (session : Session) (name : String) : Session :=
  { session with functions := session.functions.filter (·.1 != name) }

/-- Forget variables or functions. -/
def unsetWords (session : Session) (arguments : List String) : Session :=
  session.withChoices "unset" "fvn" "" arguments fun options =>
    if options.has 'f' && options.has 'v' then
      session.dispute "unset" "cannot simultaneously unset a function and a variable"
    else
      (session.finish 0).eachOf options.operands fun session text =>
        if options.has 'f' then session.unsetFunction text
        else
          match target? text with
          | none =>
            if options.has 'v' then session.disputeName "unset" text
            else session.unsetFunction text
          | some (name, index?) =>
            let name := if options.has 'n' then name else session.meant name
            if session.fixed.contains name then
              session.dispute "unset" (name ++ ": cannot unset: readonly variable")
            else
              match index? with
              | some index => session.unsetElement name index
              | none =>
                if session.isKnown name || options.has 'v' then session.forgetAll name
                else session.unsetFunction name

end Session

end Runbook.Shell
