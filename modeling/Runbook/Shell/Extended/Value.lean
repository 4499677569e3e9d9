import Runbook.Shell.Extended.Calculation
import Runbook.Shell.Extended.Quotation

/-!
# Values of the extended language

How variables and elements of arrays are given values, and how values are found.
-/

namespace Runbook.Shell

namespace Session

open Extended

/-- The variable that a name means: one that refers to another means that one. -/
def meant (session : Session) (name : String) : String :=
  if session.traits.isEmpty then name
  else
    let step (name : String) : String :=
      if session.hasTrait name 'n' then (session.bindings.get? name).getD name else name
    step (step (step name))

/-- The elements of a variable: one without elements of its own has its value as the first one. -/
def tableOf (session : Session) (name : String) : Table :=
  match session.tables.lookup name with
  | some table => table
  | none =>
    match name with
    | "FUNCNAME" => .ofValues session.functionNames
    | "PIPESTATUS" => .ofValues (session.pipeline.map Decimal.digitText)
    | "BASH_VERSINFO" => .ofValues ["5", "2", "15", "1", "release", "x86_64-pc-linux-gnu"]
    | "DIRSTACK" => .ofValues (Program.Tool.pathText session.way :: session.pile)
    | "BASH_SOURCE" => .ofValues (session.frames.map (·.origin))
    | "BASH_LINENO" => .ofValues (session.frames.map fun frame => Decimal.digitText frame.line)
    | "GROUPS" => .ofValues ["0"]
    | _ => .ofValues (session.value? name).toList

/-- End the shell with a complaint about a value. A shell that was given its script as a text has a
status of its own for that. -/
def halt (session : Session) (text : String) : Session :=
  let isPlain := session.isText && session.subshells == 0 && !session.switches.strict
  { session.complain text with status := if isPlain then 127 else 1, flow := .ended }

/-- The number that the expression in a text stands for. A fault is told, with a text in front of
it, and the rest of the line is left out. -/
def calculateFor (session : Session) (front text : String) : Session × Option Int :=
  match Calculation.run session text with
  | (.ok value, session) => (session, some value)
  | (.error (.unbound name), session) => (session.halt (name ++ ": unbound variable"), none)
  | (.error fault, session) =>
    (match fault.message? with
      | some text => session.drop (front ++ text)
      | none => { session with status := 1, flow := .dropped }, none)

/-- The number that the expression in a text stands for. -/
def calculate (session : Session) (text : String) : Session × Option Int :=
  session.calculateFor "" text

/-- The text that a variable takes if it is given a text, which may be put behind the one that is
there. One that holds numbers takes the value of an expression. -/
def taken (session : Session) (name : String) (old? : Option String) (appends : Bool)
    (value : String) : Session × Option String :=
  if session.hasTrait name 'i' then
    match session.calculate value with
    | (session, none) => (session, none)
    | (session, some n) =>
      if !appends then (session, some (Arithmetic.text n))
      else
        match session.calculate (old?.getD "") with
        | (session, none) => (session, none)
        | (session, some old) => (session, some (Arithmetic.text (Calculation.word (old + n))))
  else (session, some (if appends then old?.getD "" ++ value else value))

/-- What is given to a variable, with all values put in. -/
inductive Gift where
  | text (text : String)
  /-- Elements with their indices, if those are told. -/
  | elements (items : List (Option String × Bool × String))
deriving Inhabited

/-- The place of an element, or a complaint that leaves out the rest of the line. -/
def placeIn (session : Session) (name index : String) : Session × Option (Nat ⊕ String) :=
  match session.tables.lookup name with
  | some (.keyed _) =>
    if index = "" then (session.drop (name ++ "[]: bad array subscript"), none)
    else (session, some (.inr index))
  | table? =>
    match session.calculate index with
    | (session, none) => (session, none)
    | (session, some n) =>
      match (table?.getD (session.tableOf name)).place? n with
      | some place => (session, some (.inl place))
      | none => (session.drop (name ++ "[" ++ index ++ "]: bad array subscript"), none)

/-- The value of an element. -/
def elementAt? (session : Session) (name : String) : Nat ⊕ String → Option String
  | .inl n => (session.tableOf name).getAt? n
  | .inr key => (session.tableOf name).getUnder? key

/-- Give a text to an element. -/
def giveElement (session : Session) (name index : String) (appends : Bool) (value : String) :
    Session :=
  match session.placeIn name index with
  | (session, none) => session
  | (session, some place) =>
    match session.taken name (session.elementAt? name place) appends value with
    | (session, some value) => session.storeAt name place value
    | (session, none) => session

/-- Give elements to an array of which the indices are texts. Without indices, every other one of
them is an index. -/
def giveKeyed (name : String) : Session → List (Option String × Bool × String) → Session
  | session, [] => session
  | session, (some key, appends, value) :: rest =>
    giveKeyed name (session.giveElement name key appends value) rest
  | session, (none, _, key) :: (none, _, value) :: rest =>
    giveKeyed name (session.giveElement name key false value) rest
  | session, [(none, _, key)] => session.giveElement name key false ""
  | session, (none, _, _) :: rest => giveKeyed name session rest

/-- Give elements to an array, from a number on. -/
def giveIndexed (name : String) : Session → (next : Nat) →
    List (Option String × Bool × String) → Session
  | session, _, [] => session
  | session, _, (some index, appends, value) :: rest =>
    match session.placeIn name index with
    | (session, some (.inl n)) =>
      giveIndexed name (session.giveElement name (Decimal.digitText n) appends value) (n + 1) rest
    | (session, _) => session
  | session, next, (none, _, value) :: rest =>
    giveIndexed name (session.giveElement name (Decimal.digitText next) false value) (next + 1)
      rest

/-- Give elements to an array. Without indices, and for a variable that takes them as they are, they
are put behind what there is. -/
def giveAll (session : Session) (name : String) (table : Table)
    (items : List (Option String × Bool × String)) : Session :=
  let begun := session.putTable name table
  match table with
  | .indexed elements =>
    if items.all (·.1.isNone) && session.traits.all (·.1 != name) then
      let added := items.zipIdx.map fun ((_, _, value), n) => (table.next + n, value)
      begun.putTable name (.indexed (elements ++ added))
    else giveIndexed name begun table.next items
  | .keyed _ => giveIndexed name begun table.next items

/-- Give something to a variable, or to an element of it. -/
def give (session : Session) (name : String) (index? : Option String) (appends : Bool)
    (gift : Gift) : Session :=
  let name := session.meant name
  if session.fixed.contains name then session.drop (name ++ ": readonly variable")
  else
    match index?, gift with
    | some index, .text value => session.giveElement name index appends value
    | some index, .elements _ =>
      session.drop (name ++ "[" ++ index ++ "]: cannot assign list to array member")
    | none, .text value =>
      let old? := match session.tables.lookup name with
        | some table => if table.isKeyed then table.getUnder? "0" else table.getAt? 0
        | none => session.bindings.get? name
      match session.taken name old? appends value with
      | (session, some value) => session.store name value
      | (session, none) => session
    | none, .elements items =>
      match session.tables.lookup name with
      | some (.keyed elements) =>
        let begun := session.putTable name (.keyed (if appends then elements else []))
        if items.all (·.1.isNone) then giveKeyed name begun items
        else
          items.foldl (fun session (key?, appends, value) =>
            match key? with
            | some key => if session.isOn then session.giveElement name key appends value
              else session
            | none =>
              session.complain (name ++ ": '" ++ value
                ++ "': must use subscript when assigning associative array")) begun
      | _ =>
        let table := if appends then session.tableOf name else .indexed []
        session.giveAll name table items

/-- Give a text to a variable or to an element for a command, which fails if that cannot be done. -/
def offer (session : Session) (name : String) (index? : Option String) (value : String) :
    Session :=
  let done := { session with status := 0 }.give name index? false (.text value)
  if done.flow = .dropped then { done with flow := .on, status := 1 } else done

/-! ## Declared variables -/

/-- The letters of what is declared about a variable. -/
def marks (session : Session) (name : String) : String :=
  let has (letter : Char) : Bool := session.hasTrait name letter
  let letters : List (Char × Bool) :=
    [('a', (session.tables.lookup name).any (!·.isKeyed)),
      ('A', (session.tables.lookup name).any (·.isKeyed)), ('i', has 'i'), ('n', has 'n'),
      ('r', session.fixed.contains name), ('t', has 't'), ('x', session.exported.contains name),
      ('l', has 'l'), ('u', has 'u')]
  let text := String.ofList ((letters.filter (·.2)).map (·.1))
  if text = "" then "-" else text

/-- The elements of an array as a declaration writes them. -/
def tableText (table : Table) : String :=
  match table with
  | .indexed elements =>
    "(" ++ " ".intercalate (elements.map fun (n, value) =>
      "[" ++ toString n ++ "]=" ++ Quotation.declared value) ++ ")"
  | .keyed elements =>
    "(" ++ String.join (elements.map fun (key, value) =>
      let shown := if Quotation.hasMarks key then Quotation.declared key else key
      "[" ++ shown ++ "]=" ++ Quotation.declared value ++ " ") ++ ")"

/-- Whether something is known about a name. -/
def isKnown (session : Session) (name : String) : Bool :=
  (session.bindings.get? name).isSome || (session.tables.lookup name).isSome
    || session.exported.contains name || session.fixed.contains name
    || session.traits.any (·.1 == name)

/-- The declaration of a variable, with a mark of its kind even if it has none. -/
def declarationOf (session : Session) (name : String) : String :=
  let front := "declare -" ++ session.marks name ++ " " ++ name
  match session.tables.lookup name with
  | some table =>
    if session.hasTrait name '?' then front else front ++ "=" ++ tableText table
  | none =>
    match session.bindings.get? name with
    | some value => front ++ "=" ++ Quotation.declared value
    | none => front

end Session

end Runbook.Shell
