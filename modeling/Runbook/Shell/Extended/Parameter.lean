import Runbook.Shell.Extended.Transform
import Runbook.Shell.Extended.Value
import Runbook.Shell.Fragment

/-!
# Values in words of the extended language

What a piece of a word means, and what it makes of that. The words that it needs have their values
put in before.
-/

namespace Runbook.Shell

namespace Extended

/-- The variable or the element that a piece means, and how the script calls it. -/
structure Spot where
  name : String
  extent : Extent
  index : String
  label : String
deriving Repr, Inhabited

/-- What is found there: one value, which may be missing, or many values. -/
inductive Found where
  | one (value? : Option String)
  | many (joined : Bool) (values : List String)
deriving Repr, Inhabited

namespace Found

/-- Whether there is no value, or none but an empty one if that counts as missing. -/
def isMissing (orEmpty : Bool) : Found → Bool
  | .one none => true
  | .one (some value) => orEmpty && value == ""
  | .many _ values => values.isEmpty || (orEmpty && values.all (· == ""))

/-- Whether there are many values that quotes do not join. -/
def isApart : Found → Bool
  | .one _ => false
  | .many joined _ => !joined

/-- Change each value. -/
def map (change : String → String) : Found → Found
  | .one value? => .one (value?.map change)
  | .many joined values => .many joined (values.map change)

/-- The fragments of the values. -/
def fragments (session : Session) (quoted : Bool) : Found → List Fragment
  | .one value? => Fragment.ofValue quoted (value?.getD "")
  | .many joined values => Fragment.ofValues session quoted joined values

end Found

namespace Spot

/-- How a script calls a variable or an element: the text of a piece without its braces, up to the
index. -/
def labelOf (subject : Subject) (source : String) : String :=
  match subject.extent with
  | .whole => if subject.name.toList.all Char.isDigit then "$" ++ subject.name else subject.name
  | .all joined =>
    if subject.name = "@" ∨ subject.name = "*" then "$" ++ subject.name
    else subject.name ++ (if joined then "[*]" else "[@]")
  | .element =>
    let chars := (source.toList.drop 2).dropWhile fun c => c == '#' || c == '!'
    let index := (chars.dropWhile (· != '[')).drop 1
    let inside := (spanUntil '[' ']' (2 * index.length + 2) 0 index).elim index (·.1)
    subject.name ++ "[" ++ String.ofList inside ++ "]"

/-- The values at a spot. -/
def found (session : Session) (spot : Spot) : Session × Found :=
  let name := session.meant spot.name
  match spot.extent with
  | .all joined =>
    if name = "@" ∨ name = "*" then (session, .many joined session.arguments)
    else (session, .many joined (session.tableOf name).values)
  | .whole => (session, .one (session.value? name))
  | .element =>
    let wrong (session : Session) : Session × Found :=
      (session.complain (name ++ ": bad array subscript"), .one none)
    match session.tables.lookup name with
    | some (.keyed elements) =>
      if spot.index = "" then wrong session else (session, .one (elements.lookup spot.index))
    | _ =>
      match session.calculate spot.index with
      | (session, none) => (session, .one none)
      | (session, some n) =>
        let table := session.tableOf name
        match table.place? n with
        | some place => (session, .one (table.getAt? place))
        | none => wrong session

/-- The spot that a text names, with an index in brackets if it has one. -/
def ofText? (text : String) : Option Spot :=
  let (name, index?) := Calculation.splitElement text
  let isSpecial := text.toList.all Char.isDigit
    || ["@", "*", "#", "?", "-", "$", "!"].contains text
  if text = "" then none
  else if isSpecial then
    let extent : Extent := if text = "@" then .all false else if text = "*" then .all true
      else .whole
    some ⟨text, extent, "", text⟩
  else if !Session.isName name then none
  else
    match index? with
    | none => some ⟨name, .whole, "", text⟩
    | some "@" => some ⟨name, .all false, "", text⟩
    | some "*" => some ⟨name, .all true, "", text⟩
    | some index => some ⟨name, .element, Calculation.unquoted index, text⟩

/-- Follow a value that names another spot, and find what is there. -/
def follow (session : Session) (spot : Spot) : Session × Option (Spot × Found) :=
  if spot.extent = .whole ∧ session.hasTrait spot.name 'n' then
    (session, some (spot, .one (session.bindings.get? spot.name)))
  else
    let (session, found) := spot.found session
    match found with
    | .one none => (session.drop (spot.label ++ ": invalid indirect expansion"), none)
    | .one (some text) =>
      match ofText? text with
      | none => (session.drop (text ++ ": invalid variable name"), none)
      | some other =>
        let (session, found) := other.found session
        (session, some (other, found))
    | .many _ values =>
      match ofText? (values.headD "") with
      | none => (session.drop (" ".intercalate values ++ ": invalid variable name"), none)
      | some other =>
        let (session, found) := other.found session
        (session, some (other, found))

/-- The spot that is meant, and what is found there: the spot itself, or the one that its value
names. -/
def reach (session : Session) (spot : Spot) (indirect : Bool) :
    Session × Option (Spot × Found) :=
  if indirect then spot.follow session
  else
    let (session, found) := spot.found session
    (session, some (spot, found))

/-- Put a value where one is missing. -/
def fill (session : Session) (spot : Spot) (value : String) : Session :=
  match spot.extent with
  | .all _ =>
    session.drop (spot.label ++ if spot.label.startsWith "$" then ": cannot assign in this way"
      else ": bad array subscript")
  | .whole =>
    if Session.isName spot.name then session.give spot.name none false (.text value)
    else session.drop (spot.label ++ ": cannot assign in this way")
  | .element => session.give spot.name (some spot.index) false (.text value)

/-- The assignment that gives a variable the value that it has. -/
def assignmentText (session : Session) (spot : Spot) (found : Found) : String :=
  let name := session.meant spot.name
  let marks := session.marks name
  let front := if marks = "-" then "" else "declare -" ++ marks ++ " "
  match found with
  | .one none => if marks = "-" then "" else front ++ name
  | .one (some value) => front ++ name ++ "=" ++ Quotation.reusable value
  | .many _ values =>
    if name = "@" ∨ name = "*" then
      if values.isEmpty then "" else "set -- " ++ " ".intercalate (values.map Quotation.reusable)
    else
      match session.tables.lookup name with
      | some table => front ++ name ++ "=" ++ Session.tableText table
      | none =>
        front ++ name ++ "=" ++ " ".intercalate (values.map Quotation.reusable)

/-- The keys and the values of an array, each as it is written by `key` and `value`. -/
def pairs (session : Session) (name : String) (value : String → String) : List (String × String) :=
  let table := session.tableOf (session.meant name)
  (table.keys.zip table.values).map fun (k, v) =>
    (if table.isKeyed && Quotation.hasMarks k then Quotation.declared k else k, value v)

/-- A form of the values that a letter names. -/
def describe (session : Session) (spot : Spot) (found : Found) (letter : Char) : Found :=
  let recased (letters : LetterCase) (every : Bool) : Found :=
    found.map fun text => String.ofList (Transform.recase letters every [] text.toList)
  let isArray := match spot.extent with
    | .all _ => spot.name != "@" && spot.name != "*"
    | _ => false
  match letter with
  | 'U' => recased .upper true
  | 'u' => recased .upper false
  | 'L' => recased .lower true
  | 'E' => found.map fun text =>
      String.ofList (unquoteEscapes (text.length + 1) text.toList)
  | 'Q' => found.map Quotation.reusable
  | 'A' =>
    let text := spot.assignmentText session found
    match found with
    | .one _ => .one (some text)
    | .many _ _ =>
      let words := if text = "" then [] else
        let (front, behind) := text.toList.span (· != '=')
        let names := (String.ofList front).splitOn " "
        names.dropLast ++ [names.getLastD "" ++ String.ofList behind]
      if text.startsWith "set -- " then
        .many false ("set" :: "--" :: session.arguments.map Quotation.reusable)
      else .many false words
  | 'a' =>
    let marks := session.marks (session.meant spot.name)
    found.map fun _ => if marks = "-" then "" else marks
  | 'K' =>
    if isArray then
      let shown := pairs session spot.name Quotation.declared
      let table := session.tableOf (session.meant spot.name)
      let text := " ".intercalate (shown.map fun (k, v) => k ++ " " ++ v)
      .one (some (if table.isKeyed && !shown.isEmpty then text ++ " " else text))
    else found.map Quotation.reusable
  | 'k' =>
    if isArray then
      let table := session.tableOf (session.meant spot.name)
      .many false ((table.keys.zip table.values).flatMap fun (k, v) => [k, v])
    else found.map Quotation.reusable
  | _ => found

/-- The part of the values that two expressions bound. -/
def slice (session : Session) (spot : Spot) (found : Found) (bounded : Bool)
    (first second : String) : Session × Found :=
  let empty (session : Session) : Session × Found := (session, .one none)
  match session.calculateFor (spot.label ++ ": ") first with
  | (session, none) => empty session
  | (session, some offset) =>
    let (session, length?) : Session × Option Int :=
      if !bounded then (session, none) else session.calculateFor (spot.label ++ ": ") second
    if !session.isOn then empty session
    else
      let negative (session : Session) : Session × Found :=
        empty (session.drop (second ++ ": substring expression < 0"))
      match found with
      | .one value? =>
        match Transform.slice offset length? (value?.getD "").toList with
        | some chars => (session, .one (some (String.ofList chars)))
        | none => negative session
      | .many joined values =>
        if length?.any (· < 0) then negative session
        else
          let name := session.meant spot.name
          let chosen := match name, session.tables.lookup name with
            | "@", _ | "*", _ =>
              let items := if offset = 0 ∨ offset < 0 then session.name :: values else values
              let offset := if offset ≤ 0 then offset else offset - 1
              (Transform.slice offset length? items).getD []
            | _, some (.indexed elements) =>
              let table := Table.indexed elements
              let start : Int := if offset < 0 then offset + table.next else offset
              let rest := if start < 0 then []
                else elements.filter fun (n, _) => start ≤ (n : Int)
              let values := rest.map (·.2)
              length?.elim values fun length => values.take length.toNat
            | _, some (.keyed _) =>
              (Transform.slice (if offset = 0 then 0 else offset - 1) length? values).getD []
            | _, none => (Transform.slice offset length? values).getD []
          (session, .many joined chosen)

end Spot

end Extended

namespace Session

open Extended

/-- Whether patterns are compared without regard to the case of letters. -/
def isFolded (session : Session) : Bool := session.extras.contains "nocasematch"

/-- Whether patterns may hold groups of patterns. -/
def hasGroups (session : Session) : Bool := session.extras.contains "extglob"

/-- The fragments of a changed value. -/
def changed (session : Session) (quoted : Bool) (spot : Spot) (found : Found) (change : Change)
    (first second : List Fragment) : Session × List Fragment :=
  let put (found : Found) : Session × List Fragment := (session, found.fragments session quoted)
  let number (n : Nat) : Session × List Fragment :=
    (session, [.whole quoted (Decimal.digitText n).toList])
  let pattern := Glob.read session.hasGroups (Fragment.marked first)
  let onChars (edit : List Char → List Char) : Session × List Fragment :=
    put (found.map fun text => String.ofList (edit text.toList))
  let lacks := session.switches.demanding && found.isMissing false
    && (match found with | .one _ => true | .many _ _ => false)
  match change with
  | .keys joined => put (.many joined (session.tableOf (session.meant spot.name)).keys)
  | .names joined =>
    let names := session.bindings.map (·.1) ++ session.tables.map (·.1)
    put (.many joined ((names.filter (·.startsWith spot.name)).mergeSort))
  | change =>
    if lacks then (session.halt (spot.label ++ ": unbound variable"), [])
    else
      match change with
      | .size =>
        match found with
        | .one value? => number (value?.getD "").length
        | .many _ values => number values.length
      | .slice bounded =>
        let (session, found) :=
          spot.slice session found bounded (Fragment.joined first) (Fragment.joined second)
        (session, if session.isOn then found.fragments session quoted else [])
      | .replace range =>
        if first.flatMap Fragment.chars = [] ∧ (range = .first ∨ range = .every) then put found
        else
          let replacement := Transform.replacementOf (Fragment.marked second)
          onChars (Transform.replace session.isFolded range pattern replacement)
      | .recase letters every => onChars (Transform.recase letters every pattern)
      | .modify _ (.cutFront longest) => onChars (Transform.cutFront false longest pattern)
      | .modify _ (.cutEnd longest) => onChars (Transform.cutEnd false longest pattern)
      | .describe letter => put (spot.describe session found letter)
      | _ => put found

end Session

end Runbook.Shell
