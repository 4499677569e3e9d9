import Runbook.Shell.Extended.Parameter

/-!
# Patterns of paths

A field with a pattern stands for the paths that it covers, if there are any.
-/

namespace Runbook.Shell

namespace Field

/-- The text of a field. -/
def text (field : Field) : String := String.ofList (field.map (·.2))

/-- The pattern that a field writes. -/
def pattern (field : Field) : List PatternPart := PatternPart.ofChars (field.length + 1) field

/-- Whether a field covers other texts than its own. -/
def isPattern (field : Field) : Bool :=
  field.pattern.any fun part =>
    match part with
    | .char _ => false
    | _ => true

/-- Whether a field covers other texts than its own in the extended language. -/
def isGlob (groups : Bool) (field : Field) : Bool :=
  (Extended.Glob.read groups field).any fun part =>
    match part with
    | .char _ => false
    | _ => true

end Field

/-- How fields cover names. -/
structure PathStyle where
  isPattern : Field → Bool
  covers : Field → List Char → Bool
  /-- Names with a dot at their front are covered like others. -/
  dotted : Bool
  /-- The names of a directory itself and of the one around it are covered. -/
  links : Bool
  /-- Two asterisks cover any number of directories. -/
  deep : Bool

namespace PathStyle

/-- The style of plain shells. -/
def plain : PathStyle :=
  ⟨Field.isPattern, fun field => PatternPart.covers field.pattern, false, true, false⟩

/-- The style of a session. -/
def ofSession (session : Session) : PathStyle :=
  if session.isExtended then
    let has (name : String) : Bool := session.extras.contains name
    let groups := session.hasGroups
    ⟨Field.isGlob groups,
      fun field => Extended.Glob.covers (has "nocaseglob") (Extended.Glob.read groups field),
      has "dotglob", !has "globskipdots", has "globstar"⟩
  else plain

/-- Whether a field covers a name. A name with a dot at its front is covered only by a field with
one, as a rule. -/
def coversName (style : PathStyle) (field : Field) (name : String) : Bool :=
  style.covers field name.toList
    && (!name.startsWith "." || (field.head?.map (·.2)) == some '.'
      || (style.dotted && name != "." && name != ".."))

/-- The directory in which the path behind a front begins. -/
def placeOf (front : String) : String := if front = "" then "." else front

/-- The fronts of all directories below a front, with that front itself. -/
def below (around : Program.Condition.Surroundings) (style : PathStyle) :
    (fuel : Nat) → (front : String) → List String
  | 0, front => [front]
  | fuel + 1, front =>
    let names := (around.tree.list around.directory (placeOf front)).getD []
    let inside := names.mergeSort.filter fun name =>
      (style.dotted || !name.startsWith ".")
        && (match around.tree.findOwn around.directory (front ++ name) with
          | .ok (_, .directory) => true
          | _ => false)
    front :: inside.flatMap fun name => below around style fuel (front ++ name ++ "/")

/-- The paths behind a front that fields cover, one for each name. -/
def paths (around : Program.Condition.Surroundings) (style : PathStyle) :
    (names : List Field) → (front : String) → List String
  | [], front => [front]
  | field :: rest, front =>
    let stands (path : String) : Bool := (around.tree.find? around.directory path).isSome
    let isDeep := style.deep && field == [(false, '*'), (false, '*')]
    let names (front : String) : List String :=
      if style.isPattern field then
        match around.tree.list around.directory (placeOf front) with
        | some names =>
          ((if style.links then [".", ".."] else []) ++ names).filter (style.coversName field)
        | none => []
      else [field.text]
    let found (front : String) : List String := (names front).map (front ++ ·)
    match rest, isDeep with
    | [], false => (found front).filter stands
    | [], true =>
      (below around style around.tree.length front).flatMap fun front =>
        ((found front).filter stands)
    | rest, true =>
      (below around style around.tree.length front).flatMap fun front =>
        paths around style rest front
    | rest, false =>
      ((found front).filter fun path => stands (path ++ "/")).flatMap fun path =>
        paths around style rest (path ++ "/")

end PathStyle

/-- The paths that a field covers, if it is a pattern. -/
def Session.coveredPaths? (session : Session) (field : Field) : Option (List String) :=
  let style := PathStyle.ofSession session
  if session.switches.literal || !style.isPattern field then none
  else some (style.paths session.around (field.splitOnP fun c => c.2 == '/') "")

/-- Whether a field is a pattern that covers no path, and has to cover one. -/
def Session.lacksPaths (session : Session) (field : Field) : Bool :=
  session.isExtended && session.extras.contains "failglob"
    && (session.coveredPaths? field).any List.isEmpty

/-- The texts that a field stands for. -/
def Session.pathsOf (session : Session) (field : Field) : List String :=
  match session.coveredPaths? field with
  | none => [field.text]
  | some [] =>
    if session.isExtended && session.extras.contains "nullglob" then [] else [field.text]
  | some paths => paths.mergeSort

end Runbook.Shell
