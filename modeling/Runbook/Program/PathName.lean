import Runbook.Program.Lines

/-!
# Names of paths

Programs that take paths apart, and those that follow the links on them.
-/

namespace Runbook.Program.Tool

/-- A text without slashes at its end, but for one that stands alone. -/
def withoutSlashes (chars : List Char) : List Char :=
  match (chars.reverse.dropWhile (· == '/')).reverse with
  | [] => chars.take 1
  | rest => rest

/-- The last name of a path. -/
def lastName (path : String) : String :=
  let chars := withoutSlashes path.toList
  if chars = ['/'] then "/" else String.ofList (chars.reverse.takeWhile (· != '/')).reverse

/-- A name without a text at its end, unless it is the whole name. -/
def withoutEnd (ending name : String) : String :=
  if name.endsWith ending && name != ending && name != "/" then
    String.ofList (name.toList.take (name.length - ending.length))
  else name

/-- Texts, each with the byte behind it that ends records. -/
def records (options : Options) (texts : List String) : Run :=
  succeed (joinRecords (recordMark options) (texts.map Text.Octets.toBytes))

/-- Write the last names of paths. -/
def basename : Tool := fun arguments supply =>
  let rules : OptionRules := ⟨1, "a|multiple s|suffix: z|zero", Options.isOperand⟩
  withOptionsBy rules supply.name arguments fun options =>
    let all := options.has "a" || options.has "s"
    let ending := (options.value? "s").getD ""
    match all, options.operands with
    | _, [] => refuse supply.name "missing operand"
    | true, paths => records options (paths.map fun path => withoutEnd ending (lastName path))
    | false, [path] => records options [lastName path]
    | false, [path, ending] => records options [withoutEnd ending (lastName path)]
    | false, _ :: _ :: extra :: _ => refuse supply.name (extraOperand extra)

/-- What stands in front of the last name of a path. -/
def directoryName (path : String) : String :=
  let chars := withoutSlashes path.toList
  let front := (chars.reverse.dropWhile (· != '/')).reverse
  if front.isEmpty then "." else String.ofList (withoutSlashes front)

/-- Write what stands in front of the last names of paths. -/
def dirname : Tool := fun arguments supply =>
  let rules : OptionRules := ⟨1, "z|zero", Options.isOperand⟩
  withOptionsBy rules supply.name arguments fun options =>
    if options.operands.isEmpty then refuse supply.name "missing operand"
    else records options (options.operands.map directoryName)

/-- The text of a path from the root of the tree. -/
def pathText (path : FilePath) : String := "/" ++ "/".intercalate path

/-- Where links lead from a path. The file itself may be missing, but not its directory. -/
def resolveFront (around : Condition.Surroundings) (path : String) :
    Except FileError FilePath := do
  match around.tree.find around.directory path with
  | .ok (place, _) => return place
  | .error .notFound =>
    if path = "" then throw .notFound
    let name := lastName path
    match ← around.tree.find around.directory (directoryName path) with
    | (place, .directory) =>
      match around.tree.entry? (place ++ [name]) with
      | some (.link target) =>
        let front ← around.tree.find place (directoryName target)
        return front.1 ++ [lastName target]
      | _ => return place ++ [name]
    | _ => throw .notADirectory
  | .error cause => throw cause

/-- Names in turn, none of which has to be found. -/
def resolveNames (around : Condition.Surroundings) (place : FilePath) : List String → FilePath
  | [] => place
  | name :: names =>
    if name = "" ∨ name = "." then resolveNames around place names
    else if name = ".." then resolveNames around place.dropLast names
    else
      match around.tree.find place name with
      | .ok (place, _) => resolveNames around place names
      | .error _ => resolveNames around (place ++ [name]) names

/-- Where links lead from a path, of which nothing has to be found. -/
def resolveLoose (around : Condition.Surroundings) (path : String) : FilePath :=
  resolveNames around (if FileTree.isAbsolute path then [] else around.directory)
    (FileTree.splitPath path)

/-- A path with the links on it followed, under options that say what has to exist. -/
def resolve (options : Options) (around : Condition.Surroundings) (path : String) :
    Except FileError FilePath :=
  if options.has "e" then (around.tree.find around.directory path).map (·.1)
  else if options.has "m" then
    if path = "" then .error .notFound else .ok (resolveLoose around path)
  else resolveFront around path

/-- The names of a path without those that only go back. -/
def plainNames : (before : List String) → List String → FilePath
  | before, [] => before.reverse
  | before, name :: names =>
    if name = "" ∨ name = "." then plainNames before names
    else if name = ".." then plainNames before.tail names
    else plainNames (name :: before) names

/-- The path from one place to another. -/
def pathBetween : FilePath → FilePath → String
  | a :: base, b :: place =>
    if a = b then pathBetween base place
    else "/".intercalate ((a :: base).map (fun _ => "..") ++ (b :: place))
  | base, place =>
    match base.map (fun _ => "..") ++ place with
    | [] => "."
    | names => "/".intercalate names

/-- Write what was found for paths, and complain about those for which nothing was found, if
complaints are wanted. -/
def tellAnswers {α : Type} (name : String) (complains : Bool)
    (answers : List (String × Except FileError α)) (write : α → List UInt8) : Run :=
  let written := answers.flatMap fun (path, answer) =>
    match answer with
    | .ok found => [shown (write found)]
    | .error cause =>
      if complains then [told (name ++ ": " ++ Mention.shellWord path ++ ": " ++ reason cause)]
      else []
  { succeed [] with
    status := .exited (if answers.all (·.2.isOk) then 0 else 1)
    written := written }

/-- Write paths with their links followed. -/
def realpath : Tool := fun arguments supply =>
  let table := "e|canonicalize-existing m|canonicalize-missing L|logical P|physical q|quiet "
    ++ "s|strip s|no-symlinks z|zero relative-to: relative-base:"
  withOptions supply.name table arguments fun options =>
    let around := supply.around
    let found (path : String) : Except FileError FilePath :=
      if options.has "s" then
        .ok (plainNames [] ((if FileTree.isAbsolute path then [] else around.directory)
          ++ FileTree.splitPath path))
      else resolve options around path
    let textOf (place : FilePath) : String :=
      match options.value? "relative-to" with
      | some base => pathBetween ((found base).toOption.getD []) place
      | none => pathText place
    let answers := options.operands.map fun path => (path, found path)
    if answers.isEmpty then refuse supply.name "missing operand"
    else
      tellAnswers supply.name (!options.has "q") answers fun place =>
        joinRecords (recordMark options) [Text.Octets.toBytes (textOf place)]

/-- Where the link at a path leads, without following it any further. -/
def linkTarget? (around : Condition.Surroundings) (path : String) : Except FileError String :=
  let name := lastName path
  match around.tree.find around.directory (directoryName path) with
  | .error cause => .error cause
  | .ok (place, _) =>
    match around.tree.entry? (place ++ [name]) with
    | some (.link target) => if path.endsWith "/" then .error .nulInName else .ok target
    | some _ => .error .nulInName
    | none => if (around.tree.find around.directory path).isOk then .error .nulInName
      else .error .notFound

/-- Write where links lead. -/
def readlink : Tool := fun arguments supply =>
  let table := "f|canonicalize e|canonicalize-existing m|canonicalize-missing n|no-newline "
    ++ "q|quiet s|silent v|verbose z|zero"
  withOptions supply.name table arguments fun options =>
    let around := supply.around
    let found (path : String) : Except FileError String :=
      if options.has "f" || options.has "e" || options.has "m" then
        (resolve options around path).map pathText
      else linkTarget? around path
    let answers := options.operands.map fun path => (path, found path)
    let bare := options.has "n" && answers.length == 1
    if answers.isEmpty then refuse supply.name "missing operand"
    else
      tellAnswers supply.name (options.has "v") answers fun text =>
        if bare then Text.Octets.toBytes text
        else joinRecords (recordMark options) [Text.Octets.toBytes text]

end Runbook.Program.Tool
