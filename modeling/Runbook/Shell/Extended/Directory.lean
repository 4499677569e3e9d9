import Runbook.Shell.Directory
import Runbook.Shell.Extended.Quotation
import Runbook.Shell.OwnOption

/-!
# Directories of the extended language

How a shell changes its directory, and the pile of directories that it remembers.
-/

namespace Runbook.Shell

namespace Session

open Extended

/-! ## The directory -/

/-- Go to a directory, or tell why that cannot be done. -/
def enter (session : Session) (physical : Bool) (target : String) : Except FileError Session :=
  let around := session.around
  let way := walkNames (if FileTree.isAbsolute target then [] else session.way)
    (FileTree.splitPath target)
  let path := if physical then target else Program.Tool.pathText way
  if target = "" then .ok (session.goTo session.directory session.way)
  else
    match around.tree.find around.directory target, around.tree.find around.directory path with
    | .ok _, .ok (place, .directory) => .ok (session.goTo place (if physical then place else way))
    | .error cause, _ | _, .error cause => .error cause
    | _, _ => .error .notADirectory

/-- Tell why a directory cannot be entered. -/
def disputePath (session : Session) (name target : String) (cause : FileError) : Session :=
  let shown := if Quotation.hides target then Quotation.escaped target else target
  session.dispute name (shown ++ ": " ++ Program.Tool.reason cause)

/-- The directories in which a path is looked for that leads from no place of its own. -/
def searchPlaces (session : Session) (target : String) : List String :=
  let isFree := !(["/", "./", "../"].any fun front => target.startsWith front)
    && !(["", ".", ".."].contains target)
  match session.bindings.get? "CDPATH" with
  | some text => if isFree then text.splitOn ":" else []
  | none => []

/-- Go to a directory that the script names. -/
def goDirectory (session : Session) (arguments : List String) : Session :=
  session.withChoices "cd" "LPe@" "" arguments fun options =>
    let physical := (options.given.reverse.find? fun (c, _) => c == 'L' || c == 'P').map (·.1)
      == some 'P' || session.switches.contains 'P'
    let go (session : Session) (shows : Bool) (target : String) : Session :=
      match session.enter physical target with
      | .ok moved => if shows then moved.writeLine (Program.Tool.pathText moved.way) else moved
      | .error cause => session.disputePath "cd" target cause
    match options.operands with
    | _ :: _ :: _ => session.dispute "cd" "too many arguments"
    | [] =>
      match session.bindings.get? "HOME" with
      | some home => go session false home
      | none => session.dispute "cd" "HOME not set"
    | ["-"] =>
      match session.bindings.get? "OLDPWD" with
      | some old => go session true old
      | none => session.dispute "cd" "OLDPWD not set"
    | [target] =>
      let found? := (session.searchPlaces target).findSome? fun place =>
        let path := if place = "" then target else place ++ "/" ++ target
        (session.enter physical path).toOption.map fun moved => (place, moved)
      match found? with
      | some (place, moved) =>
        if place = "" then moved else moved.writeLine (Program.Tool.pathText moved.way)
      | none => go session false target

/-- Write the directory. -/
def sayDirectory (session : Session) (arguments : List String) : Session :=
  session.withChoices "pwd" "LP" "" arguments fun options =>
    let physical := (options.given.reverse.head?.map (·.1)) == some 'P'
      || (options.given.isEmpty && session.switches.contains 'P')
    let path := if physical then session.directory else session.way
    (session.writeLine (Program.Tool.pathText path)).finish 0

/-! ## The pile -/

/-- The directory of the shell and those that it remembers. -/
def wholePile (session : Session) : List String :=
  Program.Tool.pathText session.way :: session.pile

/-- A path with a tilde in the place of the home. -/
def shortPath (session : Session) (path : String) : String :=
  match session.bindings.get? "HOME" with
  | some home =>
    if home = "" ∨ home = "/" then path
    else if path = home then "~"
    else if path.startsWith (home ++ "/") then "~" ++ String.ofList (path.toList.drop home.length)
    else path
  | none => path

/-- Write the pile on one line. -/
def sayPile (session : Session) : Session :=
  (session.writeLine (" ".intercalate (session.wholePile.map session.shortPath))).finish 0

/-- The place in the pile that an argument counts to, from its front or from its end. -/
def pilePlace? (session : Session) (argument : String) : Option (Option Nat) :=
  let size := session.wholePile.length
  match argument.toList with
  | '+' :: digits =>
    (Decimal.readNatural (2 ^ 31) digits).map fun n => if n < size then some n else none
  | '-' :: digits =>
    (Decimal.readNatural (2 ^ 31) digits).map fun n =>
      if n < size then some (size - 1 - n) else none
  | _ => none

/-- Tell that nothing is remembered that far. -/
def disputePile (session : Session) (name argument : String) : Session :=
  session.dispute name (if session.pile.isEmpty then "directory stack empty"
    else argument ++ ": directory stack index out of range")

/-- Go to the first directory of a pile, and remember the others. -/
def takePile (session : Session) (name : String) (pile : List String) : Session :=
  match pile with
  | [] => session
  | first :: rest =>
    match session.enter false first with
    | .ok moved => { moved with pile := rest }.sayPile
    | .error cause => session.disputePath name first cause

/-- The options in front of an argument that counts in the pile, and the other arguments. -/
def pileOptions (letters : List Char) : List String → List Char × List String
  | [] => ([], [])
  | "--" :: rest => ([], rest)
  | argument :: rest =>
    match argument.toList with
    | '-' :: c :: more =>
      if (c :: more).all letters.contains then
        let (given, rest) := pileOptions letters rest
        (c :: more ++ given, rest)
      else ([], argument :: rest)
    | _ => ([], argument :: rest)

/-- Put a directory onto the pile, or turn the pile. -/
def pushDirectory (session : Session) (arguments : List String) : Session :=
  let (letters, operands) := pileOptions ['n'] arguments
  let stays := letters.contains 'n'
  let whole := session.wholePile
  match operands with
  | [] =>
    match whole with
    | first :: second :: rest =>
      if stays then session.finish 0 else session.takePile "pushd" (second :: first :: rest)
    | _ => if stays then session.finish 0 else session.dispute "pushd" "no other directory"
  | argument :: more =>
    match session.pilePlace? argument with
    | some none => session.disputePile "pushd" argument
    | some (some n) =>
      if session.pile.isEmpty then session.disputePile "pushd" argument
      else if stays then { session with pile := (whole.drop n ++ whole.take n).tail }.sayPile
      else session.takePile "pushd" (whole.drop n ++ whole.take n)
    | none =>
      if argument.startsWith "-" && argument != "-" then
        (session.dispute "pushd" (argument ++ ": invalid number")).misuse "pushd"
      else if !more.isEmpty then session.dispute "pushd" "too many arguments"
      else if stays then { session with pile := argument :: session.pile }.sayPile
      else
        let target := if argument = "-" then (session.bindings.get? "OLDPWD").getD "" else argument
        match session.enter false target with
        | .ok moved => { moved with pile := whole.headD "" :: session.pile }.sayPile
        | .error cause => session.disputePath "pushd" target cause

/-- Take a directory from the pile. -/
def popDirectory (session : Session) (arguments : List String) : Session :=
  let (letters, operands) := pileOptions ['n'] arguments
  let whole := session.wholePile
  let without (n : Nat) : Session :=
    if session.pile.isEmpty then session.dispute "popd" "directory stack empty"
    else if n = 0 && !letters.contains 'n' then session.takePile "popd" whole.tail
    else
      { session with pile := session.pile.eraseIdx (n - 1) }.sayPile
  match operands with
  | [] => without 0
  | argument :: _ =>
    match session.pilePlace? argument with
    | some (some n) => without n
    | some none => session.disputePile "popd" argument
    | none =>
      let kind := if argument.startsWith "-" then ": invalid number" else ": invalid argument"
      (session.dispute "popd" (argument ++ kind)).misuse "popd"

/-- Write or forget the pile. -/
def showPile (session : Session) (arguments : List String) : Session :=
  let (letters, operands) := pileOptions "clpv".toList arguments
  let name (path : String) : String := if letters.contains 'l' then path else session.shortPath path
  let rows (paths : List (String × Nat)) : Session :=
    if letters.contains 'v' then
      (paths.foldl (fun session (path, n) =>
        let number := Decimal.digitText n
        let fill := if number.length < 2 then " " else ""
        session.writeLine (fill ++ number ++ "  " ++ name path)) session).finish 0
    else if letters.contains 'p' then
      (paths.foldl (fun session (path, _) => session.writeLine (name path)) session).finish 0
    else (session.writeLine (" ".intercalate (paths.map fun (path, _) => name path))).finish 0
  if letters.contains 'c' then { session with pile := [] }.finish 0
  else
    match operands with
    | [] => rows session.wholePile.zipIdx
    | argument :: _ =>
      match session.pilePlace? argument with
      | some (some n) => rows ((session.wholePile.zipIdx.drop n).take 1)
      | some none => session.disputePile "dirs" (String.ofList (argument.toList.drop 1))
      | none =>
        let kind := if argument.startsWith "-" then ": invalid number" else ": invalid option"
        ((session.dispute "dirs" (argument ++ kind)).misuse "dirs")

end Session

end Runbook.Shell
