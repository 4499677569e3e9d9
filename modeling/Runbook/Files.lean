import Runbook.Dictionary
import Runbook.Text.Utf8

/-!
# Files

A tree of files, directories and symbolic links, and what is found at a path.
-/

namespace Runbook

/-- What stands at a path. -/
inductive FileEntry where
  /-- A file and its mode, which has one digit in base 8 for each kind of users. -/
  | file (content : List UInt8) (mode : Nat := 0o644)
  | directory
  /-- A device. Nothing is read from it. -/
  | device
  /-- A symbolic link to another path. -/
  | link (target : String)
deriving DecidableEq, Repr, Inhabited

/-- Whether an entry is a file that may be run as a program. -/
def FileEntry.isExecutable : FileEntry → Bool
  | .file _ mode => mode &&& 0o111 != 0
  | _ => false

/-- Why a file cannot be read. -/
inductive FileError where
  | notFound
  | notADirectory
  | isADirectory
  | tooManyLinks
  | nameTooLong
  | nulInName
deriving DecidableEq, Repr, Inhabited

namespace FileError

/-- The wording of a file error. -/
def message : FileError → String
  | .notFound => "No such file or directory (os error 2)"
  | .notADirectory => "Not a directory (os error 20)"
  | .isADirectory => "Is a directory (os error 21)"
  | .tooManyLinks => "Too many levels of symbolic links (os error 40)"
  | .nameTooLong => "File name too long (os error 36)"
  | .nulInName => "file name contained an unexpected NUL byte"

end FileError

/-- A path as the names that lead to it from the root of the tree. -/
abbrev FilePath := List String

/-- The entries of a tree by their paths. The root is a directory. -/
abbrev FileTree := List (FilePath × FileEntry)

namespace FileTree

/-- The names of a path in text form. -/
def splitPath (text : String) : List String :=
  (text.toList.splitOn '/').map String.ofList

/-- Whether a path in text form leads from the root. -/
def isAbsolute (text : String) : Bool := text.startsWith "/"

/-- The text of a path that leads from a directory, unless it leads from the root. -/
def joinPath (directory text : String) : String :=
  if isAbsolute text then text else directory ++ "/" ++ text

/-- What stands at a path, without following a link there. -/
def entry? (tree : FileTree) (path : FilePath) : Option FileEntry :=
  if path.isEmpty then some .directory else tree.lookup path

/-- A tree without the entry at a path. -/
def erase (tree : FileTree) (path : FilePath) : FileTree :=
  tree.filter fun other => other.1 ≠ path

/-- Put an entry at a path, in place of an earlier one. -/
def put (tree : FileTree) (path : FilePath) (entry : FileEntry) : FileTree :=
  tree.erase path ++ [(path, entry)]

/-- How many links are followed to find one file. -/
def mostLinks : Nat := 40

/-- The length of the longest name in bytes. -/
def longestName : Nat := 255

/-- The length of the longest path in bytes. -/
def longestPath : Nat := 4095

/-- Follow a path from a directory, through at most `links` links. The result is a file or a
directory and the place where it stands. -/
def walk (tree : FileTree) :
    (links : Nat) → (place : FilePath) → (names : List String) →
      Except FileError (FilePath × FileEntry)
  | _, place, [] =>
    match tree.entry? place with
    | some entry => .ok (place, entry)
    | none => .error .notFound
  | links, place, name :: names =>
    if tree.entry? place ≠ some .directory then .error .notADirectory
    else if name = "" ∨ name = "." then walk tree links place names
    else if name = ".." then walk tree links place.dropLast names
    else if longestName < name.utf8ByteSize then .error .nameTooLong
    else
      match tree.entry? (place ++ [name]), links with
      | none, _ => .error .notFound
      | some (.link _), 0 => .error .tooManyLinks
      | some (.link target), links + 1 =>
        walk tree links (if isAbsolute target then [] else place) (splitPath target ++ names)
      | some _, links => walk tree links (place ++ [name]) names
termination_by links _ names => (links, names.length)

/-- What is found at a path in text form, which leads from a directory or from the root. -/
def find (tree : FileTree) (directory : FilePath) (text : String) :
    Except FileError (FilePath × FileEntry) :=
  if text.toList.contains '\x00' then .error .nulInName
  else if text = "" then .error .notFound
  else if longestPath < text.utf8ByteSize then .error .nameTooLong
  else tree.walk mostLinks (if isAbsolute text then [] else directory) (splitPath text)

/-- What is found at a path. A link at its end is found itself, unless a slash stands behind it. -/
def findOwn (tree : FileTree) (directory : FilePath) (text : String) :
    Except FileError (FilePath × FileEntry) :=
  match (splitPath text).reverse with
  | [] => tree.find directory text
  | name :: front =>
    if name = "" ∨ name = "." ∨ name = ".." then tree.find directory text
    else
      match tree.find directory ("/".intercalate ((if front.isEmpty then ["."] else front.reverse)
        ++ [""])) with
      | .error cause => .error cause
      | .ok (place, _) =>
        match tree.entry? (place ++ [name]) with
        | some entry => .ok (place ++ [name], entry)
        | none => tree.find directory text

/-- What is found at a path, if anything is. -/
def find? (tree : FileTree) (directory : FilePath) (text : String) : Option FileEntry :=
  (tree.find directory text).toOption.map (·.2)

/-- What can be read at a path. -/
def read (tree : FileTree) (directory : FilePath) (text : String) :
    Except FileError (List UInt8) :=
  match tree.find directory text with
  | .ok (_, .file content _) => .ok content
  | .ok (_, .device) => .ok []
  | .ok _ => .error .isADirectory
  | .error cause => .error cause

/-- The names of the entries of a directory, if there is one at the path. -/
def list (tree : FileTree) (directory : FilePath) (text : String) : Option (List String) :=
  match tree.find directory text with
  | .ok (place, .directory) =>
    some (tree.filterMap fun (other, _) =>
      if other.dropLast = place then other.getLast? else none)
  | _ => none

/-! ## What every machine has -/

/-- The directories of every machine, each behind the one that it stands in. -/
def usualDirectories : List String :=
  ["boot", "dev", "etc", "home", "media", "mnt", "opt", "proc", "root", "run", "srv", "sys", "tmp",
    "usr", "usr/bin", "usr/lib", "usr/local", "usr/local/bin", "usr/sbin", "usr/share", "var",
    "var/tmp"]

/-- The devices of every machine. -/
def usualDevices : List String := ["null", "zero", "full", "random", "urandom", "tty"]

/-- The links of every machine. -/
def usualLinks : List (String × String) :=
  [("bin", "usr/bin"), ("lib", "usr/lib"), ("sbin", "usr/sbin")]

/-- The text files of every machine, each with a line that such a file begins with. -/
def usualFiles : List (String × String) :=
  [("etc/passwd", "root:x:0:0:root:/root:/bin/bash\n"), ("etc/group", "root:x:0:\n"),
    ("etc/hostname", "localhost\n"), ("etc/hosts", "127.0.0.1\tlocalhost\n"),
    ("etc/shadow", "root:*:0:0:99999:7:::\n")]

/-- The tree of a machine on which nothing was done. -/
def usual : FileTree :=
  usualDirectories.map (fun text => (splitPath text, .directory))
    ++ usualDevices.map (fun name => (["dev", name], .device))
    ++ usualLinks.map (fun (text, target) => (splitPath text, .link target))
    ++ usualFiles.map (fun (text, line) => (splitPath text, .file (Text.Utf8.encode line)))

end FileTree

end Runbook
