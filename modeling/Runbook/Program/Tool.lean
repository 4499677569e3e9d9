import Runbook.Program.Basic
import Runbook.Program.Condition
import Runbook.Text.Utf8

/-!
# Tools and hosts

Small programs that depend on nothing but their arguments and what they read, and what a program may
do with the machine that it runs on. A program does not know the state of its machine; it only hands
it on.
-/

/-! ## Mentioned texts

How a message mentions a text: between apostrophes, or in a form that a shell reads as that text.
Bytes that would not show are escaped in both. -/

namespace Runbook.Program.Mention

/-- The letters of the escapes of bytes. -/
def letters : List (UInt8 × Char) :=
  [(7, 'a'), (8, 'b'), (9, 't'), (10, 'n'), (11, 'v'), (12, 'f'), (13, 'r')]

/-- The escape of a byte that would not show, by its letter or its three digits in base 8. -/
def escape? (byte : UInt8) : Option (List Char) :=
  match letters.lookup byte with
  | some letter => some ['\\', letter]
  | none =>
    if 32 ≤ byte && byte < 127 then none
    else some ('\\' :: [64, 8, 1].map fun weight => Char.ofNat (48 + byte.toNat / weight % 8))

/-- A text between apostrophes, with backslashes in front of apostrophes and backslashes. -/
def marked (text : String) : String :=
  let chars := (Text.Octets.toBytes text).flatMap fun byte =>
    let c := Char.ofNat byte.toNat
    (escape? byte).getD (if c = '\'' ∨ c = '\\' then ['\\', c] else [c])
  String.ofList ('\'' :: (chars ++ ['\'']))

/-- The form in which a shell reads a text between apostrophes. Escapes stand in parts of their
own, which begin with a dollar sign. -/
def shellChars : (escaping : Bool) → List UInt8 → List Char
  | _, [] => ['\'']
  | escaping, byte :: rest =>
    match escape? byte with
    | some escape => (if escaping then [] else "'$'".toList) ++ escape ++ shellChars true rest
    | none =>
      let c := Char.ofNat byte.toNat
      if c = '\'' then "'\\''".toList ++ shellChars false rest
      else (if escaping then "''".toList else []) ++ c :: shellChars false rest

/-- Whether a character means nothing to a shell, wherever it stands. -/
def isPlain (c : Char) : Bool := c.isAlphanum || "%+,-./]_@".toList.contains c

/-- Whether a shell reads a text as it stands. A colon would look like the end of the text. -/
def isWord (text : String) : Bool :=
  match text.toList with
  | [] | ['\x7b'] | ['\x7d'] => false
  | first :: rest =>
    (isPlain first || first == '\x7b' || first == '\x7d')
      && rest.all fun c => isPlain c || "\x7b\x7d#~".toList.contains c

/-- A text in quotes as a shell reads it. Quotation marks stand around a text with apostrophes, if
nothing else in it needs quotes but blanks. -/
def shellQuoted (text : String) : String :=
  let chars := text.toList
  let mild (c : Char) : Bool := isPlain c || c == ' ' || c == '\'' || c == ':'
  if chars.contains '\'' && chars.all mild then "\"" ++ text ++ "\""
  else String.ofList ('\'' :: shellChars false (Text.Octets.toBytes text))

/-- A text as a shell reads it, in quotes if it needs them. -/
def shellWord (text : String) : String := if isWord text then text else shellQuoted text

end Runbook.Program.Mention

/-! ## Tools -/

namespace Runbook.Program

/-- What a program reads if it names no file. -/
structure Input where
  bytes : List UInt8
  /-- The bytes are only the front of what would come. -/
  endless : Bool
  /-- It comes from a file, so that its length can be known. -/
  ofFile : Bool
deriving DecidableEq, Repr, Inhabited

/-- Input of which nothing is left. -/
def Input.none : Input := ⟨[], false, false⟩

/-- Input of some bytes that another program has written. -/
def Input.ofBytes (bytes : List UInt8) : Input := ⟨bytes, false, false⟩

/-- What a program can read: the name by which it was called, its input, files, and variables. -/
structure Supply where
  name : String
  input : Input
  around : Condition.Surroundings
  environment : List (String × String)
deriving Inhabited

/-- What a program does, given its arguments and what it can read. -/
abbrev Tool := (arguments : List String) → (supply : Supply) → Run

namespace Tool

/-- Output of a program. -/
def shown (bytes : List UInt8) : Channel × List UInt8 := (.output, bytes)

/-- A line in which a program complains. -/
def told (text : String) : Channel × List UInt8 :=
  (.complaints, Text.Octets.toBytes text ++ [10])

/-- A program that succeeds at once. -/
def succeed (output : List UInt8) : Run := ⟨.exited 0, [shown output], some 0⟩

/-- A program that writes a line of text. -/
def line (text : String) : Run := succeed (Text.Octets.toBytes text ++ [10])

/-- A program that complains. -/
def fail (code : UInt8) (output : List UInt8) (complaints : List String) : Run :=
  ⟨.exited code, shown output :: complaints.map told, some 0⟩

/-- A program that succeeds if there are no complaints. -/
def conclude (code : UInt8) (output : List UInt8) (complaints : List String) : Run :=
  if complaints.isEmpty then succeed output else fail code output complaints

/-- A program that succeeds if it does not complain. -/
def concludeWith (code : UInt8) (written : Writings) : Run :=
  ⟨.exited (if (written.on .complaints).isEmpty then 0 else code), written, some 0⟩

/-- The line that points to the help of a program. -/
def helpHint (name : String) : String := "Try '" ++ name ++ " --help' for more information."

/-- A program that refuses its arguments and points to its help. -/
def refuse (name complaint : String) : Run := fail 1 [] [name ++ ": " ++ complaint, helpHint name]

/-- The wording of a file error of a program, without the number of the error. -/
def reason : FileError → String
  | .notFound => "No such file or directory"
  | .notADirectory => "Not a directory"
  | .isADirectory => "Is a directory"
  | .tooManyLinks => "Too many levels of symbolic links"
  | .nameTooLong => "File name too long"
  | .nulInName => "Invalid argument"

/-- The content of a file, or of the input for a dash. -/
def supplied (supply : Supply) (path : String) : Except FileError (List UInt8) :=
  if path = "-" ∨ path = "/dev/stdin" then .ok supply.input.bytes
  else supply.around.tree.read supply.around.directory path

/-- The paths that a program reads: the input if there are none. -/
def sources (paths : List String) : List String := if paths.isEmpty then ["-"] else paths

/-- The contents of some files, or of the input if there are none, each with its name. -/
def suppliedAll (supply : Supply) (paths : List String) :
    List (String × Except FileError (List UInt8)) :=
  (sources paths).map fun path => (path, supplied supply path)

/-- Files as a program reads them: their contents, or complaints about those that cannot be
read. -/
abbrev Pieces := List (Except String (List UInt8))

/-- Read some files, or the input if there are none. When the input is read again, nothing is left
of it. -/
def readPieces (complain : (path reason : String) → String) (supply : Supply)
    (paths : List String) : Pieces :=
  let rec read (supply : Supply) : List String → Pieces
    | [] => []
    | path :: rest =>
      let rest := read (if path = "-" then { supply with input.bytes := [] } else supply) rest
      ((supplied supply path).mapError fun cause => complain path (reason cause)) :: rest
  read supply (sources paths)

/-- The complaints about files that cannot be read. -/
def Pieces.complaints (pieces : Pieces) : List String :=
  pieces.filterMap fun
    | .ok _ => none
    | .error complaint => some complaint

/-- The contents of files one behind the other. -/
def Pieces.content (pieces : Pieces) : List UInt8 :=
  pieces.flatMap fun piece => piece.toOption.getD []

/-- What a program writes that works on each file alone. -/
def Pieces.writeEach (work : List UInt8 → List UInt8) (pieces : Pieces) : Writings :=
  pieces.map fun
    | .ok content => shown (work content)
    | .error complaint => told complaint

/-- What a program writes that works on files as if they were one. Before it complains, it writes
what it makes of the files so far. -/
def Pieces.writeJoined (work : List UInt8 → List UInt8) :
    (before : List UInt8) → (done : Nat) → (pieces : Pieces) → Writings
  | before, done, [] => [shown ((work before).drop done)]
  | before, done, .ok content :: rest => writeJoined work (before ++ content) done rest
  | before, done, .error complaint :: rest =>
    let output := work before
    shown (output.drop done) :: told complaint :: writeJoined work before output.length rest

end Tool

/-! ## Hosts -/

/-- A machine that a program runs on, with states of some type. -/
structure Host (σ : Type) where
  around : σ → Condition.Surroundings
  environment : σ → List (String × String)
  /-- The bits that the modes of new files do not get. -/
  mask : σ → Nat
  /-- Put an entry at a place. -/
  put : σ → FilePath → FileEntry → σ
  /-- Take away what stands at a place, and what stands below it. -/
  remove : σ → FilePath → σ
  /-- Run another program, with some input. -/
  start : σ → Input → (program : String) → (arguments : List String) → Except StartError Run × σ

/-- What a program does with its machine. -/
structure Errand where
  run : {σ : Type} → Host σ → (name : String) → (arguments : List String) → Input → σ → Run × σ

namespace Host

/-- What a program can read. -/
def supply {σ : Type} (host : Host σ) (name : String) (input : Input) (state : σ) : Supply :=
  ⟨name, input, host.around state, host.environment state⟩

/-- The place of a new file at a path: its directory has to exist. -/
def newPlace {σ : Type} (host : Host σ) (state : σ) (path : String) :
    Except FileError FilePath :=
  let around := host.around state
  match around.tree.find around.directory path with
  | .ok (place, _) => .ok place
  | .error .notFound =>
    let (name, front) := ((FileTree.splitPath path).getLastD "", (FileTree.splitPath path).dropLast)
    if name = "" then .error (if path = "" then .notFound else .isADirectory)
    else
      match around.tree.find around.directory ("/".intercalate front ++ (if front.isEmpty then "."
        else "/")) with
      | .ok (place, .directory) => .ok (place ++ [name])
      | .ok _ => .error .notADirectory
      | .error cause => .error cause
  | .error cause => .error cause

/-- A new file: of a mode that is asked for, the mask is taken away. -/
def newFile {σ : Type} (host : Host σ) (state : σ) (content : List UInt8) (mode : Nat) :
    FileEntry :=
  .file content (mode &&& (0o7777 ^^^ host.mask state))

/-- Put a content into the file at a path. What is written to a device is lost. -/
def write {σ : Type} (host : Host σ) (path : String) (content : List UInt8) (state : σ) :
    Except FileError σ := do
  let place ← host.newPlace state path
  match (host.around state).tree.entry? place with
  | some .directory => throw .isADirectory
  | some .device => return state
  | some (.file _ mode) => return host.put state place (.file content mode)
  | _ => return host.put state place (host.newFile state content 0o666)

/-- Run a script in a shell. -/
def runScript {σ : Type} (host : Host σ) (input : Input) (script : String) (state : σ) :
    Run × σ :=
  match host.start state input "sh" ["-c", script] with
  | (.ok run, state) => (run, state)
  | (.error _, state) => (Tool.fail 127 [] [], state)

end Host

end Runbook.Program
