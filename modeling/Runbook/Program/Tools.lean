import Runbook.Program.ArgumentFeed
import Runbook.Program.Calculation
import Runbook.Program.Comparison
import Runbook.Program.Cut
import Runbook.Program.Date
import Runbook.Program.Deputy
import Runbook.Program.Digest
import Runbook.Program.Dump
import Runbook.Program.Edit.Editor
import Runbook.Program.Environment
import Runbook.Program.Excerpt
import Runbook.Program.FileChange
import Runbook.Program.Layout
import Runbook.Program.LineSearch
import Runbook.Program.Lines
import Runbook.Program.Listing
import Runbook.Program.Mode
import Runbook.Program.PathName
import Runbook.Program.Precedence
import Runbook.Program.Printf
import Runbook.Program.Progression
import Runbook.Program.Rule.Interpreter
import Runbook.Program.Search.Walk
import Runbook.Program.Sorting
import Runbook.Program.Translation

/-!
# The programs of a machine

The names of all programs, and where they stand.
-/

namespace Runbook.Program

namespace Tool

/-- The wording of a fault of a condition. -/
def faultText : Condition.Fault → String
  | .noNumber text => "invalid integer " ++ Mention.marked text
  | .noUnary text => Mention.marked text ++ ": unary operator expected"
  | .noBinary text => Mention.marked text ++ ": binary operator expected"
  | .extra text => "extra argument " ++ Mention.marked text
  | .missingAfter text => "missing argument after " ++ Mention.marked text
  | .notClosed none => "')' expected"
  | .notClosed (some text) => "')' expected, found " ++ Mention.marked text
  | .noLength operator => operator ++ " does not accept -l"

/-- Test a condition. -/
def test : Tool := fun arguments supply =>
  match Condition.holds supply.around arguments with
  | .ok true => succeed []
  | .ok false => fail 1 [] []
  | .error fault => fail 2 [] [supply.name ++ ": " ++ faultText fault]

/-- Test a condition, with a bracket behind it. -/
def bracket : Tool := fun arguments supply =>
  if arguments.getLast? = some "]" then test arguments.dropLast supply
  else fail 2 [] [supply.name ++ ": missing ']'"]

/-- The tools by their names. -/
def named : List (String × Tool) :=
  [("true", fun _ _ => succeed []), ("false", fun _ _ => fail 1 [] []), ("echo", echo),
    ("printf", printf), ("yes", yes), ("sleep", sleep), ("date", date),
    ("ls", list), ("dir", listColumns), ("vdir", listLong), ("seq", seq), ("test", test), ("[", bracket),
    ("expr", expr), ("factor", factor), ("tsort", tsort),
    ("basename", basename), ("dirname", dirname), ("realpath", realpath), ("readlink", readlink),
    ("pwd", pwd), ("printenv", printenv), ("id", id), ("whoami", whoami), ("groups", groups),
    ("arch", arch), ("uname", uname), ("tty", tty), ("cat", cat), ("head", head), ("tail", tail),
    ("tac", tac), ("rev", rev), ("wc", wc), ("tr", tr), ("cut", cut), ("sort", sort),
    ("uniq", uniq), ("comm", comm), ("join", join), ("fold", fold), ("expand", expand),
    ("unexpand", unexpand), ("paste", paste), ("nl", nl), ("od", od),
    ("base64", Alphabet.base64.tool), ("base32", Alphabet.base32.tool), ("cksum", cksum),
    ("sum", sum), ("diff", diff), ("cmp", cmp), ("grep", grep none), ("egrep", grep (some "-E")), ("fgrep", grep (some "-F"))]
    ++ digestTools

/-- The programs by their names that do more with their machine than to read from it. -/
def errands : List (String × Errand) := FileChange.named ++ Mode.named ++ [("sed", Edit.sed), ("awk", Rule.awk),
    ("mawk", Rule.awk), ("xargs", xargs), ("find", find)]

/-- The programs by their names that start another one in their own place. -/
def deputies : List (String × Deputy) :=
  [("env", Environment.env), ("timeout", Deputy.timeout), ("nice", Deputy.nice),
    ("nohup", Deputy.nohup), ("setsid", Deputy.setsid), ("stdbuf", Deputy.stdbuf)]

/-- The programs that are shells. -/
def shellNames : List String := ["sh", "dash", "bash"]

/-- The names of all programs. -/
def names : List String :=
  named.map (·.1) ++ errands.map (·.1) ++ deputies.map (·.1) ++ shellNames

/-- The directory of all programs. -/
def home : FilePath := ["usr", "bin"]

/-- The mark at the front of the files of programs. -/
def programMark : List UInt8 := [0x7f, 0x45, 0x4c, 0x46]

/-- The tree of a machine with its programs. The file of a program tells which one it is, and so a
copy of it is the same program. -/
def installed : FileTree :=
  FileTree.usual ++ names.map fun name =>
    (home ++ [name], .file (programMark ++ Text.Octets.toBytes name) 0o755)

/-- The directory in which programs are started. -/
def workplace : FilePath := ["root"]

/-- What a file starts that may be run. -/
inductive Image where
  | program (name : String)
  /-- A script that names the program that runs it, and an argument for that. -/
  | script (interpreter : String) (argument? : Option String)
  /-- A script that a shell runs. -/
  | text
deriving DecidableEq, Repr, Inhabited

/-- What the line behind the mark of a script says. -/
def readMarkLine (line : List Char) : Image :=
  let isBlank (c : Char) : Bool := c == ' ' || c == '\t'
  let trimmed := ((line.dropWhile isBlank).reverse.dropWhile isBlank).reverse
  let (front, rest) := trimmed.span (!isBlank ·)
  let rest := rest.dropWhile isBlank
  if front.isEmpty then .text
  else
    .script (String.ofList front) (if rest.isEmpty then none else some (String.ofList rest))

/-- What an entry starts, if it may be run. -/
def imageOf? (entry : FileEntry) : Option Image :=
  match entry.isExecutable, entry with
  | true, .file (0x23 :: 0x21 :: rest) _ =>
    some (readMarkLine ((Text.Octets.chars rest).takeWhile (· != '\n')))
  | true, .file content _ =>
    if programMark.isPrefixOf content then
      let name := Text.Octets.ofBytes (content.drop programMark.length)
      if names.contains name then some (.program name) else none
    else some .text
  | _, _ => none

/-- The path of a command. A name without a slash stands in the directory of all programs. -/
def pathOf (program : String) : String :=
  if program.contains '/' || program = "" then program else "/usr/bin/" ++ program

/-- A program, the name by which it is called, and its arguments. -/
structure Call where
  known : String
  name : String
  arguments : List String
deriving DecidableEq, Repr, Inhabited

/-- How many scripts may run each other. -/
def mostInterpreters : Nat := 5

/-- What a command calls in the end, or why it cannot be started. A script is run by the program
that it names, or by some shell, which gets the path of the script in front of the arguments. -/
def resolveCall (around : Condition.Surroundings) (shell : String) :
    (fuel : Nat) → (program : String) → (arguments : List String) → Except StartError Call
  | 0, _, _ => .error (.unreachable .tooManyLinks)
  | fuel + 1, program, arguments =>
    let path := pathOf program
    match around.tree.find around.directory path with
    | .error cause => .error (.unreachable cause)
    | .ok (_, entry) =>
      match imageOf? entry with
      | none => .error .notAllowed
      | some (.program known) => .ok ⟨known, program, arguments⟩
      | some .text => .ok ⟨shell, shell, path :: arguments⟩
      | some (.script interpreter argument?) =>
        resolveCall around shell fuel
          (if interpreter.contains '/' then interpreter else "./" ++ interpreter)
          (argument?.toList ++ path :: arguments)

/-- What a command calls if no shell of its own runs a script. -/
def call (around : Condition.Surroundings) (program : String) (arguments : List String) :
    Except StartError Call :=
  resolveCall around "sh" mostInterpreters program arguments

/-- Whether a command is the path of something that may be run. -/
def isRunnable (around : Condition.Surroundings) (program : String) : Bool :=
  ((around.tree.find? around.directory (pathOf program)).bind imageOf?).isSome

end Tool

end Runbook.Program
