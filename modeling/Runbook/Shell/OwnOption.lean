import Runbook.Shell.Session

/-!
# Options of the shell's own commands

Letters behind a dash, which may stand together, in front of the operands.
-/

namespace Runbook.Shell

/-- The options that a command of the shell itself is given, each with its value, and the
operands. -/
structure OwnOptions where
  given : List (Char × String)
  operands : List String
deriving DecidableEq, Repr, Inhabited

namespace OwnOptions

/-- What is wrong with options. -/
inductive Fault where
  | unknown (letter : Char)
  | noValue (letter : Char)
deriving DecidableEq, Repr, Inhabited

/-- The wording of what is wrong. -/
def Fault.message : Fault → String
  | .unknown letter => "Illegal option -" ++ String.ofList [letter]
  | .noValue letter => "No arg for -" ++ String.ofList [letter] ++ " option"

/-- The value of an option, the last one if it is given often. -/
def last? (options : OwnOptions) (letter : Char) : Option String :=
  options.given.reverse.lookup letter

/-- Whether an option is given. -/
def has (options : OwnOptions) (letter : Char) : Bool := (options.given.lookup letter).isSome

/-- Read letters, given those that there are and those that need values. -/
def readLetters (plain valued : List Char) : List Char → List String →
    Except Fault (List (Char × String) × List String)
  | [], rest => .ok ([], rest)
  | letter :: letters, rest =>
    if valued.contains letter then
      match letters, rest with
      | [], [] => .error (.noValue letter)
      | [], value :: rest => .ok ([(letter, value)], rest)
      | value, rest => .ok ([(letter, String.ofList value)], rest)
    else if plain.contains letter then do
      let (others, rest) ← readLetters plain valued letters rest
      return ((letter, "") :: others, rest)
    else .error (.unknown letter)

/-- Read the options in front of the operands. -/
def read (plain valued : List Char) : (fuel : Nat) → List String → Except Fault OwnOptions
  | 0, operands => .ok ⟨[], operands⟩
  | _ + 1, "--" :: operands => .ok ⟨[], operands⟩
  | fuel + 1, argument :: rest =>
    match argument.toList with
    | '-' :: c :: letters => do
      let (given, rest) ← readLetters plain valued (c :: letters) rest
      let later ← read plain valued fuel rest
      return { later with given := given ++ later.given }
    | _ => .ok ⟨[], argument :: rest⟩
  | _ + 1, [] => .ok ⟨[], []⟩

end OwnOptions

namespace Session

/-- Carry out a command with its options: those that there are, and those of them that need
values. -/
def withOptions (session : Session) (name plain valued : String) (arguments : List String)
    (action : OwnOptions → Session) : Session :=
  match OwnOptions.read plain.toList valued.toList (arguments.length + 1) arguments with
  | .ok options => action options
  | .error fault => session.refuse name fault.message

/-- Write a line. -/
def writeLine (session : Session) (text : String) : Session :=
  session.write (Text.Octets.toBytes (text ++ "\n"))

/-- Write a line to where complaints go. -/
def writeComplaintLine (session : Session) (text : String) : Session :=
  session.writeComplaint (Text.Octets.toBytes (text ++ "\n"))

/-- Carry out a command that takes a number, which may be left out. -/
def withCount (session : Session) (name : String) (usual : Nat) (arguments : List String)
    (action : Nat → Session) : Session :=
  match arguments with
  | [] => action usual
  | text :: _ =>
    match Decimal.readNatural (2 ^ 31 - 1) text.toList with
    | some n => action n
    | none => session.refuse name ("Illegal number: " ++ text)

end Session

end Runbook.Shell

/-! ## Options of the extended language

The commands of the shell itself tell how they are used when their options are wrong. -/

namespace Runbook.Shell

namespace Session

/-- How the commands of the shell itself are used. -/
def usages : List (String × String) :=
  [("alias", "alias [-p] [name[=value] ... ]"), ("builtin", "builtin [shell-builtin [arg ...]]"),
    ("bg", "bg [job_spec]"), ("caller", "caller [expr]"),
    ("cd", "cd [-L|[-P [-e]] [-@]] [dir]"), ("command", "command [-pVv] command [arg ...]"),
    ("declare", "declare [-aAfFgiIlnrtux] [name[=value] ...] or declare -p [-aAfFilnrtux] "
      ++ "[name ...]"),
    ("dirs", "dirs [-clpv] [+N] [-N]"), ("disown", "disown [-h] [-ar] [jobspec ... | pid ...]"),
    ("enable", "enable [-a] [-dnps] [-f filename] [name ...]"),
    ("exec", "exec [-cl] [-a name] [command [argument ...]] [redirection ...]"),
    ("eval", "eval [arg ...]"),
    ("export", "export [-fn] [name[=value] ...] or export -p"),
    ("fc", "fc [-e ename] [-lnr] [first] [last] or fc -s [pat=rep] [command]"),
    ("fg", "fg [job_spec]"), ("getopts", "getopts optstring name [arg ...]"),
    ("hash", "hash [-lr] [-p pathname] [-dt] [name ...]"),
    ("help", "help [-dms] [pattern ...]"),
    ("history", "history [-c] [-d offset] [n] or history -anrw [filename] or history -ps arg "
      ++ "[arg...]"),
    ("jobs", "jobs [-lnprs] [jobspec ...] or jobs -x command [args]"),
    ("kill", "kill [-s sigspec | -n signum | -sigspec] pid | jobspec ... or kill -l [sigspec]"),
    ("let", "let arg [arg ...]"), ("local", "local [option] name[=value] ..."),
    ("mapfile", "mapfile [-d delim] [-n count] [-O origin] [-s count] [-t] [-u fd] "
      ++ "[-C callback] [-c quantum] [array]"),
    ("popd", "popd [-n] [+N | -N]"), ("printf", "printf [-v var] format [arguments]"),
    ("pushd", "pushd [-n] [+N | -N | dir]"), ("pwd", "pwd [-LP]"),
    ("read", "read [-ers] [-a array] [-d delim] [-i text] [-n nchars] [-N nchars] [-p prompt] "
      ++ "[-t timeout] [-u fd] [name ...]"),
    ("readarray", "readarray [-d delim] [-n count] [-O origin] [-s count] [-t] [-u fd] "
      ++ "[-C callback] [-c quantum] [array]"),
    ("readonly", "readonly [-aAf] [name[=value] ...] or readonly -p"),
    ("set", "set [-abefhkmnptuvxBCEHPT] [-o option-name] [--] [-] [arg ...]"),
    ("shopt", "shopt [-pqsu] [-o] [optname ...]"), ("source", "source filename [arguments]"),
    (".", ". filename [arguments]"), ("suspend", "suspend [-f]"), ("times", "times"),
    ("trap", "trap [-lp] [[arg] signal_spec ...]"), ("type", "type [-afptP] name [name ...]"),
    ("typeset", "typeset [-aAfFgiIlnrtux] name[=value] ... or typeset -p [-aAfFilnrtux] "
      ++ "[name ...]"),
    ("ulimit", "ulimit [-SHabcdefiklmnpqrstuvxPRT] [limit]"), ("umask", "umask [-p] [-S] [mode]"),
    ("unalias", "unalias [-a] name [name ...]"), ("unset", "unset [-f] [-v] [-n] [name ...]"),
    ("wait", "wait [-fn] [-p var] [id ...]")]

/-- Tell how a command is used. -/
def misuse (session : Session) (name : String) : Session :=
  (session.writeComplaintLine
    (name ++ ": usage: " ++ (usages.lookup name).getD name)).finish 2

/-- Let a command of the shell itself fail with a complaint. -/
def dispute (session : Session) (name text : String) : Session :=
  (session.complain (name ++ ": " ++ text)).finish 1

/-- Let a command fail because of the name of a variable. -/
def disputeName (session : Session) (command name : String) : Session :=
  session.dispute command ("\x60" ++ name ++ "': not a valid identifier")

/-- Let a command fail because of an option. -/
def disputeOption (session : Session) (name : String) (fault : OwnOptions.Fault) : Session :=
  let text := match fault with
    | .unknown letter => "-" ++ String.ofList [letter] ++ ": invalid option"
    | .noValue letter => "-" ++ String.ofList [letter] ++ ": option requires an argument"
  (session.dispute name text).misuse name

/-- Carry out a command with its options: those that there are, and those of them that need
values. -/
def withChoices (session : Session) (name plain valued : String) (arguments : List String)
    (action : OwnOptions → Session) : Session :=
  match OwnOptions.read plain.toList valued.toList (arguments.length + 1) arguments with
  | .ok options => action options
  | .error fault => session.disputeOption name fault

/-- Read a whole number with a sign, with blanks around it. -/
def wholeNumber? (text : String) : Option Int :=
  let chars := (text.toList.reverse.dropWhile Program.Numeral.isBlank).reverse
  let chars := chars.dropWhile Program.Numeral.isBlank
  let (negative, digits) := match chars with
    | '-' :: digits => (true, digits)
    | '+' :: digits => (false, digits)
    | digits => (false, digits)
  (Decimal.readNatural (if negative then 2 ^ 63 else 2 ^ 63 - 1) digits).map fun n =>
    if negative then -(n : Int) else n

/-- Carry out something with each item, one after the other, as long as the shell goes on. -/
def eachOf {α : Type} (session : Session) (items : List α) (action : Session → α → Session) :
    Session :=
  items.foldl (fun session item => if session.isOn then action session item else session) session

end Session

end Runbook.Shell
