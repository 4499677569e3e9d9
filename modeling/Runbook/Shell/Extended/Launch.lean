import Runbook.Shell.Extended.Setting
import Runbook.Shell.Session

/-!
# Shells as programs

What a shell makes of its arguments: a script, its name and its arguments, and options.
-/

/-! ## Shells -/

namespace Runbook.Shell

/-- What a shell runs. -/
inductive Source where
  | text (script : List Char)
  | file (path : String)
  /-- What the shell reads. -/
  | input
  /-- The arguments ask for something that there is not. -/
  | refused (complaint : String)
  /-- All is done that the arguments ask for: lines are written, and the shell has a status. -/
  | settled (status : UInt8) (output complaints : List String)
deriving DecidableEq, Repr, Inhabited

/-- A script, its name, its arguments, and the options of the shell that runs it. -/
structure Launch where
  source : Source
  name : String
  arguments : List String
  switches : Switches
deriving Inhabited

namespace Launch

/-- What a shell runs, given the arguments behind its options, and whether one of them is a
script. -/
def ofOperands (name : String) (switches : Switches) (ofText ofInput : Bool) :
    List String → Launch
  | [] => ⟨if ofText then .refused "-c requires an argument" else .input, name, [], switches⟩
  | first :: rest =>
    if ofText then ⟨.text first.toList, rest.headD name, rest.tail, switches⟩
    else if ofInput then ⟨.input, name, first :: rest, switches⟩
    else ⟨.file first, first, rest, switches⟩

/-- What a shell runs, given its arguments. -/
def ofArguments (name : String) : (switches : Switches) → (ofText ofInput : Bool) →
    (arguments : List String) → Launch
  | switches, ofText, ofInput, "-o" :: option :: rest =>
    match Switches.named.lookup option with
    | some letter => ofArguments name (letter :: switches) ofText ofInput rest
    | none => ⟨.refused ("Illegal option -o " ++ option), name, [], switches⟩
  | switches, ofText, ofInput, "--" :: rest | switches, ofText, ofInput, "-" :: rest =>
    ofOperands name switches ofText ofInput rest
  | switches, ofText, ofInput, first :: rest =>
    match first.toList with
    | '-' :: letters =>
      match switches.turn true (letters.filter fun letter => letter != 'c' && letter != 'l') with
      | .ok switches =>
        ofArguments name switches (ofText || letters.contains 'c')
          (ofInput || letters.contains 's') rest
      | .error letter =>
        ⟨.refused ("Illegal option -" ++ String.ofList [letter]), name, [], switches⟩
    | '+' :: letters =>
      match switches.turn false letters with
      | .ok switches => ofArguments name switches ofText ofInput rest
      | .error letter =>
        ⟨.refused ("Illegal option +" ++ String.ofList [letter]), name, [], switches⟩
    | _ => ofOperands name switches ofText ofInput (first :: rest)
  | switches, ofText, ofInput, [] => ofOperands name switches ofText ofInput []

end Launch

end Runbook.Shell

/-! ## Shells of the extended language

Options with long names stand in front of those with letters. -/

namespace Runbook.Shell.Extended

/-- What a shell runs, and the options without letters that are on. -/
structure Start extends Launch where
  extras : List String
deriving Inhabited

namespace Start

/-- The options with long names. -/
def longNames : List String :=
  ["debug", "debugger", "dump-po-strings", "dump-strings", "help", "init-file", "login",
    "noediting", "noprofile", "norc", "posix", "pretty-print", "rcfile", "restricted", "verbose",
    "version"]

/-- How the program is used. -/
def usage (name : String) : List String :=
  ["Usage:\t" ++ name ++ " [GNU long option] [option] ...",
    "\t" ++ name ++ " [GNU long option] [option] script-file ...", "GNU long options:"]
    ++ longNames.map ("\t--" ++ ·)
    ++ ["Shell options:", "\t-ilrsD or -c command or -O shopt_option\t\t(invocation only)",
      "\t-abefhkmnptuvxBCEHPT or -o option"]

/-- What has been read of the options. -/
structure Options where
  switches : Switches
  extras : List String
  ofText : Bool
  ofInput : Bool

/-- The options of a shell that is given none. -/
def Options.usual : Options := ⟨OptionName.usualLetters, OptionName.usualNames, false, false⟩

/-- A start that ends at once. -/
def settled (name : String) (status : UInt8) (output complaints : List String) : Start :=
  ⟨⟨.settled status output complaints, name, [], []⟩, []⟩

/-- A start that ends with a complaint. -/
def refused (name complaint : String) : Start :=
  settled name 2 [] [name ++ ": " ++ complaint]

/-- A start that ends because an option is not known. -/
def unknown (name option : String) : Start :=
  settled name 2 [] ((name ++ ": " ++ option ++ ": invalid option") :: usage name)

/-- What a shell runs, given the arguments behind its options. -/
def ofOperands (name : String) (options : Options) (operands : List String) : Start :=
  let make (source : Source) (name : String) (arguments : List String) : Start :=
    ⟨⟨source, name, arguments, options.switches⟩, options.extras⟩
  if options.ofText then
    match operands with
    | [] => refused name "-c: option requires an argument"
    | script :: rest => make (.text script.toList) (rest.headD name) rest.tail
  else if options.ofInput then make .input name operands
  else
    match operands with
    | [] => make .input name []
    | path :: rest => make (.file path) path rest

/-- Turn an option on or off by its name. -/
def turn (options : Options) (on : Bool) (letter? : Option Char) (name : String) : Options :=
  match letter? with
  | some letter =>
    let others := options.switches.filter (· != letter)
    { options with switches := if on then letter :: others else others }
  | none =>
    let others := options.extras.filter (· != name)
    { options with extras := if on then name :: others else others }

/-- The rows of a table of options. -/
def rows (names : List String) (isOn : String → Bool) : List String :=
  names.map fun name => Session.optionRow name (isOn name)

/-- Read the letters of an argument. Letters that need names take them from the arguments behind
it. -/
def readLetters (name : String) (on : Bool) : List Char → (rest : List String) → Options →
    Except Start (List String × Options)
  | [], rest, options => .ok (rest, options)
  | 'c' :: letters, rest, options =>
    readLetters name on letters rest { options with ofText := true }
  | 's' :: letters, rest, options =>
    readLetters name on letters rest { options with ofInput := true }
  | 'o' :: _, [], options =>
    .error (settled name 0 (rows (OptionName.settings.map (·.1))
      (OptionName.isSettingOn options.switches options.extras)) [])
  | 'O' :: _, [], options =>
    .error (settled name 0 (rows OptionName.manners options.extras.contains) [])
  | 'o' :: letters, option :: rest, options =>
    match OptionName.settings.lookup option with
    | some letter? => readLetters name on letters rest (turn options on letter? option)
    | none =>
      .error (refused name ("line 0: " ++ name ++ ": " ++ option ++ ": invalid option name"))
  | 'O' :: letters, option :: rest, options =>
    if OptionName.manners.contains option then
      readLetters name on letters rest (turn options on none option)
    else .error (refused name ("line 0: " ++ option ++ ": invalid shell option name"))
  | letter :: letters, rest, options =>
    if letter = 'l' then readLetters name on letters rest (turn options true none "login_shell")
    else if ['i', 'r', 'D'].contains letter then readLetters name on letters rest options
    else if Switches.extendedLetters.contains letter then
      readLetters name on letters rest (turn options on (some letter) "")
    else .error (unknown name ((if on then "-" else "+") ++ String.ofList [letter]))

/-- Read the arguments with letters. -/
def readShort (name : String) : (fuel : Nat) → List String → Options → Start
  | 0, arguments, options => ofOperands name options arguments
  | _ + 1, [], options => ofOperands name options []
  | fuel + 1, argument :: rest, options =>
    match argument.toList with
    | ['-'] | ['-', '-'] => ofOperands name options rest
    | '-' :: letters =>
      match readLetters name true letters rest options with
      | .ok (rest, options) => readShort name fuel rest options
      | .error start => start
    | '+' :: letters =>
      match readLetters name false letters rest options with
      | .ok (rest, options) => readShort name fuel rest options
      | .error start => start
    | _ => ofOperands name options (argument :: rest)

/-- Read the arguments with long names, and then the others. -/
def readLong (name : String) : (fuel : Nat) → List String → Options → Start
  | 0, arguments, options => readShort name (arguments.length + 1) arguments options
  | _ + 1, [], options => ofOperands name options []
  | fuel + 1, argument :: rest, options =>
    let short (_ : Unit) : Start :=
      readShort name (rest.length + 2) (argument :: rest) options
    match argument.toList with
    | '-' :: chars =>
      let long := match chars with
        | '-' :: chars => String.ofList chars
        | chars => String.ofList chars
      if long = "" then short ()
      else if longNames.contains long then
        let next (options : Options) : Start := readLong name fuel rest options
        match long with
        | "init-file" | "rcfile" =>
          match rest with
          | [] => refused name (long ++ ": option requires an argument")
          | _ :: rest => readLong name fuel rest options
        | "login" => next (turn options true none "login_shell")
        | "posix" => next (turn options true none "posix")
        | "verbose" => next (turn options true (some 'v') "")
        | _ => next options
      else if argument.startsWith "--" then unknown name argument
      else short ()
    | _ => short ()

/-- What a shell runs, given its arguments. -/
def ofArguments (name : String) (arguments : List String) : Start :=
  readLong name (arguments.length + 1) arguments .usual

end Start

end Runbook.Shell.Extended
