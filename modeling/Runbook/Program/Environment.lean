import Runbook.Program.Deputy
import Runbook.Program.Lines
import Runbook.Program.PathName

/-!
# Environments and identities

Programs that tell which variables they see, who runs them, and on what machine.
-/

/-! ## Environments

A program that shows the variables that it sees, or starts another one that sees others. -/

namespace Runbook.Program.Environment

/-- Variables with their values, in the order in which they came. -/
abbrev Bindings := List (String × String)

/-- Give a variable a value, in the place that it has, or behind all others. -/
def put (name value : String) (bindings : Bindings) : Bindings :=
  if bindings.any (·.1 == name) then
    bindings.map fun other => if other.1 = name then (name, value) else other
  else bindings ++ [(name, value)]

/-! ## Texts that are split into arguments -/

/-- Where the reading of a text stands. -/
structure Splitting where
  /-- The arguments that are complete, in reverse. -/
  complete : List String
  /-- The characters of the last argument, in reverse, if one has begun. -/
  open? : Option (List Char)
  quote? : Option Char

namespace Splitting

/-- Add characters to the last argument. -/
def add (splitting : Splitting) (chars : List Char) : Splitting :=
  { splitting with open? := some (chars.reverse ++ splitting.open?.getD []) }

/-- End the last argument. -/
def close (splitting : Splitting) : Splitting :=
  match splitting.open? with
  | some chars => { splitting with
      complete := String.ofList chars.reverse :: splitting.complete, open? := none }
  | none => splitting

/-- Begin or end quotes. -/
def turn (splitting : Splitting) (quote? : Option Char) : Splitting :=
  { splitting.add [] with quote? := quote? }

end Splitting

/-- The name between braces at the front of a text, and what stands behind them. -/
def readVariable? (chars : List Char) : Option (String × List Char) :=
  match chars with
  | '\x7b' :: c :: rest =>
    let (name, behind) := (c :: rest).span fun c => c.isAlphanum || c == '_'
    match behind with
    | '\x7d' :: behind =>
      if c.isAlpha || c == '_' then some (String.ofList name, behind) else none
    | _ => none
  | _ => none

/-- The escapes that stand for one character. -/
def escapes : List (Char × Char) :=
  [('"', '"'), ('#', '#'), ('$', '$'), ('\'', '\''), ('\\', '\\'), ('f', '\x0c'), ('n', '\n'),
    ('r', '\r'), ('t', '\t'), ('v', '\x0b')]

/-- Split a text into arguments, with the values of variables in it. -/
def split (bindings : Bindings) : (fuel : Nat) → Splitting → List Char →
    Except String (List String)
  | 0, splitting, _ => .ok splitting.close.complete.reverse
  | _ + 1, splitting, [] =>
    if splitting.quote?.isSome then .error "no terminating quote in -S string"
    else .ok splitting.close.complete.reverse
  | fuel + 1, splitting, c :: rest =>
    let plain (_ : Unit) : Except String (List String) :=
      split bindings fuel (splitting.add [c]) rest
    let single := splitting.quote? = some '\''
    let double := splitting.quote? = some '"'
    match c with
    | '\'' =>
      if double then plain ()
      else split bindings fuel (splitting.turn (if single then none else some '\'')) rest
    | '"' =>
      if single then plain ()
      else split bindings fuel (splitting.turn (if double then none else some '"')) rest
    | ' ' | '\t' | '\n' | '\x0b' | '\x0c' | '\r' =>
      if single ∨ double then plain () else split bindings fuel splitting.close rest
    | '#' =>
      if splitting.open?.isNone then .ok splitting.complete.reverse else plain ()
    | '\\' =>
      match rest with
      | [] =>
        if single then plain () else .error "invalid backslash at end of string in -S"
      | escaped :: behind =>
        if single ∧ escaped ≠ '\\' ∧ escaped ≠ '\'' then plain ()
        else if escaped = '_' then
          split bindings fuel (if double then splitting.add [' '] else splitting.close) behind
        else if escaped = 'c' then
          if double then .error "'\\c' must not appear in double-quoted -S string"
          else .ok splitting.close.complete.reverse
        else
          match escapes.lookup escaped with
          | some c => split bindings fuel (splitting.add [c]) behind
          | none =>
            .error ("invalid sequence '\\" ++ String.ofList [escaped] ++ "' in -S")
    | '$' =>
      if single then plain ()
      else
        match readVariable? rest with
        | some (name, behind) =>
          let splitting := match bindings.lookup name with
            | some value => splitting.add value.toList
            | none => splitting
          split bindings fuel splitting behind
        | none =>
          .error ("only $\x7bVARNAME\x7d expansion is supported, error at: "
            ++ String.ofList (c :: rest))
    | _ => plain ()

/-- The arguments in the place of a text that is split into some. -/
def splitText (name : String) (bindings : Bindings) (text : String) :
    Except Run (List String) :=
  match split bindings (text.length + 1) ⟨[], none, none⟩ text.toList with
  | .ok arguments => .ok arguments
  | .error complaint => .error (Tool.fail 125 [] [name ++ ": " ++ complaint])

/-- Put the arguments in the place of texts that are split into some, up to the first operand. -/
def spread (name : String) (bindings : Bindings) : (fuel : Nat) → (arguments : List String) →
    Except Run (List String)
  | 0, arguments => .ok arguments
  | _ + 1, [] => .ok []
  | fuel + 1, first :: rest => do
    match first.toList with
    | ['-', '-'] => return first :: rest
    | '-' :: '-' :: word =>
      let (front, value) := word.span (· != '=')
      let front := String.ofList front
      if front != "" ∧ "split-string".startsWith front then
        match value, rest with
        | _ :: value, rest =>
          spread name bindings fuel ((← splitText name bindings (String.ofList value)) ++ rest)
        | [], value :: rest => spread name bindings fuel ((← splitText name bindings value) ++ rest)
        | [], [] => return [first]
      else if value.isEmpty ∧ (front = "unset" ∨ front = "chdir") then
        return first :: rest.take 1 ++ (← spread name bindings fuel (rest.drop 1))
      else return first :: (← spread name bindings fuel rest)
    | '-' :: c :: letters =>
      let (front, valued) := (c :: letters).span fun c => !(['u', 'C', 'S'].contains c)
      match valued with
      | [] => return first :: (← spread name bindings fuel rest)
      | 'S' :: value =>
        let before := if front.isEmpty then [] else [String.ofList ('-' :: front)]
        match value, rest with
        | [], value :: rest =>
          return before ++ (← spread name bindings fuel ((← splitText name bindings value) ++ rest))
        | [], [] => return first :: rest
        | value, rest =>
          let text := String.ofList value
          return before ++ (← spread name bindings fuel ((← splitText name bindings text) ++ rest))
      | [_] => return first :: rest.take 1 ++ (← spread name bindings fuel (rest.drop 1))
      | _ => return first :: (← spread name bindings fuel rest)
    | _ => return first :: rest

/-! ## The program -/

/-- The variables that are given values in front of a program, and what stands behind them. -/
def spanAssignments (arguments : List String) : List (String × String) × List String :=
  let (assigned, rest) := arguments.span (·.contains '=')
  (assigned.map fun text =>
    let (name, value) := text.toList.span (· != '=')
    (String.ofList name, String.ofList value.tail), rest)

/-- The options of the program. -/
def table : String :=
  "i|ignore-environment 0|null u|unset: C|chdir: S|split-string: v|debug |block-signal?
    |default-signal? |ignore-signal? |list-signal-handling"

/-- Whether a text names signals, with commas between them. -/
def wrongSignal? (text : String) : Option String :=
  ((text.splitOn ",").filter (· != "")).find? fun name => (Deputy.signal? name).isNone

/-- Read the options. A blank among the letters has a hint of its own. -/
def options (name : String) (arguments : List String) : Except Run Options :=
  match Options.read (.ofText table) Options.isOperand (arguments.length + 1) arguments with
  | .ok options => .ok options
  | .error (.unknownLetter ' ') =>
    Deputy.refuse 125 name
      [(OptionFault.unknownLetter ' ').message, "use -[v]S to pass options in shebang lines"]
  | .error fault => Deputy.refuse 125 name [fault.message]

/-- Show variables, or start a program that sees others. -/
def env : Deputy := fun arguments supply => do
  let around := supply.around
  let own := supply.name
  let fuel := 2 * (arguments.map (·.length + 1)).sum + 2
  let arguments ← spread own supply.environment fuel arguments
  let options ← options own arguments
  let fail {α : Type} (complaint : String) : Except Run α :=
    throw (Tool.fail 125 [] [own ++ ": " ++ complaint])
  for (key, value?) in options.given do
    if key.endsWith "-signal" then
      if let some wrong := wrongSignal? (value?.getD "") then
        throw (Tool.fail 125 [] [own ++ ": " ++ Mention.marked wrong ++ ": invalid signal",
          Tool.helpHint own])
  let ignores := options.has "i" || options.operands.head? == some "-"
  let operands := if options.operands.head? = some "-" then options.operands.tail
    else options.operands
  let (assigned, rest) := spanAssignments operands
  let unset := options.values "u"
  if !ignores then
    if let some name := unset.find? fun name => name = "" || name.contains '=' then
      fail ("cannot unset " ++ Mention.marked name ++ ": Invalid argument")
  let kept := if ignores then []
    else supply.environment.filter fun (name, _) => !unset.contains name
  let bindings := assigned.foldl (fun bindings (name, value) => put name value bindings) kept
  match rest with
  | [] =>
    if options.has "C" then
      Deputy.refuse 125 own ["must specify command with --chdir (-C)"]
    let ending := if options.has "0" then "\x00" else "\n"
    throw (Tool.succeed (Text.Octets.toBytes (String.join (bindings.map fun (name, value) =>
      name ++ "=" ++ value ++ ending))))
  | program :: arguments =>
    if options.has "0" then
      Deputy.refuse 125 own ["cannot specify --null (-0) with command"]
    let directory? ← match options.value? "C" with
      | none => pure none
      | some path =>
        match around.tree.find around.directory path with
        | .ok (place, .directory) => pure (some place)
        | result =>
          let cause := match result with
            | .error cause => cause
            | .ok _ => .notADirectory
          fail ("cannot change directory to " ++ Mention.shellQuoted path ++ ": "
            ++ Tool.reason cause)
    let notes := if !options.has "v" then [] else
      (if ignores then ["cleaning environ"] else unset.map ("unset:    " ++ ·))
        ++ assigned.map (fun (name, value) => "setenv:   " ++ name ++ "=" ++ value)
        ++ ((options.value? "C").map fun path => "chdir:    " ++ Mention.shellQuoted path).toList
        ++ ("executing: " ++ program) :: (program :: arguments).zipIdx.map fun (argument, n) =>
          "   arg[" ++ toString n ++ "]= " ++ Mention.marked argument
    return { Handover.plain (own ++ ": " ++ Mention.marked program) program arguments with
      environment? := some bindings
      directory? := directory?
      notes := notes
      hint? := if program.contains ' ' then
          some (own ++ ": use -[v]S to pass options in shebang lines")
        else none }

end Runbook.Program.Environment

/-! ## Identity

Programs that tell who runs them, on what machine, and with which variables. -/

namespace Runbook.Program.Tool

/-- Write a line, or refuse operands. -/
def answer (name table : String) (arguments : List String) (text : Options → String) : Run :=
  withOptions name table arguments fun options =>
    match options.operands with
    | extra :: _ => refuse name (extraOperand extra)
    | [] => line (text options)

/-- Write the name of the user. -/
def whoami : Tool := fun arguments supply => answer supply.name "" arguments fun _ => "root"

/-- Write the numbers or the names of the user and of its groups. -/
def id : Tool := fun arguments supply =>
  let table := "a|ignored Z|context g|group G|groups n|name r|real u|user z|zero"
  withOptions supply.name table arguments fun options =>
    let chosen := ["u", "g", "G"].filter options.has
    let users := if options.operands.isEmpty then ["root"] else options.operands
    let unknown := users.filter fun user => user != "root" && user != "0"
    let text := match chosen with
      | [] => "uid=0(root) gid=0(root) groups=0(root)"
      | _ => if options.has "n" then "root" else "0"
    if 1 < chosen.length then
      fail 1 [] [supply.name ++ ": cannot print \"only\" of more than one choice"]
    else if chosen.isEmpty && (options.has "n" || options.has "r") then
      fail 1 [] [supply.name ++ ": cannot print only names or real IDs in default format"]
    else if chosen.isEmpty && options.has "z" then
      fail 1 [] [supply.name ++ ": option --zero not permitted in default format"]
    else
      concludeWith 1 (users.map fun user =>
        if unknown.contains user then
          told (supply.name ++ ": " ++ Mention.marked user ++ ": no such user")
        else shown (joinRecords (recordMark options) [Text.Octets.toBytes text]))

/-- Write the names of the groups of the user. -/
def groups : Tool := fun arguments supply => answer supply.name "" arguments fun _ => "root"

/-- Write the kind of the machine. -/
def arch : Tool := fun arguments supply => answer supply.name "" arguments fun _ => "x86_64"

/-- Write the name of the system and of its parts. -/
def uname : Tool := fun arguments supply =>
  let table := "a|all s|kernel-name n|nodename r|kernel-release v|kernel-version m|machine "
    ++ "p|processor i|hardware-platform o|operating-system"
  answer supply.name table arguments fun options =>
    let chosen (key : String) : Bool := options.has key || options.has "a"
    let parts := [("s", "Linux"), ("n", "localhost"), ("r", "6.1.0"), ("v", "#1 SMP"),
      ("m", "x86_64"), ("o", "GNU/Linux")].filter fun (key, _) => chosen key
    let unknown := ["p", "i"].filter fun key => options.has key && !options.has "a"
    if parts.isEmpty && unknown.isEmpty then "Linux"
    else " ".intercalate (parts.map (·.2) ++ unknown.map fun _ => "unknown")

/-- Write the name of the terminal, of which there is none. -/
def tty : Tool := fun arguments supply =>
  withOptionsOr 2 supply.name "s|silent |quiet" arguments fun options =>
    match options.operands with
    | extra :: _ => { refuse supply.name (extraOperand extra) with status := .exited 2 }
    | [] =>
      let text := if options.has "s" || options.has "quiet" then [] else
        Text.Octets.toBytes "not a tty\n"
      fail 1 text []

/-- Write the working directory. -/
def pwd : Tool := fun arguments supply =>
  withOptions supply.name "L|logical P|physical" arguments fun options =>
    let physical := pathText supply.around.directory
    let logical? := (supply.environment.lookup "PWD").filter fun text =>
      FileTree.isAbsolute text
        && (FileTree.splitPath text).all (fun name => name != "." && name != "..")
        && supply.around.isSame text physical
    let path := if options.has "L" then logical?.getD physical else physical
    let ignored := if options.operands.isEmpty then []
      else [told (supply.name ++ ": ignoring non-option arguments")]
    let run := line path
    { run with written := ignored ++ run.written }

/-- The text of variables. -/
def variableLines (mark : UInt8) (environment : List (String × String)) : List UInt8 :=
  joinRecords mark (environment.map fun (name, value) =>
    Text.Octets.toBytes (name ++ "=" ++ value))

/-- Write the values of variables. -/
def printenv : Tool := fun arguments supply =>
  let rules : OptionRules := ⟨2, "0|null", Options.isOperand⟩
  withOptionsBy rules supply.name arguments fun options =>
    let mark : UInt8 := if options.has "0" then 0 else 10
    if options.operands.isEmpty then succeed (variableLines mark supply.environment)
    else
      let values := options.operands.map fun name =>
        if name.contains '=' then none else supply.environment.lookup name
      let given := values.filterMap fun value? => value?
      let bytes := joinRecords mark (given.map Text.Octets.toBytes)
      if values.all (·.isSome) then succeed bytes else fail 1 bytes []

end Runbook.Program.Tool
