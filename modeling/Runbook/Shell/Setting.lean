import Runbook.Shell.LineInput

/-!
# Declarations and settings

What a script changes in the shell that runs it: the marks of its variables, its options and its
arguments, and the permissions of new files.
-/

namespace Runbook.Shell

/-! ## Declarations

Commands that mark variables: programs see them, they keep their values, or they belong to the
function that runs. -/

namespace Session

/-- The name and the value of an argument with an equality sign. -/
def splitEquality (text : String) : String × Option String :=
  match text.toList.span (· != '=') with
  | (name, _ :: value) => (String.ofList name, some (String.ofList value))
  | _ => (text, none)

/-- Do something with each name in some arguments, and give those variables values that stand with
them. -/
def declare (session : Session) (command : String) (arguments : List String)
    (mark : Session → String → Session) : Session :=
  (arguments.foldl (fun session argument =>
    if !session.isOn then session
    else
      let (name, value) := splitEquality argument
      if !isName name then session.refuse command (name ++ ": bad variable name")
      else
        match value with
        | some value => mark (session.assign name value) name
        | none => mark session name) (session.finish 0)).finish 0

/-- Write variables in the form in which they are declared, in the order of their names. -/
def listVariables (session : Session) (front : String) (names : List String) : Session :=
  (names.eraseDups.mergeSort.map fun name =>
    match session.bindings.get? name with
    | some value => front ++ name ++ "=" ++ quotedText value
    | none => front ++ name).foldl writeLine session

/-- Mark variables, or write those that are marked if there are no names. -/
def declareOrList (session : Session) (command : String) (marked : List String)
    (arguments : List String) (mark : Session → String → Session) : Session :=
  session.withOptions command "p" "" arguments fun options =>
    if options.has 'p' || options.operands.isEmpty then
      (session.listVariables (command ++ " ") marked).finish 0
    else session.declare command options.operands mark

/-- Let programs see variables. -/
def exportAll (session : Session) (arguments : List String) : Session :=
  session.declareOrList "export" session.exported arguments fun session name =>
    { session with exported := name :: session.exported }

/-- Let variables keep their values. -/
def fixAll (session : Session) (arguments : List String) : Session :=
  session.declareOrList "readonly" session.fixed arguments fun session name =>
    { session with fixed := name :: session.fixed }

/-- Make variables those of the function that runs. -/
def localAll (session : Session) (arguments : List String) : Session :=
  match session.locals? with
  | none => session.giveUp 2 "local: not in a function"
  | some locals =>
    match (arguments.map fun argument => (splitEquality argument).1).find? (!isName ·) with
    | some name => session.giveUp 2 ("local: " ++ name ++ ": bad variable name")
    | none =>
      let names := arguments.map fun argument => (splitEquality argument).1
      let saved := names.map session.kept
      { session with locals? := some (saved.reverse ++ locals) }.declare "local" arguments
        fun session _ => session

/-- Forget variables or functions. -/
def unset (session : Session) (arguments : List String) : Session :=
  session.withOptions "unset" "fv" "" arguments fun options =>
    let names := options.operands
    if options.has 'f' then
      { session with
        functions := session.functions.filter fun (name, _) => !names.contains name
        status := 0 }
    else
      match names.find? session.fixed.contains, names.find? (!isName ·) with
      | some name, _ => session.refuse "unset" (name ++ ": is read only")
      | none, some name => session.refuse "unset" (name ++ ": bad variable name")
      | none, none =>
        let session := if names.contains "OPTIND" then session.resetWalk "OPTIND" "1" else session
        { session with
          bindings := session.bindings.filter fun (name, _) => !names.contains name
          exported := session.exported.filter (!names.contains ·)
          status := 0 }

end Session

/-! ## Settings

The options and the arguments of a shell, and the permissions that new files do not have. -/

namespace Session

/-- Write which options are on, in a table or as the commands that turn them on or off. -/
def listSettings (session : Session) (asCommands : Bool) : Session :=
  let rows := Switches.named.map fun (name, letter) =>
    let isOn := session.switches.contains letter
    if asCommands then "set " ++ (if isOn then "-o " else "+o ") ++ name
    else
      let fill := String.ofList (List.replicate (16 - name.length) ' ')
      name ++ fill ++ (if isOn then "on" else "off")
  let title := if asCommands then [] else ["Current option settings"]
  (title ++ rows).foldl writeLine session

/-- Turn options on or off by their letters, and by the names that stand behind the letters: the
names that are left over. -/
def turnLetters (session : Session) (on : Bool) :
    List Char → (names : List String) → Session × List String
  | [], names => (session, names)
  | 'o' :: letters, [] => turnLetters (session.listSettings !on) on letters []
  | 'o' :: letters, name :: names =>
    match Switches.named.lookup name with
    | some letter =>
      let switches := (session.switches.turn on [letter]).toOption.getD session.switches
      turnLetters { session with switches := switches } on letters names
    | none => (session.refuse "set" ("Illegal option -o " ++ name), names)
  | letter :: letters, names =>
    match session.switches.turn on [letter] with
    | .ok switches => turnLetters { session with switches := switches } on letters names
    | .error letter => (session.refuse "set" ("Illegal option -" ++ String.ofList [letter]), names)

/-- Give the shell other arguments. -/
def putArguments (session : Session) (arguments : List String) : Session :=
  { session with arguments := arguments, walk := (1, none) }

/-- Change the options or the arguments of the shell. -/
def setAll : (fuel : Nat) → (arguments : List String) → (session : Session) → Session
  | 0, _, session | _, [], session => session.finish 0
  | fuel + 1, first :: rest, session =>
    match first.toList with
    | ['-', '-'] => (session.putArguments rest).finish 0
    | ['-'] =>
      let switches := session.switches.filter fun c => c != 'x' && c != 'v'
      let session := { session with switches := switches }
      (if rest.isEmpty then session else session.putArguments rest).finish 0
    | '-' :: letters =>
      let (session, rest) := session.turnLetters true letters rest
      if session.isOn then setAll fuel rest session else session
    | '+' :: letters =>
      let (session, rest) := session.turnLetters false letters rest
      if session.isOn then setAll fuel rest session else session
    | _ => (session.putArguments (first :: rest)).finish 0

/-- Change the options or the arguments of the shell, or write its variables. -/
def set (session : Session) (arguments : List String) : Session :=
  if arguments.isEmpty then
    (session.listVariables "" (session.bindings.map (·.1))).finish 0
  else setAll (arguments.length + 1) arguments session

/-! ## Permissions -/

/-- The permissions of the owner, the group and the others, each with its letter and its weight. -/
def holders : List (Char × Nat) := [('u', 64), ('g', 8), ('o', 1)]

/-- The weight of a permission by its letter, among those of one holder. -/
def permission? (c : Char) : Option Nat :=
  [('r', 4), ('w', 2), ('x', 1), ('X', 0), ('s', 0), ('t', 0)].lookup c

/-- Change the permissions of some holders: add bits, take them away, or put them in place of all
others. -/
def changeMode (holders : List Nat) (operation : Char) (bits mode : Nat) : Nat :=
  holders.foldl (fun mode weight =>
    let old := mode / weight % 8
    let new := if operation = '+' then old ||| bits
      else if operation = '-' then old - (old &&& bits) else bits
    mode - old * weight + new * weight) mode

/-- Carry out changes of permissions for some holders, up to a comma: the mode, and what is left. -/
def applyClause (holdersOf : List Nat) : (fuel mode : Nat) → List Char →
    Option (Nat × List Char)
  | 0, _, _ => none
  | _ + 1, mode, [] => some (mode, [])
  | _ + 1, mode, ',' :: rest => if rest.isEmpty then none else some (mode, rest)
  | fuel + 1, mode, operation :: rest =>
    if !(['+', '-', '='].contains operation) then none
    else
      match rest with
      | c :: behind =>
        match holders.lookup c with
        | some weight =>
          applyClause holdersOf fuel (changeMode holdersOf operation (mode / weight % 8) mode)
            behind
        | none =>
          let letters := rest.takeWhile fun c => (permission? c).isSome
          let bits := letters.foldl (fun bits c =>
            if c = 'X' then (if mode &&& 0o111 = 0 then bits else bits ||| 1)
            else bits ||| (permission? c).getD 0) 0
          applyClause holdersOf fuel (changeMode holdersOf operation bits mode)
            (rest.drop letters.length)
      | [] => applyClause holdersOf fuel (changeMode holdersOf operation 0 mode) []

/-- Carry out changes of permissions that are written with letters. -/
def applyMode : (fuel mode : Nat) → List Char → Option Nat
  | 0, _, _ => none
  | fuel + 1, mode, chars =>
    let front := chars.takeWhile fun c => c == 'a' || (holders.lookup c).isSome
    let named := if front.isEmpty || front.contains 'a' then holders
      else holders.filter fun (c, _) => front.contains c
    match chars.drop front.length with
    | [] => if front.isEmpty then none else some mode
    | rest =>
      match applyClause (named.map (·.2)) (rest.length + 1) mode rest with
      | some (mode, []) => some mode
      | some (mode, rest) => applyMode fuel mode rest
      | none => none

/-- The letters of permissions that are not taken away. -/
def modeText (mode : Nat) : String :=
  ",".intercalate (holders.map fun (c, weight) =>
    let bits := mode / weight % 8
    let letters := [('r', 4), ('w', 2), ('x', 1)].filter fun (_, bit) => bits / bit % 2 == 1
    String.ofList (c :: '=' :: letters.map (·.1)))

/-- Write which permissions new files do not have, or change that. -/
def umask (session : Session) (arguments : List String) : Session :=
  session.withOptions "umask" "S" "" arguments fun options =>
    match options.operands with
    | [] =>
      let text := if options.has 'S' then modeText (0o777 - session.mask)
        else
          let digits := String.ofList (Nat.toDigits 8 session.mask)
          Decimal.zeros (4 - digits.length) ++ digits
      (session.writeLine text).finish 0
    | text :: _ =>
      let chars := text.toList
      if chars.head?.any Char.isDigit then
        if chars.all fun c => '0' ≤ c && c ≤ '7' then
          let mask := chars.foldl (fun (n : Nat) c => n * 8 + (c.toNat - 48)) 0
          { session with mask := mask % 0o1000 }.finish 0
        else session.refuse "umask" ("Illegal number: " ++ text)
      else if chars.isEmpty then session.finish 0
      else
        match applyMode (chars.length + 1) (0o777 - session.mask) chars with
        | some mode => { session with mask := 0o777 - mode }.finish 0
        | none => session.refuse "umask" ("Illegal mode: " ++ text)

/-- Write a bound for what the shell uses up; there is none. -/
def ulimit (session : Session) (arguments : List String) : Session :=
  session.withOptions "ulimit" "HSatfdscmlpnvwr" "" arguments fun options =>
    let session := session.finish 0
    if options.operands.isEmpty && !options.has 'a' then
      session.writeLine (if options.has 'c' then "0" else "unlimited")
    else session

end Session

end Runbook.Shell
