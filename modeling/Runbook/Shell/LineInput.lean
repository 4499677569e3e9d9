import Runbook.Shell.OwnOption

/-!
# Lines and options that a script takes in

What a script takes from its input, line by line, and from its arguments, option by option.
-/

namespace Runbook.Shell

/-! ## Lines of the input

A line that is read is divided into fields, one for each variable. -/

namespace Session

/-- A character of a line, and whether it was protected from separating fields. -/
abbrev LineChar := Bool × Char

/-- The characters of a line of the input, and what stands behind it. A backslash protects the
character behind it, and joins lines, unless lines are taken as they are. -/
def lineChars (raw : Bool) : List UInt8 → List LineChar × Option (List UInt8)
  | [] => ([], none)
  | 10 :: rest => ([], some rest)
  | 92 :: byte :: rest =>
    if raw then
      let (line, behind) := lineChars raw (byte :: rest)
      ((false, '\\') :: line, behind)
    else
      let (line, behind) := lineChars raw rest
      (if byte = 10 then line else (true, Text.Octets.char byte) :: line, behind)
  | byte :: rest =>
    let (line, behind) := lineChars raw rest
    ((false, Text.Octets.char byte) :: line, behind)

/-- Whether a separator is white space, of which any number separates like one. -/
def isSpace (c : Char) : Bool := c == ' ' || c == '\t' || c == '\n'

/-- Whether a character of a line separates fields. -/
def separates (separators : List Char) (c : LineChar) : Bool := !c.1 && separators.contains c.2

/-- Whether a character of a line separates fields as white space. -/
def separatesAsSpace (separators : List Char) (c : LineChar) : Bool :=
  separates separators c && isSpace c.2

/-- The first field of a line, and the line behind the separators that end it. -/
def firstField (separators : List Char) (line : List LineChar) : List LineChar × List LineChar :=
  let (field, rest) := line.span (!separates separators ·)
  let rest := rest.dropWhile (separatesAsSpace separators)
  match rest with
  | c :: behind =>
    (field, if separates separators c then behind.dropWhile (separatesAsSpace separators) else rest)
  | [] => (field, [])

/-- The rest of a line that is taken as a whole: without the white space at its end, and as a field
if there is nothing behind one. -/
def lastField (separators : List Char) (line : List LineChar) : List LineChar :=
  let (field, rest) := firstField separators line
  if rest.isEmpty then field
  else (line.reverse.dropWhile (separatesAsSpace separators)).reverse

/-- Give fields to variables; the last variable takes all that is left. -/
def assignFields (separators : List Char) (session : Session) :
    (names : List String) → (line : List LineChar) → Session
  | [], _ => session
  | [name], line =>
    session.assign name (String.ofList ((lastField separators line).map (·.2)))
  | name :: names, line =>
    let (field, rest) := firstField separators line
    assignFields separators (session.assign name (String.ofList (field.map (·.2)))) names rest

/-- Whether a text is the name of a variable. -/
def isName (text : String) : Bool :=
  match text.toList with
  | c :: rest => Token.isNameStart c && rest.all Token.isNameChar
  | [] => false

/-- Read a line of the input into variables. -/
def readLine (session : Session) (arguments : List String) : Session :=
  session.withOptions "read" "r" "p" arguments fun options =>
    let names := options.operands
    match names.find? (!isName ·) with
    | some name => session.refuse "read" (name ++ ": bad variable name")
    | none =>
      if names.isEmpty then session.refuse "read" "arg count"
      else
        let (line, behind) := lineChars (options.has 'r') session.input.bytes
        let rest := behind.getD []
        let separators := session.separators
        let line := line.dropWhile (separatesAsSpace separators)
        let input := { session.input with bytes := rest }
        (assignFields separators { session with input := input } names line).finish
          (if behind.isNone then 1 else 0)

end Session

/-! ## The search for options

A script looks for one option after the other among its arguments. The session remembers how far it
has come. -/

/-- What a search for an option finds. -/
inductive Finding where
  /-- There are no more options. -/
  | none
  | option (letter : Char) (value : String)
  | unknown (letter : Char)
  | valueMissing (letter : Char)
deriving DecidableEq, Repr, Inhabited

namespace Finding

/-- What is known of a letter: nothing, or whether it needs a value. -/
def rule? (letter : Char) : List Char → Option Bool
  | [] => Option.none
  | c :: ':' :: rest => if c = letter then some true else rule? letter rest
  | c :: rest => if c = letter then some false else rule? letter rest

/-- Look for the next option, given the letters that are left of an argument, and the arguments
behind it, the first of which has a number. The result tells where the search goes on. -/
def search (letters : List Char) (index : Nat) (left : List Char) (rest : List String) :
    Finding × Nat × List Char :=
  let opened : Option (List Char × Nat × List String) := match left, rest with
    | c :: left, rest => some (c :: left, index, rest)
    | [], argument :: rest =>
      match argument.toList with
      | '-' :: c :: chars =>
        if c = '-' ∧ chars.isEmpty then Option.none else some (c :: chars, index + 1, rest)
      | _ => Option.none
    | [], [] => Option.none
  match opened, rest.head? with
  | some (letter :: left, index, rest), _ =>
    match rule? letter letters, left, rest with
    | Option.none, left, _ => (.unknown letter, index, left)
    | some false, left, _ => (.option letter "", index, left)
    | some true, [], [] => (.valueMissing letter, index, [])
    | some true, [], value :: _ => (.option letter value, index + 1, [])
    | some true, value, _ => (.option letter (String.ofList value), index, [])
  | _, some "--" => (.none, index + 1, [])
  | _, _ => (.none, index, [])

end Finding

namespace Session

/-- Forget the value of a variable. -/
def forget (session : Session) (name : String) : Session :=
  { session with bindings := session.bindings.filter (·.1 != name) }

/-- Look for the next option among arguments, and tell it in variables. -/
def findOption (session : Session) (arguments : List String) : Session :=
  session.withOptions "getopts" "" "" arguments fun options =>
    match options.operands with
    | letters :: name :: rest =>
      let arguments := if rest.isEmpty then session.arguments else rest
      let (index, offset?) :=
        if arguments.length + 1 < session.walk.1 then (1, none) else session.walk
      let current := if 1 < index then (arguments.getD (index - 2) "").toList else []
      let left := offset?.elim [] fun offset => current.drop offset
      let (finding, next, left) :=
        Finding.search letters.toList index left (arguments.drop (index - 1))
      let before := (arguments.getD (next - 2) "").length
      let quiet := letters.startsWith ":"
      let tell (status : Nat) (letter : Char) (value? : Option String) (complaint : String) :
          Session :=
        let session := if complaint = "" then session else session.writeComplaintLine complaint
        let session := match value? with
          | some value => session.assign "OPTARG" value
          | none => session.forget "OPTARG"
        let session := session.assign "OPTIND" (Decimal.digitText next)
        let session := { session with
          walk := (next, if left.isEmpty then none else some (before - left.length))
          status := status }
        if isName name then session.assign name (String.ofList [letter])
        else session.refuse "getopts" (name ++ ": bad variable name")
      match finding with
      | .none => tell 1 '?' (session.bindings.get? "OPTARG") ""
      | .option letter value => tell 0 letter (some value) ""
      | .unknown letter =>
        let text := String.ofList [letter]
        if quiet then tell 0 '?' (some text) "" else tell 0 '?' none ("Illegal option -" ++ text)
      | .valueMissing letter =>
        let text := String.ofList [letter]
        if quiet then tell 0 ':' (some text) ""
        else tell 0 '?' none ("No arg for -" ++ text ++ " option")
    | _ => session.refuse "getopts" "Usage: getopts optstring var [arg...]"

end Session

end Runbook.Shell
