import Runbook.Shell.Extended.Declaration
import Runbook.Shell.LineInput
import Runbook.Shell.Setting

/-!
# Settings of the extended language

The options and the arguments of a shell, and what new files may not have.
-/

namespace Runbook.Shell

namespace Session

open Extended

/-! ## Options -/

/-- Turn a setting on or off by its name, if there is one of that name. -/
def turnSetting? (session : Session) (on : Bool) (name : String) : Option Session :=
  (OptionName.settings.lookup name).map fun letter? =>
    match letter? with
    | some letter =>
      let others := session.switches.filter (· != letter)
      { session with switches := if on then letter :: others else others }
    | none =>
      let others := session.extras.filter (· != name)
      { session with extras := if on then name :: others else others }

/-- Turn a manner on or off by its name, if there is one of that name. -/
def turnManner? (session : Session) (on : Bool) (name : String) : Option Session :=
  if OptionName.manners.contains name then
    let others := session.extras.filter (· != name)
    some { session with extras := if on then name :: others else others }
  else none

/-- The row of an option in a table. -/
def optionRow (name : String) (isOn : Bool) : String :=
  let fill := String.ofList (List.replicate (15 - name.length) ' ')
  name ++ fill ++ "\t" ++ (if isOn then "on" else "off")

/-- Whether a setting is on. -/
def hasSetting (session : Session) (name : String) : Bool :=
  OptionName.isSettingOn session.switches session.extras name

/-- The line that tells whether a setting is on, in a table or as the command that turns it so. -/
def settingLine (session : Session) (asCommand : Bool) (name : String) : String :=
  let isOn := session.hasSetting name
  if asCommand then "set " ++ (if isOn then "-o " else "+o ") ++ name else optionRow name isOn

/-- The line that tells whether a manner is on. -/
def mannerLine (session : Session) (asCommand : Bool) (name : String) : String :=
  let isOn := session.extras.contains name
  if asCommand then "shopt " ++ (if isOn then "-s " else "-u ") ++ name else optionRow name isOn

/-- Write lines. -/
def sayLines (session : Session) (lines : List String) : Session := lines.foldl writeLine session

/-- Turn settings on or off by letters, and by names behind them: the session, or a complaint, and
the names that are left over. -/
def turnSettings (session : Session) (on : Bool) : List Char → (names : List String) →
    Except String Session × List String
  | [], names => (.ok session, names)
  | 'o' :: letters, [] =>
    turnSettings (session.sayLines
      ((OptionName.settings.map (·.1)).map (session.settingLine !on))) on letters []
  | 'o' :: letters, name :: names =>
    match session.turnSetting? on name with
    | some session => turnSettings session on letters names
    | none => (.error (name ++ ": invalid option name"), names)
  | letter :: letters, names =>
    if Switches.extendedLetters.contains letter then
      let others := session.switches.filter (· != letter)
      turnSettings { session with switches := if on then letter :: others else others } on letters
        names
    else
      (.error ((if on then "-" else "+") ++ String.ofList [letter] ++ ": invalid option"), names)

/-- Tell that an option is wrong. -/
def disputeSetting (session : Session) (text : String) : Session :=
  let told := (session.dispute "set" text).finish 2
  if text.endsWith "option" then told.misuse "set" else told

/-- Change the options or the arguments of the shell. -/
def changeSettings : (fuel : Nat) → (arguments : List String) → (session : Session) → Session
  | 0, _, session | _, [], session => session.finish 0
  | fuel + 1, first :: rest, session =>
    let turn (on : Bool) (letters : List Char) : Session :=
      match session.turnSettings on letters rest with
      | (.ok session, rest) => changeSettings fuel rest session
      | (.error text, _) => session.disputeSetting text
    match first.toList with
    | ['-', '-'] => (session.putArguments rest).finish 0
    | ['-'] =>
      let switches := session.switches.filter fun c => c != 'x' && c != 'v'
      let session := { session with switches := switches }
      (if rest.isEmpty then session else session.putArguments rest).finish 0
    | '-' :: letters => turn true letters
    | '+' :: letters => turn false letters
    | _ => (session.putArguments (first :: rest)).finish 0

/-- A variable with its value as a listing shows it. -/
def listingLine? (session : Session) (name : String) : Option String :=
  match session.tables.lookup name with
  | some table =>
    if session.hasTrait name '?' then none else some (name ++ "=" ++ tableText table)
  | none => (session.bindings.get? name).map fun value => name ++ "=" ++ Quotation.careful value

/-- Change the options or the arguments of the shell, or write its variables. -/
def setWords (session : Session) (arguments : List String) : Session :=
  if arguments.isEmpty then
    (session.sayLines (session.knownNames.filterMap session.listingLine?)).finish 0
  else changeSettings (arguments.length + 1) arguments session

/-- Turn manners on or off, or tell which are on. -/
def shopt (session : Session) (arguments : List String) : Session :=
  session.withChoices "shopt" "pqsuo" "" arguments fun options =>
    let names := options.operands
    let isQuiet := options.has 'q'
    let ofSettings := options.has 'o'
    let isOn (name : String) : Bool :=
      if ofSettings then session.hasSetting name else session.extras.contains name
    let all := if ofSettings then OptionName.settings.map (·.1) else OptionName.manners
    let line (name : String) : String :=
      if ofSettings then session.settingLine (options.has 'p') name
      else session.mannerLine (options.has 'p') name
    let wrong (session : Session) (name : String) : Session :=
      session.dispute "shopt" (name ++ if ofSettings then ": invalid option name"
        else ": invalid shell option name")
    if options.has 's' && options.has 'u' then
      session.dispute "shopt" "cannot set and unset shell options simultaneously"
    else if names.isEmpty then
      let chosen := if options.has 's' then all.filter isOn
        else if options.has 'u' then all.filter (!isOn ·) else all
      if isQuiet then session.finish 0 else (session.sayLines (chosen.map line)).finish 0
    else if options.has 's' || options.has 'u' then
      names.foldl (fun session name =>
        let turned := if ofSettings then session.turnSetting? (options.has 's') name
          else session.turnManner? (options.has 's') name
        turned.getD (wrong session name)) (session.finish 0)
    else
      names.foldl (fun session name =>
        if !all.contains name then wrong session name
        else
          let told := if isQuiet then session else session.writeLine (line name)
          if isOn name then told else told.finish 1) (session.finish 0)

/-! ## Arguments -/

/-- Drop arguments from the front. -/
def shiftWords (session : Session) (arguments : List String) : Session :=
  match arguments with
  | _ :: _ :: _ => session.drop "shift: too many arguments"
  | _ =>
    match arguments.head?.elim (some 1) wholeNumber? with
    | none => session.dispute "shift" (arguments.headD "" ++ ": numeric argument required")
    | some n =>
      if n < 0 then session.dispute "shift" (arguments.headD "" ++ ": shift count out of range")
      else if session.arguments.length < n then session.finish 1
      else { session with arguments := session.arguments.drop n.toNat, status := 0 }

/-- Look for the next option among arguments, and tell it in variables. -/
def findChoice (session : Session) (arguments : List String) : Session :=
  session.withChoices "getopts" "" "" arguments fun options =>
    match options.operands with
    | letters :: name :: rest =>
      let arguments := if rest.isEmpty then session.arguments else rest
      let (index, offset?) :=
        if arguments.length + 1 < session.walk.1 then (1, none) else session.walk
      let current := if 1 < index then (arguments.getD (index - 2) "").toList else []
      let left := offset?.elim [] fun offset => current.drop offset
      let isQuiet := letters.startsWith ":"
      let rules := if isQuiet then letters.toList.drop 1 else letters.toList
      let (finding, next, left) := Finding.search rules index left (arguments.drop (index - 1))
      let before := (arguments.getD (next - 2) "").length
      let isTold := !isQuiet && session.bindings.get? "OPTERR" != some "0"
      let tell (status : Nat) (letter : Char) (value? : Option String) (complaint : String) :
          Session :=
        let session := if complaint = "" || !isTold then session
          else session.writeComplaintLine (session.name ++ ": " ++ complaint)
        let session := match value? with
          | some value => session.store "OPTARG" value
          | none => session.forgetAll "OPTARG"
        let session := session.store "OPTIND" (Decimal.digitText next)
        let session := { session with
          walk := (next, if left.isEmpty then none else some (before - left.length)) }
        if !isName name then session.disputeName "getopts" name
        else
          let given := session.offer name none (String.ofList [letter])
          if given.status = 0 then given.finish status else given.finish 2
      match finding with
      | .none => tell 1 '?' none ""
      | .option letter value =>
        let takes := (Finding.rule? letter rules) == some true
        tell 0 letter (if takes then some value else none) ""
      | .unknown letter =>
        let text := String.ofList [letter]
        tell 0 '?' (if isQuiet then some text else none) ("illegal option -- " ++ text)
      | .valueMissing letter =>
        let text := String.ofList [letter]
        tell 0 (if isQuiet then ':' else '?') (if isQuiet then some text else none)
          ("option requires an argument -- " ++ text)
    | _ => session.misuse "getopts"

/-! ## Bounds -/

/-- Write which permissions new files do not have, or change that. -/
def maskWords (session : Session) (arguments : List String) : Session :=
  session.withChoices "umask" "pS" "" arguments fun options =>
    let octal :=
      let digits := String.ofList (Nat.toDigits 8 session.mask)
      Decimal.zeros (4 - digits.length) ++ digits
    match options.operands with
    | [] =>
      let text := if options.has 'S' then modeText (0o777 - session.mask) else octal
      let front := if !options.has 'p' then ""
        else if options.has 'S' then "umask -S " else "umask "
      (session.writeLine (front ++ text)).finish 0
    | text :: _ =>
      let chars := text.toList
      if chars.head?.any Char.isDigit then
        let isOctal := chars.all fun c => '0' ≤ c && c ≤ '7'
        let mask := chars.foldl (fun (n : Nat) c => n * 8 + (c.toNat - 48)) 0
        if isOctal && mask ≤ 0o777 then { session with mask := mask }.finish 0
        else session.dispute "umask" (text ++ ": octal number out of range")
      else
        match applyMode (chars.length + 1) (0o777 - session.mask) chars with
        | some mode => { session with mask := 0o777 - mode }.finish 0
        | none =>
          let operator := (chars.dropWhile "ugoa".toList.contains).headD ' '
          let kind := if ['+', '-', '='].contains operator then "character" else "operator"
          let wrong := if kind = "operator" then operator
            else (((chars.dropWhile "ugoa".toList.contains).drop 1).find?
              (!"rwxXst,".toList.contains ·)).getD operator
          session.dispute "umask"
            ("\x60" ++ String.ofList [wrong] ++ "': invalid symbolic mode " ++ kind)

/-- Write a bound for what the shell uses up. -/
def boundWords (session : Session) (arguments : List String) : Session :=
  session.withChoices "ulimit" "SHabcdefiklmnpqrstuvxPRT" "" arguments fun options =>
    match options.operands with
    | [] =>
      if options.has 'a' then session.finish 0
      else
        let text := if options.has 'c' then "0" else if options.has 's' then "8192"
          else if options.has 'p' then "8" else "unlimited"
        (session.writeLine text).finish 0
    | text :: _ =>
      if text = "unlimited" ∨ text = "hard" ∨ text = "soft" ∨ text.toList.all Char.isDigit then
        session.finish 0
      else session.dispute "ulimit" (text ++ ": invalid number")

end Session

end Runbook.Shell
