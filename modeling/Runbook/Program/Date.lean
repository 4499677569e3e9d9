import Runbook.Program.Date.Reader
import Runbook.Program.Lines

/-!
# Telling the time

A program that writes points in time in the form that it is given.
-/

namespace Runbook.Program

namespace Date

/-- What the clock of the machine shows. -/
def present : Moment := ⟨1767225600, 0⟩

/-- The zone that a variable names: letters, or other signs in angle brackets, and by how much
clocks are behind. -/
def zoneOf (text : String) : Zone :=
  let chars := if text.startsWith ":" then text.toList.drop 1 else text.toList
  let (name, rest) := match chars with
    | '<' :: rest => (rest.takeWhile (· != '>'), (rest.dropWhile (· != '>')).drop 1)
    | chars => (chars.takeWhile Char.isAlpha, chars.dropWhile Char.isAlpha)
  let (isAhead, rest) := match rest with
    | '-' :: rest => (true, rest)
    | '+' :: rest => (false, rest)
    | rest => (false, rest)
  let clock := rest.takeWhile fun c => c.isDigit || c == ':'
  let parts := (clock.splitOn ':').map fun digits => (Decimal.readNatural 1000 digits).getD 0
  let seconds := parts.getD 0 0 * 3600 + parts.getD 1 0 * 60 + parts.getD 2 0
  if chars.isEmpty then ⟨"UTC", 0⟩
  else if name.length < 3 then ⟨"UTC", 0⟩
  else ⟨String.ofList name, if isAhead then seconds else -seconds⟩

/-- The usual form. -/
def usualForm : String := "%a %b %e %H:%M:%S %Z %Y"

/-- The forms of one standard by their names. -/
def dayForms : List (String × String) :=
  [("hours", "%Y-%m-%dT%H%:z"), ("minutes", "%Y-%m-%dT%H:%M%:z"), ("date", "%Y-%m-%d"),
    ("seconds", "%Y-%m-%dT%H:%M:%S%:z"), ("ns", "%Y-%m-%dT%H:%M:%S,%N%:z")]

/-- The forms of another standard by their names. -/
def lineForms : List (String × String) :=
  [("date", "%Y-%m-%d"), ("seconds", "%Y-%m-%d %H:%M:%S%:z"), ("ns", "%Y-%m-%d %H:%M:%S.%N%:z")]

/-- The form of messages. -/
def messageForm : String := "%a, %d %b %Y %H:%M:%S %z"

/-- A form by the beginning of its name, or the complaint that there is none. -/
def formNamed (program option : String) (forms : List (String × String)) (name : String) :
    Except (List String) String :=
  match forms.lookup name, forms.filter (·.1.startsWith name) with
  | some form, _ | none, [(_, form)] => .ok form
  | none, _ =>
    .error ([program ++ ": invalid argument " ++ Mention.marked name ++ " for "
      ++ Mention.marked option, "Valid arguments are:"] ++ forms.map (fun form => "  - " ++ Mention.marked form.1)
      ++ [Tool.helpHint program])

/-- The forms that options ask for. -/
def askedForms (program : String) (options : Options) : Except (List String) (List String) := do
  let days ← (options.given.filter (·.1 == "I")).mapM fun (_, name?) =>
    formNamed program "--iso-8601" dayForms (name?.getD "date")
  let lines ← (options.values "rfc-3339").mapM (formNamed program "--rfc-3339" lineForms)
  let messages := (options.given.filter fun (key, _) =>
    ["R", "rfc-email", "rfc-2822", "rfc-822"].contains key).map fun _ => messageForm
  return days ++ lines ++ messages

/-- Write a point in time, or points described in lines, in a form. -/
def tell (supply : Supply) (options : Options) (zone : Zone) (form : String) : Run :=
  let shown (moment : Moment) : List UInt8 :=
    Text.Octets.toBytes (text (.ofMoment moment zone) form ++ "\n")
  let invalid (text : String) : String := supply.name ++ ": invalid date " ++ Mention.marked text
  let showAll (texts : List String) : Run :=
    let answers := texts.map fun text => (text, readMoment present zone text)
    Tool.concludeWith 1 (answers.map fun (text, moment?) =>
      moment?.elim (Tool.told (invalid text)) fun moment => Tool.shown (shown moment))
  match options.value? "d", options.value? "f", options.value? "r", options.value? "s" with
  | some text, none, none, none => showAll [text]
  | none, some path, none, none =>
    match Tool.supplied supply path with
    | .ok bytes => showAll ((Tool.bareLines bytes).map Text.Octets.ofBytes)
    | .error cause =>
      Tool.fail 1 [] [supply.name ++ ": " ++ Mention.shellWord path ++ ": " ++ Tool.reason cause]
  | none, none, some path, none =>
    match supply.around.tree.find supply.around.directory path with
    | .ok _ => Tool.succeed (shown present)
    | .error cause =>
      Tool.fail 1 [] [supply.name ++ ": " ++ Mention.shellWord path ++ ": " ++ Tool.reason cause]
  | none, none, none, some text =>
    match readMoment present zone text with
    | some moment =>
      Tool.fail 1 (shown moment) [supply.name ++ ": cannot set date: Operation not permitted"]
    | none => Tool.fail 1 [] [invalid text]
  | none, none, none, none => Tool.succeed (shown present)
  | _, _, _, _ =>
    Tool.refuse supply.name "the options to specify dates for printing are mutually exclusive"

end Date

/-- Tell the time. -/
def Tool.date : Tool := fun arguments supply =>
  let table := "d|date: |debug f|file: I|iso-8601? R|rfc-email |rfc-822 |rfc-2822 |rfc-3339: "
    ++ "r|reference: s|set: u|utc |uct |universal |resolution"
  withOptions supply.name table arguments fun options =>
    let isUniversal := options.has "u" || options.has "uct" || options.has "universal"
    let zone := if isUniversal then ⟨"UTC", 0⟩
      else Date.zoneOf ((supply.environment.lookup "TZ").getD "")
    let isDated := ["d", "f", "r", "s"].any options.has
    match Date.askedForms supply.name options, options.operands with
    | .error complaints, _ => fail 1 [] complaints
    | .ok _, _ :: extra :: _ => refuse supply.name (extraOperand extra)
    | .ok (_ :: _ :: _), _ => fail 1 [] [supply.name ++ ": multiple output formats specified"]
    | .ok [form], [] => Date.tell supply options zone form
    | .ok [], [] => Date.tell supply options zone Date.usualForm
    | .ok forms, [operand] =>
      if operand.startsWith "+" then
        if forms.isEmpty then
          Date.tell supply options zone (String.ofList (operand.toList.drop 1))
        else fail 1 [] [supply.name ++ ": multiple output formats specified"]
      else if isDated then
        fail 1 []
          [supply.name ++ ": the argument " ++ Mention.marked operand ++ " lacks a leading '+';",
          "when using an option to specify date(s), any non-option",
          "argument must be a format string beginning with '+'",
          helpHint supply.name]
      else fail 1 [] [supply.name ++ ": invalid date " ++ Mention.marked operand]

end Runbook.Program
