import Runbook.Program.Date
import Runbook.Program.Rule.World

/-!
# Carrying out rules

Expressions as values, and statements as changes of the world of a script.
-/

namespace Runbook.Program.Rule

/-- How a statement ends. -/
inductive Flow where
  | on
  | broken
  | continued
  | nextRecord
  | nextFile
  | returned (value : Value)
deriving Inhabited

/-- The remainder of a division that rounds towards zero, with the sign of the first number. -/
def remainder (x y : Float) : Float :=
  match realOf x, realOf y with
  | .finite negative a, .finite _ b =>
    if b.isZero then 0.0 / 0.0
    else
      let rest := (a.numerator * b.denominator) % (b.numerator * a.denominator)
      floatOf negative ⟨rest, a.denominator * b.denominator⟩
  | .finite _ _, .infinite _ => x
  | _, _ => 0.0 / 0.0

/-- The result of an operation. -/
def Operation.apply : Operation → Float → Float → Float
  | .add, x, y => x + y
  | .subtract, x, y => x - y
  | .multiply, x, y => x * y
  | .divide, x, y => x / y
  | .modulo, x, y => remainder x y
  | .power, x, y => x.pow y

/-- A condition as a value. -/
def Value.ofBool (condition : Bool) : Value := .number (if condition then 1.0 else 0.0)

/-- A count as a value. -/
def Value.ofNat (n : Nat) : Value := .number (Float.ofNat n)

/-- A number without its part behind the point. -/
def truncated (x : Float) : Float := if x < 0.0 then x.ceil else x.floor

/-- The characters of a text from a place on, which is counted from one, and at most so many. -/
def portion (text : String) (first : Int) (count? : Option Int) : String :=
  let size : Int := text.length
  let behind := match count? with
    | some count => min (first + count) (size + 1)
    | none => size + 1
  let first := max first 1
  String.ofList ((text.toList.drop (first - 1).toNat).take (behind - first).toNat)

/-- The place of a text in another one, counted from one, or zero. -/
def placeOf (text part : List Char) : (index : Nat) → Nat
  | index =>
    match text with
    | [] => if part.isEmpty then index else 0
    | c :: rest => if part.isPrefixOf (c :: rest) then index else placeOf rest part (index + 1)

/-- A replacement of a text that was matched. -/
def replacementOf (found : List Char) : List Char → List Char
  | [] => []
  | '\\' :: '&' :: rest => '&' :: replacementOf found rest
  | '\\' :: '\\' :: rest => '\\' :: replacementOf found rest
  | '&' :: rest => found ++ replacementOf found rest
  | c :: rest => c :: replacementOf found rest

/-- A text with replacements for what was matched. -/
def replaceAll (replacement : List Char) : (index : Nat) → List Char → List Regex.Match → List Char
  | _, chars, [] => chars
  | index, chars, found :: later =>
    chars.take (found.first - index) ++ replacementOf found.chars replacement
      ++ replaceAll replacement (found.first + found.chars.length)
        (chars.drop (found.first - index + found.chars.length)) later

/-- The next number of a sequence that looks random. -/
def nextRandom (state : Nat) : Nat := state * 48271 % 2147483647

/-- The point in time that six numbers say, in seconds. -/
def secondsOf? (text : String) : Option Int :=
  let numbers := ((text.toList.splitOn ' ').filter (!·.isEmpty)).map fun digits =>
    integerOf (-2 ^ 31) (2 ^ 31) (numberOf (String.ofList digits))
  match numbers with
  | year :: month :: day :: hour :: minute :: second :: _ =>
    some (Date.dayNumber year month day * 86400 + hour * 3600 + minute * 60 + second)
  | _ => none

/-- A place that can be given a value. -/
inductive Target where
  | name (name : Name)
  | element (table : Nat) (key : String) (isText : Bool)
  | field (index : Float)
deriving Inhabited

namespace Step

variable {σ : Type}

/-- The value at a place. -/
def valueAt : Target → Step σ Value
  | .name name => value name
  | .element number key isText => element number key isText
  | .field index => field index

/-- Give a place a value. -/
def setValueAt (target : Target) (value : Value) : Step σ Unit :=
  match target with
  | .name name => setValue name value
  | .element number key isText => modifyTable number (·.insert key isText value)
  | .field index => setField index value

/-- Keep values waiting while something is evaluated. -/
def holding {α : Type} (count : Nat) (action : Step σ α) : Step σ α := do
  if mostValues < (← get).depth + count then
    fail "program limit exceeded: eval stack size=1024"
  modify fun world => { world with depth := world.depth + count }
  let result ← action
  modify fun world => { world with depth := world.depth - count }
  return result

/-- The key of an element for one value, and whether it is a text. -/
def keyOf (value : Value) : Step σ (String × Bool) := do
  match value with
  | .number x =>
    match whole? x with
    | some n => return (toString n, false)
    | none => return (← textOf value, true)
  | value => return (← textOf value, true)

/-- The text of a value that is written. -/
def writtenText (value : Value) : Step σ String := do
  match value with
  | .number x =>
    match whole? x with
    | some n => return toString n
    | none => return numberText (← setting "OFMT") x
  | value => textOf value

/-- Write values in a format. -/
def formatted (name : String) (values : List Value) : Step σ (List UInt8) := do
  match values with
  | [] => return []
  | format :: values =>
    let form ← textOf format
    let numberForm ← setting "CONVFMT"
    match writeFormat (·.toText numberForm) (form.length + 1) 0 form.toList values with
    | (bytes, none) => return bytes
    | (_, some .missingArgument) =>
      failRunning ("not enough arguments passed to " ++ name ++ "(\"" ++ form ++ "\")")
    | (_, some (.unknown number)) =>
      failRunning ("improper conversion(number " ++ Decimal.digitText number ++ ") in " ++ name
        ++ "(\"" ++ form ++ "\")")

/-- Close what has a name. -/
def close (name : String) : Step σ Value := do
  let world ← get
  match world.outlets.find? fun outlet => outlet.name == name,
    world.inlets.find? fun inlet => inlet.name == name with
  | some outlet, _ => return .ofNat (← closeOutlet outlet)
  | none, some inlet =>
    set { world with inlets := world.inlets.filter fun other => other.name != name }
    return .ofNat inlet.status
  | none, none => return .number (-1.0)

/-- Run a command, and take what it writes as output. -/
def system (command : String) : Step σ Value := do
  flush
  let run ← runCommand command .none
  takeRun run true
  return .ofNat (statusOf run)

/-- The value of a built-in function. -/
def builtin (name : String) (values : List Value) : Step σ Value := do
  let number (index : Nat) : Float := (values.getD index .missing).toNumber
  let text (index : Nat) : Step σ String := textOf (values.getD index .missing)
  let word (index : Nat) : Int := integerOf (-2 ^ 31) (2 ^ 31) (number index)
  match name with
  | "length" => return .ofNat (← text 0).length
  | "substr" =>
    return .text (portion (← text 0) (word 1) (if values.length = 3 then some (word 2) else none))
  | "index" => return .ofNat (placeOf (← text 0).toList (← text 1).toList 1)
  | "sprintf" => return .text (Text.Octets.ofBytes (← formatted "sprintf" values))
  | "sin" => return .number (number 0).sin
  | "cos" => return .number (number 0).cos
  | "atan2" => return .number (Float.atan2 (number 0) (number 1))
  | "exp" => return .number (number 0).exp
  | "log" => return .number (number 0).log
  | "sqrt" => return .number (number 0).sqrt
  | "int" => return .number (truncated (number 0))
  | "tolower" => return .text ((← text 0).map Char.toLower)
  | "toupper" => return .text ((← text 0).map Char.toUpper)
  | "rand" =>
    let world ← get
    let random := nextRandom world.random
    set { world with random := random }
    return .number (Float.ofNat random / 2147483647.0)
  | "srand" =>
    let world ← get
    let seed := if values.isEmpty then Float.ofInt Date.present.seconds else number 0
    set { world with
      seed := seed
      random := (integerOf 0 (2 ^ 31) seed).toNat * 2 % 2147483646 + 1 }
    return .number world.seed
  | "system" => system (← text 0)
  | "close" => close (← text 0)
  | "fflush" =>
    flush
    return .number 0.0
  | "systime" => return .number (Float.ofInt Date.present.seconds)
  | "mktime" => return .number (Float.ofInt ((secondsOf? (← text 0)).getD (-1)))
  | "strftime" =>
    let form ← if values.isEmpty then pure "%c" else text 0
    let seconds := if values.length < 2 then Date.present.seconds
      else integerOf (-2 ^ 62) (2 ^ 62) (number 1)
    return .text (Date.text (.ofMoment ⟨seconds, 0⟩ ⟨"UTC", 0⟩) form)
  | _ => return .missing

end Step

mutual

/-- The value of an expression. -/
def evaluate {σ : Type} (script : Script) : (fuel : Nat) → Expression → Step σ Value
  | 0, _ => throw .endless
  | fuel + 1, expression => do
    match expression with
    | .number x => return .number x
    | .text text => return .text text
    | .group body => evaluate script fuel body
    | .pattern regex => return .ofBool (regex.occursIn (← get).record.text.toList)
    | .variable name => Step.value name
    | .element array index =>
      let (key, isText) ← evaluateKey script fuel index
      Step.element (← Step.tableOf array) key isText
    | .field index => Step.field (← evaluate script fuel index).toNumber
    | .assign operation? place body =>
      let target ← locate script fuel place
      let value ← Step.holding 1 (evaluate script fuel body)
      let value ← match operation? with
        | none => pure value
        | some operation =>
          pure (.number (operation.apply (← Step.valueAt target).toNumber value.toNumber))
      Step.setValueAt target value
      return value
    | .count isBefore up place =>
      let target ← locate script fuel place
      let before := (← Step.valueAt target).toNumber
      let behind := if up then before + 1.0 else before - 1.0
      Step.setValueAt target (.number behind)
      return .number (if isBefore then behind else before)
    | .choose condition yes no =>
      if (← evaluate script fuel condition).isTrue then evaluate script fuel yes
      else evaluate script fuel no
    | .both first second =>
      if (← evaluate script fuel first).isTrue then
        return .ofBool (← evaluate script fuel second).isTrue
      return .ofBool false
    | .either first second =>
      if (← evaluate script fuel first).isTrue then return .ofBool true
      return .ofBool (← evaluate script fuel second).isTrue
    | .negation body => return .ofBool (!(← evaluate script fuel body).isTrue)
    | .member index array =>
      let (key, _) ← evaluateKey script fuel index
      let table ← Step.table (← Step.tableOf array)
      return .ofBool (table.elements.contains key)
    | .matching negated subject pattern =>
      let text ← Step.textOf (← evaluate script fuel subject)
      let regex ← evaluatePattern script fuel pattern
      return .ofBool (regex.occursIn text.toList != negated)
    | .compare relation left right =>
      let first ← evaluate script fuel left
      let second ← Step.holding 1 (evaluate script fuel right)
      return .ofBool (relation.holds (first.order (← Step.format) second))
    | .joined left right =>
      let first ← Step.textOf (← evaluate script fuel left)
      let second ← Step.textOf (← Step.holding 1 (evaluate script fuel right))
      return .text (first ++ second)
    | .operation operation left right =>
      let first ← evaluate script fuel left
      let second ← Step.holding 1 (evaluate script fuel right)
      return .number (operation.apply first.toNumber second.toNumber)
    | .opposite body => return .number (-(← evaluate script fuel body).toNumber)
    | .numeric body => return .number (← evaluate script fuel body).toNumber
    | .call name given => call script fuel name given
    | .builtin "match" given =>
      match given with
      | [subject, pattern] =>
        let text ← Step.textOf (← evaluate script fuel subject)
        let regex ← evaluatePattern script fuel pattern
        let (place, size) : Float × Float := match regex.search? false (.start text.toList) with
          | some found => (Float.ofNat (found.first + 1), Float.ofNat found.chars.length)
          | none => (0.0, -1.0)
        Step.setValue (.shared "RSTART") (.number place)
        Step.setValue (.shared "RLENGTH") (.number size)
        return .number place
      | _ => return .missing
    | .builtin name given => Step.builtin name (← evaluateAll script fuel given)
    | .split text array separator? =>
      let text ← Step.textOf (← evaluate script fuel text)
      let separator ← match separator? with
        | none => Step.separatorOf (← Step.setting "FS")
        | some (.pattern regex) => pure (.pattern regex)
        | some separator =>
          Step.separatorOf (← Step.textOf (← evaluate script fuel separator))
      let parts := separator.split text
      let table := parts.zipIdx.foldl (fun table (part, index) =>
        table.insert (Decimal.digitText (index + 1)) false (.input part)) Table.empty
      Step.modifyTable (← Step.tableOf array) fun _ => table
      return .ofNat parts.length
    | .substitute everywhere pattern replacement place =>
      let regex ← evaluatePattern script fuel pattern
      let replacement ← Step.textOf (← evaluate script fuel replacement)
      let target ← locate script fuel place
      let text ← Step.textOf (← Step.valueAt target)
      let found := if everywhere then regex.matchesIn false text.toList
        else (regex.search? false (.start text.toList)).toList
      if !found.isEmpty then
        let chars := replaceAll replacement.toList 0 text.toList found
        Step.setValueAt target (.text (String.ofList chars))
      return .ofNat found.length
    | .size array =>
      match array with
      | .shared name =>
        if script.arrays.contains name then
          return .ofNat (← Step.table (← Step.tableOf array)).elements.size
        else return .ofNat (← Step.textOf (← Step.value array)).length
      | .own index =>
        match (← get).own[index]? with
        | some (.table number) => return .ofNat (← Step.table number).elements.size
        | _ => return .ofNat (← Step.textOf (← Step.value array)).length
    | .readNext place? =>
      match ← Step.nextRecord 65536 with
      | none => return .number 0.0
      | some text =>
        takeRecord script fuel place? text
        return .number 1.0
    | .readFile place? path =>
      readInto script fuel false place? (← Step.textOf (← evaluate script fuel path))
    | .readCommand place? command =>
      readInto script fuel true place? (← Step.textOf (← evaluate script fuel command))

/-- Take what was read as the record, or give it to a place. -/
def takeRecord {σ : Type} (script : Script) : (fuel : Nat) → Option Expression → String →
    Step σ Unit
  | 0, _, _ => throw .endless
  | _ + 1, none, text => Step.setRecord text
  | fuel + 1, some place, text => assignTo script fuel place (.input text)

/-- Read a record from a file or a command. -/
def readInto {σ : Type} (script : Script) : (fuel : Nat) → (isCommand : Bool) →
    Option Expression → String → Step σ Value
  | 0, _, _, _ => throw .endless
  | fuel + 1, isCommand, place?, name => do
    let (result, text) ← Step.readFrom isCommand name
    if result = 1 then takeRecord script fuel place? text
    return .number (floatOfInt result)

/-- The values of expressions. -/
def evaluateAll {σ : Type} (script : Script) : (fuel : Nat) → List Expression → Step σ (List Value)
  | 0, _ => throw .endless
  | _ + 1, [] => return []
  | fuel + 1, first :: rest => do
    let value ← evaluate script fuel first
    return value :: (← Step.holding 1 (evaluateAll script fuel rest))

/-- The pattern that an expression stands for. -/
def evaluatePattern {σ : Type} (script : Script) : (fuel : Nat) → Expression → Step σ Regex
  | 0, _ => throw .endless
  | _ + 1, .pattern regex => return regex
  | fuel + 1, expression => do
    Step.patternOf (← Step.textOf (← evaluate script fuel expression))

/-- The key of an element, and whether it is a text. -/
def evaluateKey {σ : Type} (script : Script) : (fuel : Nat) → List Expression →
    Step σ (String × Bool)
  | 0, _ => throw .endless
  | fuel + 1, [single] => do Step.keyOf (← evaluate script fuel single)
  | fuel + 1, index => do
    let texts ← (← evaluateAll script fuel index).mapM Step.textOf
    return ((← Step.setting "SUBSEP").intercalate texts, true)

/-- The place that an expression stands for. -/
def locate {σ : Type} (script : Script) : (fuel : Nat) → Expression → Step σ Target
  | 0, _ => throw .endless
  | fuel + 1, place => do
    match place with
    | .variable name => return .name name
    | .element array index =>
      let (key, isText) ← evaluateKey script fuel index
      return .element (← Step.tableOf array) key isText
    | .field index => return .field (← evaluate script fuel index).toNumber
    | _ => return default

/-- Give a place a value. -/
def assignTo {σ : Type} (script : Script) : (fuel : Nat) → Expression → Value → Step σ Unit
  | 0, _, _ => throw .endless
  | fuel + 1, place, value => do Step.setValueAt (← locate script fuel place) value

/-- Call a function. -/
def call {σ : Type} (script : Script) : (fuel : Nat) → String → List Expression → Step σ Value
  | 0, _, _ => throw .endless
  | fuel + 1, name, given => do
    match script.functions.lookup name with
    | none => return .missing
    | some function =>
      let slots ← bindAll script fuel function 0 given
      if mostCalls < (← get).calls then throw .crashed
      let world ← get
      let outer := world.own
      set { world with own := slots.toArray, calls := world.calls + 1 }
      let flow ← Step.holding function.locals.length (execute script fuel function.body)
      modify fun world => { world with own := outer, calls := world.calls - 1 }
      match flow with
      | .returned value => return value
      | _ => return .missing

/-- What the variables of a function hold when it begins. -/
def bindAll {σ : Type} (script : Script) : (fuel : Nat) → Function → (place : Nat) →
    List Expression → Step σ (List Slot)
  | 0, _, _, _ => throw .endless
  | fuel + 1, function, place, given => do
    if function.locals.length ≤ place then return []
    let slot ← if function.arrays.contains place then
        match given with
        | .variable name :: _ => pure (Slot.table (← Step.tableOf name))
        | _ => pure (Slot.table (← Step.newTable))
      else
        match given with
        | first :: _ => pure (Slot.value (← evaluate script fuel first))
        | [] => pure (Slot.value .missing)
    return slot :: (← Step.holding (if given.isEmpty then 0 else 1)
      (bindAll script fuel function (place + 1) given.tail))

/-- Carry out a statement. -/
def execute {σ : Type} (script : Script) : (fuel : Nat) → Statement → Step σ Flow
  | 0, _ => throw .endless
  | fuel + 1, statement => do
    Step.count
    match statement with
    | .evaluate expression =>
      let _ ← evaluate script fuel expression
      return .on
    | .print given outlet? =>
      let texts ← if given.isEmpty then pure [(← get).record.text]
        else (← evaluateAll script fuel given).mapM Step.writtenText
      let text := (← Step.setting "OFS").intercalate texts ++ (← Step.setting "ORS")
      emit script fuel outlet? (Text.Octets.toBytes text)
    | .printFormat given outlet? =>
      let values ← evaluateAll script fuel given
      emit script fuel outlet? (← Step.formatted "printf" values)
    | .branch condition yes no =>
      if (← evaluate script fuel condition).isTrue then execute script fuel yes
      else execute script fuel no
    | .loop condition step? body => runLoop script fuel true condition step? body
    | .loopBehind body condition => runLoop script fuel false condition none body
    | .each place array body =>
      let number ← Step.tableOf array
      let keys := (← Step.table number).keys
      Step.modifyTable number fun table =>
        keys.reverse.foldl (fun table key =>
          match table.elements[key]? with
          | some (Element.mk value none) => table.insert key true value
          | _ => table) table
      runEach script fuel place keys body
    | .block statements => executeAll script fuel statements
    | .nextRecord => return .nextRecord
    | .nextFile => return .nextFile
    | .leave code? =>
      match code? with
      | some code =>
        let x := (← evaluate script fuel code).toNumber
        modify fun world => { world with
          status := (integerOf (-2 ^ 31) (2 ^ 31) x % 256).toNat.toUInt8 }
      | none => pure ()
      throw .left
    | .giveBack value? =>
      match value? with
      | some value => return .returned (← evaluate script fuel value)
      | none => return .returned .missing
    | .breakLoop => return .broken
    | .continueLoop => return .continued
    | .delete array index? =>
      let number ← Step.tableOf array
      match index? with
      | some index =>
        let (key, _) ← evaluateKey script fuel index
        Step.modifyTable number fun table => { table with elements := table.elements.erase key }
      | none => Step.modifyTable number fun _ => .empty
      return .on

/-- Write bytes where a statement leads them. -/
def emit {σ : Type} (script : Script) : (fuel : Nat) → Option (OutletKind × Expression) →
    List UInt8 → Step σ Flow
  | 0, _, _ => throw .endless
  | _ + 1, none, bytes => do
    Step.write bytes
    return .on
  | fuel + 1, some (kind, target), bytes => do
    Step.writeTo kind (← Step.textOf (← evaluate script fuel target)) bytes
    return .on

/-- Carry out statements one after the other. -/
def executeAll {σ : Type} (script : Script) : (fuel : Nat) → List Statement → Step σ Flow
  | 0, _ => throw .endless
  | _ + 1, [] => return .on
  | fuel + 1, first :: rest => do
    match ← execute script fuel first with
    | .on => executeAll script fuel rest
    | flow => return flow

/-- Carry out the rounds of a loop. -/
def runLoop {σ : Type} (script : Script) : (fuel : Nat) → (tests : Bool) → Expression →
    Option Expression → Statement → Step σ Flow
  | 0, _, _, _, _ => throw .endless
  | fuel + 1, tests, condition, step?, body => do
    Step.count
    let goesOn ← if tests then pure (← evaluate script fuel condition).isTrue else pure true
    if !goesOn then return .on
    match ← execute script fuel body with
    | .on | .continued =>
      match step? with
      | some step =>
        let _ ← evaluate script fuel step
        runLoop script fuel true condition step? body
      | none => runLoop script fuel true condition step? body
    | .broken => return .on
    | flow => return flow

/-- Carry out the rounds of a loop over keys. -/
def runEach {σ : Type} (script : Script) : (fuel : Nat) → Expression → List String → Statement →
    Step σ Flow
  | 0, _, _, _ => throw .endless
  | _ + 1, _, [], _ => return .on
  | fuel + 1, place, key :: keys, body => do
    assignTo script fuel place (.input key)
    match ← execute script fuel body with
    | .on | .continued => runEach script fuel place keys body
    | .broken => return .on
    | flow => return flow

end

/-! ## Rules -/

/-- The fuel of a script. It ends for other reasons long before it is used up. -/
def fullTank : Nat := 2 ^ 60

/-- Whether a rule selects the record. -/
def selects {σ : Type} (script : Script) (index : Nat) : Selector → Step σ Bool
  | .first | .last => return false
  | .every => return true
  | .condition condition => return (← evaluate script fullTank condition).isTrue
  | .range first last => do
    let isInside := (← get).ranges.getD index false
    let begins ← if isInside then pure true
      else pure (← evaluate script fullTank first).isTrue
    if !begins then return false
    let ends := (← evaluate script fullTank last).isTrue
    modify fun world => { world with ranges := world.ranges.setIfInBounds index !ends }
    return true

/-- Carry out the rules that select the record. -/
def applyRules {σ : Type} (script : Script) : List (Rule × Nat) → Step σ Unit
  | [] => return ()
  | (rule, index) :: rest => do
    if ← selects script index rule.selector then
      match ← execute script fullTank rule.statement with
      | .nextRecord => return ()
      | .nextFile => Step.leaveFile
      | _ => applyRules script rest
    else applyRules script rest

/-- Carry out the rules for all records. -/
def applyAll {σ : Type} (script : Script) : (fuel : Nat) → Step σ Unit
  | 0 => throw .endless
  | fuel + 1 => do
    match ← Step.nextRecord 65536 with
    | none => return ()
    | some text =>
      Step.setRecord text
      applyRules script script.rules.zipIdx
      applyAll script fuel

/-- Carry out the rules that do not depend on a record. -/
def applyPlain {σ : Type} (script : Script) (isLast : Bool) : Step σ Unit := do
  for rule in script.rules do
    let isMeant := match rule.selector with
      | .first => !isLast
      | .last => isLast
      | _ => false
    if isMeant then
      let _ ← execute script fullTank rule.statement

/-- Whether a script has rules for records, or for the end behind them. -/
def Script.readsRecords (script : Script) : Bool :=
  script.rules.any fun rule => !(rule.selector matches .first)

/-- Go on when the script ends itself. -/
def leaving {σ : Type} (action : Step σ Unit) : Step σ Bool := do
  try
    action
    return true
  catch stop => match stop with
    | .left => return false
    | stop => throw stop

/-- Close everything that output goes to. -/
def closeAll {σ : Type} : (fuel : Nat) → Step σ Unit
  | 0 => return ()
  | fuel + 1 => do
    match (← get).outlets with
    | [] => return ()
    | outlet :: _ =>
      let _ ← Step.closeOutlet outlet
      closeAll fuel

/-- Carry out a script. -/
def runAll {σ : Type} (script : Script) : Step σ Unit := do
  let goesOn ← leaving (applyPlain script false)
  if script.readsRecords then
    if goesOn then
      let _ ← leaving (applyAll script fullTank)
    let _ ← leaving (applyPlain script true)

end Runbook.Program.Rule
