import Runbook.Program.PathName
import Runbook.Program.Rule.Evaluation

/-!
# The program that carries out rules
-/

namespace Runbook.Program.Rule

/-- What is asked for: the options, in order, and the operands. -/
structure Order where
  separator? : Option String
  assignments : List String
  files : List String
  operands : List String
deriving Inhabited

/-- Read the arguments. -/
def Order.ofArguments : (fuel : Nat) → Order → List String → Except String Order
  | 0, order, _ => .ok order
  | _ + 1, order, [] => .ok order
  | fuel + 1, order, argument :: rest =>
    let letter := argument.toList.getD 1 ' '
    let attached := String.ofList (argument.toList.drop 2)
    if !argument.startsWith "-" || argument == "-" then
      .ok { order with operands := argument :: rest }
    else if argument = "--" then .ok { order with operands := rest }
    else if letter = 'W' then
      ofArguments fuel order (if attached = "" then rest.drop 1 else rest)
    else if letter = 'F' ∨ letter = 'v' ∨ letter = 'f' then
      match if attached = "" then rest else attached :: rest with
      | [] => .error ("option -" ++ String.ofList [letter] ++ " lacks argument")
      | value :: rest =>
        let order := match letter with
          | 'F' => { order with separator? := some value }
          | 'v' => { order with assignments := order.assignments ++ [value] }
          | _ => { order with files := order.files ++ [value] }
        if letter = 'v' ∧ (Step.assignmentOf? value).isNone then
          .error ("improper assignment: -v " ++ value)
        else ofArguments fuel order rest
    else .error ("not an option: " ++ argument)

/-- The script that is asked for, with the name of its file, and the operands behind it. -/
def Order.script? (order : Order) (supply : Supply) :
    Except String (Option (Option String × String × List String)) := do
  match order.files, order.operands with
  | [], [] => return none
  | [], text :: operands => return some (none, text, operands)
  | files, operands =>
    let texts ← files.mapM fun path =>
      match Tool.supplied supply path with
      | .ok bytes => .ok (Text.Octets.ofBytes bytes)
      | .error .isADirectory => .error "read error (Is a directory)"
      | .error cause => .error ("cannot open " ++ path ++ " (" ++ Tool.reason cause ++ ")")
    return some (files.head?, "\n".intercalate texts, operands)

/-- The variables that a script begins with. -/
def usualVariables (arguments : Nat) : List (String × Value) :=
  [("FS", .text " "), ("OFS", .text " "), ("ORS", .text "\n"), ("RS", .text "\n"),
    ("SUBSEP", .text "\x1c"), ("CONVFMT", .text "%.6g"), ("OFMT", .text "%.6g"),
    ("NR", .number 0.0), ("FNR", .number 0.0), ("RSTART", .number 0.0), ("RLENGTH", .number (-1.0)),
    ("FILENAME", .text ""), ("ARGC", .ofNat arguments)]

/-- The world in which a script begins. -/
def World.start {σ : Type} (name : String) (host : Host σ) (state : σ) (input : Input)
    (script : Script) (operands : List String) : World σ :=
  let arguments := name :: operands
  let tableOf (entries : List (String × String)) (isText : Bool) : Table :=
    entries.foldl (fun table (key, text) => table.insert key isText (.input text)) .empty
  let operandTable := tableOf (arguments.zipIdx.map fun (text, index) =>
    (Decimal.digitText index, text)) false
  { name := name
    host := host
    state := state
    input := input
    globals := .ofList (usualVariables arguments.length)
    tables := .ofList [(0, tableOf (host.environment state) true), (1, operandTable)]
    tableNumbers := .ofList [("ENVIRON", 0), ("ARGV", 1)]
    tableCount := 2
    own := #[]
    record := ⟨"", none, " "⟩
    written := []
    waiting := []
    outlets := []
    inlets := []
    source := .waiting 1
    ranges := (script.rules.map fun _ => false).toArray
    separators := ∅
    patterns := ∅
    seed := 0.0
    random := 20231
    status := 0
    steps := mostSteps
    depth := 0
    calls := 0
    milliseconds := 0 }

/-- What is told of a stop. -/
def Stop.writings : Stop → Writings
  | .fault text => [Tool.told text]
  | _ => []

/-- Carry out what is asked for. What waits to be written when a fault is found is written behind
the complaint about it. -/
def Order.carryOut {σ : Type} (order : Order) (name : String) (host : Host σ) (input : Input)
    (state : σ) (script : Script) (operands : List String) : Run × σ :=
  let prepared : Step σ Unit := do
    match order.separator? with
    | some text =>
      Step.setValue (.shared "FS") (.text (String.ofList (unescape (text.length + 1) text.toList)))
    | none => pure ()
    for assignment in order.assignments do
      match Step.assignmentOf? assignment with
      | some (name, text) => Step.assignOperand name text
      | none => pure ()
    runAll script
  let (result, world) := prepared.run.run (World.start name host state input script operands)
  let closing : Step σ Unit := do
    closeAll (world.outlets.length + 1)
    Step.flush
  let stop? : Option Stop := match result with
    | .error stop => some stop
    | .ok _ => none
  let world := { world with
    written := (stop?.elim [] Stop.writings).reverse ++ world.written }
  let (closed, world) := closing.run.run world
  let later? : Option Stop := match stop?, closed with
    | none, .error stop => some stop
    | _, _ => none
  let (status, isEndless) : ExitStatus × Bool := match stop?.or later? with
    | some (.fault _) => (.exited 2, false)
    | some .crashed => (.killed 11, false)
    | some .endless => (.exited 0, true)
    | some .left | none => (.exited world.status, false)
  ({ status := status
     written := world.written.reverse ++ later?.elim [] Stop.writings
     milliseconds := if isEndless then none else some world.milliseconds }, world.state)

/-- Carry out rules for the records of files. -/
def awk : Errand where
  run host path arguments input state :=
    let name := Tool.lastName path
    let refuse (text : String) : Run := Tool.fail 2 [] [name ++ ": " ++ text]
    match Order.ofArguments (arguments.length + 1) default arguments with
    | .error text => (refuse text, state)
    | .ok order =>
      match order.script? (host.supply name input state) with
      | .error text => (refuse text, state)
      | .ok none => (Tool.fail 2 [] ["Usage: mawk [Options] [Program] [file ...]"], state)
      | .ok (some (file?, text, operands)) =>
        match Script.ofText text with
        | .error fault => (Tool.fail 2 [] [fault.message name file?], state)
        | .ok script => order.carryOut name host input state script operands

end Runbook.Program.Rule
