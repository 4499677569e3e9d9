import Runbook.Shell.Expansion

/-!
# Running scripts

Commands as functions on sessions. Running out of fuel leaves a session stuck, as a loop without an
end would.
-/

namespace Runbook.Shell

set_option maxHeartbeats 400000 in
mutual

/-- Run a script on its own, and take what it writes. -/
def captureScript : (fuel : Nat) → Session → (line : Nat) → List Char → Session × List UInt8
  | 0, session, _, _ => ({ session with flow := .stuck }, [])
  | fuel + 1, session, line, script =>
    match session.readsFile? line script with
    | some target =>
      let (expanded, path) := expandText (captureScript fuel) fuel session (session.withHome target)
      let (told, bytes) := expanded.contentOf path
      ({ told with status := session.status, answer := told.status }, bytes)
    | none =>
      let (inner, bytes) := session.ownShell.captured fun session =>
        let begun := { session with replaces := session.traps.isEmpty }
        endShell fuel (runScript fuel begun line script)
      ({ session.leavePart inner with status := session.status, answer := inner.status }, bytes)

/-- Run a script from a line on, up to its first fault. A script that there is nothing in
succeeds. -/
def runScript : (fuel : Nat) → Session → (line : Nat) → List Char → Session
  | 0, session, _, _ => { session with flow := .stuck }
  | fuel + 1, session, line, script =>
    if session.scripts = Session.mostScripts then { session with flow := .stuck }
    else
      let begun := { session with
        scripts := session.scripts + 1, nesting := session.nesting + 1, replaces := false }
      let done :=
        if session.isExtended then
          let cursor := Extended.Cursor.ofScript line session.hasGroups script
          let begun := match Extended.next? cursor with
            | some (.ok _) => begun
            | _ => begun.finish 0
          runRest fuel begun session.replaces line script cursor
        else
          let tokens := Token.ofChars line script
          let begun := match Command.next? [] tokens with
            | some (.ok _) => begun
            | _ => begun.finish 0
          runLines fuel begun tokens
      { done with scripts := session.scripts, nesting := session.nesting }

/-- Run the lines of a script that are left. Each is read when those before it have run. -/
def runLines : (fuel : Nat) → Session → List Token → Session
  | 0, session, _ => { session with flow := .stuck }
  | fuel + 1, session, tokens =>
    match Command.next? session.aliases tokens with
    | none => session
    | some (.error fault) => session.giveUpReading fault
    | some (.ok (command, rest)) =>
      let done := execute fuel command session
      if done.isOn then runLines fuel done rest else done

/-- Run the lines of a script of the extended language that are left. A line of which the rest is
left out is not the end of the script, unless a shell of its own runs it. If the script is the last
thing that its shell runs, so is its last line. -/
def runRest : (fuel : Nat) → Session → (isLast : Bool) → (first : Nat) → (script : List Char) →
    Extended.Cursor → Session
  | 0, session, _, _, _, _ => { session with flow := .stuck }
  | fuel + 1, session, isLast, first, script, cursor =>
    match Extended.next? { cursor with patterns := session.hasGroups } with
    | none => session
    | some (.error fault) => session.tellFault first script fault
    | some (.ok (command, rest)) =>
      let ends := isLast && rest.chars.isEmpty && session.traps.isEmpty
      let done := execute fuel command { session with replaces := ends }
      if done.isOn then runRest fuel done isLast first script rest
      else if done.flow = .dropped ∧ done.subshells = 0 then
        runRest fuel { done with flow := .on } isLast first script rest
      else done

/-- Run what is to be run at the end of a shell, which keeps its status. -/
def endShell : (fuel : Nat) → Session → Session
  | 0, session => { session with flow := .stuck }
  | fuel + 1, session =>
    match session.traps.lookup 0 with
    | none => session
    | some action =>
      if session.endsAtOnce then session
      else
        let kept := session.traps.filter (·.1 != 0)
        let done := runScript fuel { session with flow := .on, traps := kept } 1 action.toList
        if !done.isOn then done
        else
          match session.flow with
          | .killed signal => { done with flow := .killed signal }
          | _ => { done with status := session.status, flow := .ended }

/-- Run what is to be run for a signal that has hit the shell, in the place of its end. -/
def answerSignal : (fuel : Nat) → Session → Session
  | 0, session => { session with flow := .stuck }
  | fuel + 1, session =>
    match session.flow with
    | .killed signal =>
      match session.traps.lookup signal with
      | some action =>
        if signal = 9 then session
        else (runScript fuel { session with flow := .on, status := 0 } 1 action.toList).finish 0
      | none => session
    | _ => session

/-- Run what is to be run when a command has failed and nothing looks at that, and end the shell if
it is strict. -/
def conclude : (fuel : Nat) → Session → Session
  | 0, session => { session with flow := .stuck }
  | fuel + 1, session =>
    match session.traps.lookup Session.failureTrap with
    | some action =>
      if session.fails && session.answersFailure && action != "" then
        let others := session.traps.filter (·.1 != Session.failureTrap)
        let done := runScript fuel { session with traps := others } session.line action.toList
        if done.isOn then
          { done with status := session.status, traps := session.traps }.heed
        else done
      else session.heed
    | none => session.heed

/-- Run the command that fields name. -/
def runFields : (fuel : Nat) → Session → (name : String) → (arguments : List String) →
    Session
  | 0, session, _, _ => { session with flow := .stuck }
  | fuel + 1, session, name, arguments =>
    match session.functions.lookup name with
    | some body =>
      if session.calls = Session.mostCalls then session.overcalled
      else session.leaveFunction (execute fuel body (session.enterFunction name arguments))
    | none => runCommand fuel session name arguments

/-- Run a command of the shell itself, or a program. -/
def runCommand : (fuel : Nat) → Session → (name : String) → (arguments : List String) →
    Session
  | 0, session, _, _ => { session with flow := .stuck }
  | fuel + 1, session, name, arguments =>
    if session.isExtended then runExtended fuel session name arguments
    else
      match { session with caller := name ++ ": " }.builtin? name arguments with
      | some done => answerSignal fuel { done with caller := session.caller }
      | none =>
        match name, arguments with
        | "eval", _ =>
          let done := runScript fuel { session with caller := "eval: " } 1
            (" ".intercalate arguments).toList
          { done with caller := session.caller }
        | ".", path :: rest =>
          let isOption := path.startsWith "-" && path.length != 1 && path != "--"
          let path := if path = "--" then rest.headD "" else path
          if isOption then
            session.refuse "." ("Illegal option -" ++ String.ofList ((path.toList.drop 1).take 1))
          else if !path.contains '/' then session.refuse "." (path ++ ": not found")
          else match Program.Tool.supplied (session.supply "") path with
          | .ok bytes =>
            let done := runScript fuel { session with caller := path ++ ": " } 1
              (Text.Octets.chars bytes)
            { done with
              caller := session.caller
              flow := if done.flow = .returned then .on else done.flow }
          | .error cause =>
            session.refuse "."
              ("cannot open " ++ path ++ ": " ++ Session.openReason "No such file" cause)
        | "exec", name :: arguments =>
          let done := runProgram fuel { session with caller := "exec: " } name arguments
          { done with flow := if done.isOn then .ended else done.flow }
        | "command", arguments =>
          match (OwnOptions.read ['p'] [] (arguments.length + 1) arguments).toOption with
          | some ⟨_, name :: arguments⟩ =>
            let done := runCommand fuel { session with mild := true } name arguments
            { done with mild := session.mild }
          | _ => session.finish 0
        | "exec", [] | ".", [] => session.finish 0
        | _, _ => runProgram fuel session name arguments

/-- Run a command of a shell of the extended language, or a program. -/
def runExtended : (fuel : Nat) → Session → (name : String) → (arguments : List String) →
    Session
  | 0, session, _, _ => { session with flow := .stuck }
  | fuel + 1, session, name, arguments =>
    match session.extendedBuiltin? name arguments with
    | some done => answerSignal fuel done
    | none =>
      match name with
      | "eval" =>
        session.withChoices name "" "" arguments fun options =>
          let inner := { session with caller := "eval: ", replaces := false }
          let done := runScript fuel inner session.line (" ".intercalate options.operands).toList
          { done with caller := session.caller }
      | "." | "source" =>
        session.withChoices name "" "" arguments fun options =>
          match options.operands with
          | [] => (session.complain (name ++ ": filename argument required")).misuse name
          | path :: arguments =>
            match Program.Tool.supplied (session.supply "") path with
            | .ok bytes =>
              session.leaveScript arguments (runScript fuel (session.enterScript path arguments) 1
                (Text.Octets.chars bytes))
            | .error .isADirectory => session.dispute name (path ++ ": is a directory")
            | .error cause =>
              (session.complain (path ++ ": " ++ Program.Tool.reason cause)).finish 1
      | "exec" =>
        session.withChoices name "cl" "a" arguments fun options =>
          match options.operands with
          | [] => session.finish 0
          | program :: arguments =>
            if !Program.Tool.isRunnable session.around program then
              session.disputeProgram program
            else
              let known := { session with
                traps := session.ownTraps
                replaces := session.subshells == 0
                environment? := if options.has 'c' then some [] else session.environment? }
              let done := runProgram fuel known program arguments
              { done with
                environment? := session.environment?
                flow := if done.isOn then .ended else done.flow }
      | "command" =>
        session.withChoices name "pVv" "" arguments fun options =>
          if options.has 'v' || options.has 'V' then
            session.commandWords (options.has 'v') options.operands
          else
            match options.operands with
            | [] => session.finish 0
            | name :: arguments => runExtended fuel session name arguments
      | "builtin" =>
        session.withChoices name "" "" arguments fun options =>
          match options.operands with
          | [] => session.finish 0
          | own :: arguments =>
            if Session.extendedNames.contains own then runExtended fuel session own arguments
            else session.dispute name (own ++ ": not a shell builtin")
      | _ => runProgram fuel session name arguments

/-- Run a program. -/
def runProgram : (fuel : Nat) → Session → (name : String) → (arguments : List String) →
    Session
  | 0, session, _, _ => { session with flow := .stuck }
  | fuel + 1, session, name, arguments =>
    match session.call name arguments with
    | .error _ => session.notFound name
    | .ok ⟨known, called, arguments⟩ =>
      let session := session.withPath name
      if Program.Tool.shellNames.contains known then
        let (inner, source) := session.started called known arguments
        session.leaveNested (runLaunch fuel inner called source)
      else
        match Program.Tool.deputies.lookup known, Program.Tool.errands.lookup known,
          Program.Tool.named.lookup known with
        | some deputy, _, _ =>
          match deputy arguments (session.supply called) with
          | .error run => session.takeRun run
          | .ok handover => runHandover fuel session handover
        | none, some errand, _ =>
          let host : Program.Host Session :=
            { around := Session.around
              environment := Session.inherited
              mask := Session.mask
              put := Session.putEntry
              remove := Session.removeEntry
              start := fun session input name arguments =>
                startProgram fuel { session with input := input } name arguments }
          let (run, done) := errand.run host called arguments session.input session
          { done with input := session.input }.takeRun run
        | none, none, some tool => session.takeRun (tool arguments (session.supply called))
        | none, none, none => session.notFound name

/-- Run a program in the place of another one. -/
def runHandover : (fuel : Nat) → Session → Program.Handover → Session
  | 0, session, _ => { session with flow := .stuck }
  | fuel + 1, session, handover =>
    let changed := { session with
      environment? := handover.environment?.or session.environment?
      directory := handover.directory?.getD session.directory }
    match Program.Tool.call changed.around handover.program handover.arguments with
    | .error cause => session.takeRun (handover.failed cause)
    | .ok _ =>
      let run (inner : Session) : Session :=
        runProgram fuel inner handover.program handover.arguments
      let begun := changed.writeNotes handover.notes
      session.leavePart (handover.limit?.elim (run begun) fun limit => begun.limited limit run)

/-- Run a program for another one, which takes what it writes. -/
def startProgram : (fuel : Nat) → Session → (name : String) → (arguments : List String) →
    Except Program.StartError Program.Run × Session
  | 0, session, _, _ => (.ok ⟨.exited 0, [], none⟩, session)
  | fuel + 1, session, name, arguments =>
    match Program.Tool.call session.around name arguments with
    | .error cause => (.error cause, session)
    | .ok ⟨known, called, given⟩ =>
      let output := session.places.size
      let inner := (session.lead 1 output).lead 2 (output + 1)
      let inner := { inner with places := session.places ++ #[#[], #[]] }
      let done :=
        if Program.Tool.shellNames.contains known then
          let (inner, source) := inner.started called known given
          runLaunch fuel inner called source
        else runProgram fuel inner name arguments
      let run : Program.Run :=
        { status := match done.flow with
            | .killed signal => .killed signal
            | _ => .exited done.status.toUInt8
          written := done.writings output (output + 1)
          milliseconds := if done.flow = .stuck then none
            else some (done.milliseconds - session.milliseconds) }
      (.ok run, { session.leavePart done with
        flow := .on
        status := session.status
        milliseconds := session.milliseconds
        input := session.input })

/-- Run a shell as a program. -/
def runLaunch : (fuel : Nat) → Session → (program : String) → Source → Session
  | 0, session, _, _ => { session with flow := .stuck }
  | fuel + 1, session, program, source =>
    let fail (status : UInt8) (text : String) : Session :=
      session.takeRun (Program.Tool.fail status [] [program ++ ": " ++ text])
    let read (session : Session) (bytes : List UInt8) : Session :=
      endShell fuel (runScript fuel session 1 (Text.Octets.chars bytes))
    match source with
    | .text script =>
      let begun := if session.isExtended then { session with caller := "-c: ", replaces := true }
        else session
      endShell fuel (runScript fuel begun 1 script)
    | .input => read session session.input.bytes
    | .refused complaint => fail 2 ("0: " ++ complaint)
    | .settled status output complaints =>
      let lines := output.flatMap fun line => Text.Octets.toBytes (line ++ "\n")
      session.takeRun (Program.Tool.fail status lines complaints)
    | .file path =>
      match Program.Tool.supplied (session.supply "") (session.scriptPath path) with
      | .ok bytes =>
        if session.isExtended && bytes.head? = some 0x7f then session.notReadable path
        else read session bytes
      | .error .isADirectory =>
        if session.isExtended then session.notReadable path else session
      | .error cause =>
        if session.isExtended then fail 127 (path ++ ": " ++ Program.Tool.reason cause)
        else
          fail 2 ("0: cannot open " ++ path ++ ": " ++ Session.openReason "No such file" cause)

/-- Run the rounds of a loop. The last round leaves its status. -/
def runLoop : (fuel : Nat) → (negative : Bool) → (condition body : Command) → Session →
    (status : Nat) → Session
  | 0, _, _, _, session, _ => { session with flow := .stuck }
  | fuel + 1, negative, condition, body, session, status =>
    let tested := (execute fuel condition { session.enterLoop with guarded := true }).keepRound
      session
    if !tested.isOn then
      match tested.afterRound with
      | (true, next) => runLoop fuel negative condition body next status
      | (false, next) => next
    else if (tested.status == 0) == negative then tested.finish status
    else
      match ((execute fuel body tested.enterLoop).keepRound session).afterRound with
      | (true, next) => runLoop fuel negative condition body next next.status
      | (false, next) => next

/-- Run the rounds of a loop that counts, with the expressions that are worked out before and behind
each round. The last round leaves its status. -/
def runCounted : (fuel : Nat) → (condition step : Word) → (body : Command) → Session →
    (status : Nat) → Session
  | 0, _, _, _, session, _ => { session with flow := .stuck }
  | fuel + 1, condition, step, body, session, status =>
    match workOut fuel session.step condition with
    | (session, none) => session.finish 1
    | (session, some 0) => session.finish status
    | (session, some _) =>
      match ((execute fuel body session.enterLoop).keepRound session).afterRound with
      | (false, next) => next
      | (true, next) =>
        match workOut fuel next step with
        | (session, none) => session.finish 1
        | (session, some _) => runCounted fuel condition step body session next.status

/-- Work out an expression in the script. One that there is nothing in is not zero. -/
def workOut : (fuel : Nat) → Session → Word → Session × Option Int
  | 0, session, _ => ({ session with flow := .stuck }, none)
  | fuel + 1, session, expression =>
    let (session, text) := expandText (captureScript fuel) fuel session expression
    if !session.isOn then (session, none)
    else if text.toList.all Extended.Calculation.isBlank then (session, some 1)
    else (session.traceText ("(( " ++ text ++ " ))")).reckon "((: " text

/-- Run the rounds of a loop in which what is read chooses an item. -/
def runMenu : (fuel : Nat) → Session → (name : String) → (items : List String) →
    (isShown : Bool) → (body : Command) → Session
  | 0, session, _, _, _, _ => { session with flow := .stuck }
  | fuel + 1, session, name, items, isShown, body =>
    match session.step.askFor items isShown with
    | (session, none) => session
    | (session, some item) =>
      if session.value? "REPLY" = some "" then runMenu fuel session name items true body
      else
        let given := session.give name none false (.text item)
        match ((execute fuel body given.enterLoop).keepRound session).afterRound with
        | (true, next) => runMenu fuel next name items (next.value? "REPLY" == some "") body
        | (false, next) => next

/-- Run the command of the first case of which a pattern covers a text. Without one there is a
status. -/
def runCases : (fuel : Nat) → Session → (text : List Char) → (status : Nat) →
    List (List Word × Command × CaseEnding) → Session
  | 0, session, _, _, _ => { session with flow := .stuck }
  | _ + 1, session, _, status, [] => session.finish status
  | fuel + 1, session, text, status, ([], _, _) :: cases =>
    runCases fuel session text status cases
  | fuel + 1, session, text, status, (pattern :: patterns, body, ending) :: cases =>
    let (session, fragments) :=
      expandWord (captureScript fuel) fuel session (session.withHome pattern)
    if !session.isOn then session
    else if session.coversText fragments text then
      runCase fuel session text body ending cases
    else runCases fuel session text status ((patterns, body, ending) :: cases)

/-- Run the command of a case, and of the cases behind it that are asked for. -/
def runCase : (fuel : Nat) → Session → (text : List Char) → Command → CaseEnding →
    List (List Word × Command × CaseEnding) → Session
  | 0, session, _, _, _, _ => { session with flow := .stuck }
  | fuel + 1, session, text, body, ending, cases =>
    let done := match body with
      | .nothing => session.finish 0
      | body => execute fuel body session
    if !done.isOn then done
    else
      match ending, cases with
      | .again, cases => runCases fuel done text done.status cases
      | .next, (_, body, ending) :: cases => runCase fuel done text body ending cases
      | .next, [] | .leave, _ => done

/-- Run a simple command whose words are fields by now. -/
def perform : (fuel : Nat) → Session → List Assignment → List Redirect →
    (fields : List String) → Session
  | 0, session, _, _, _ => { session with flow := .stuck }
  | fuel + 1, session, assignments, redirects, fields =>
    let (inner, leads) := redirectAll (captureScript fuel) fuel session redirects
    let back := session.leaveRedirects redirects
    let isSpecial := fields.head?.any Session.specialNames.contains
    if !leads then
      let done := (back inner).finish 2
      if isSpecial then { done with flow := .ended } else done.heed
    else if !inner.isOn then back inner
    else
      let names := assignments.map (·.name)
      let begun := assignAll (captureScript fuel) fuel false inner assignments
      let begun := begun.trace session.streams names fields
      match fields with
      | [] => (back (begun.finish begun.answer)).heed
      | ["exec"] => begun.finish 0
      | name :: arguments =>
        if !begun.isOn then back begun
        else if names.isEmpty || isSpecial then
          (back (runFields fuel begun name arguments)).heed
        else
          let begun := { begun with exported := names ++ begun.exported }
          let done := back (runFields fuel begun name arguments)
          (done.restore (names.map session.kept)).heed

/-- Run a simple command of the extended language whose words are fields by now. What is given to
variables together with a command is only there while it runs. -/
def carryOut : (fuel : Nat) → Session → (ends : Bool) → List Assignment → List Redirect →
    (fields : List String) → (action? : Option (Session → Session)) → Session
  | 0, session, _, _, _, _, _ => { session with flow := .stuck }
  | fuel + 1, session, ends, assignments, redirects, fields, action? =>
    let names := assignments.map fun assignment => session.meant assignment.name
    let undo (done : Session) : Session :=
      if action?.isSome then done.restore (names.map session.kept) else done
    let given := assignAll (captureScript fuel) fuel action?.isSome session assignments
    if !given.isOn then given
    else
      let begun := given.traceFields fields
      let (inner, leads) := redirectAll (captureScript fuel) fuel begun redirects
      let back := begun.leaveRedirects redirects
      if !inner.isOn then undo (back inner)
      else if !leads then conclude fuel ((undo (back inner)).settle 1)
      else
        match action? with
        | none => conclude fuel ({ back inner with lastWord := "" }.settle inner.answer)
        | some action =>
          let done := action
            { inner with
              exported := names ++ inner.exported
              replaces := ends && inner.traps.isEmpty }
          let led := undo (if fields = ["exec"] then done else back done)
          let left := { led with replaces := false, lastWord := fields.getLastD "" }
          conclude fuel (left.settle left.status)

/-- Take away the passages that were opened since an earlier time, and run what reads them. -/
def closePassages : (fuel : Nat) → (earlier : Session) → Session → Session
  | 0, _, session => { session with flow := .stuck }
  | fuel + 1, earlier, session =>
    let opened := session.passages.take (session.passages.length - earlier.passages.length)
    opened.reverse.foldl (fun session (path, reader?) =>
      match reader? with
      | none => session.closePassage path
      | some (line, script) =>
        let inner := { session.alone with
          input := .ofBytes (session.passageBytes path), flow := .on }
        let done := session.leavePart (endShell fuel (runScript fuel inner line script))
        { done with status := session.status, input := session.input }.closePassage path) session

/-- Run commands of which each reads what the one before it writes, each in a shell of its own, and
remember their statuses. -/
def runPipe : (fuel : Nat) → Command → Session → Session
  | 0, _, session => { session with flow := .stuck }
  | fuel + 1, command, session =>
    match command with
    | .pipe left right =>
      let (writer, bytes) := { session with traps := session.ownTraps }.captured fun session =>
        runPipe fuel left session
      let alone := if session.extras.contains "lastpipe" then session else session.alone
      let middle := alone.leavePart { writer with
        input := ⟨bytes, writer.flow == .stuck, false⟩
        flow := if writer.flow = .stuck ∧ !bytes.isEmpty then .on else writer.flow }
      let begun := { middle with milliseconds := session.milliseconds, status := session.status }
      let done := execute fuel right begun
      let reader := if session.extras.contains "lastpipe" then done else endShell fuel done
      { reader with
        pipeline := writer.pipeline ++ [reader.status]
        milliseconds := max writer.milliseconds reader.milliseconds }
    | command =>
      let done := endShell fuel (execute fuel command session)
      { done with pipeline := [done.status] }

/-- Run a command. -/
def execute : (fuel : Nat) → Command → Session → Session
  | 0, _, session => { session with flow := .stuck }
  | fuel + 1, command, session =>
    let ends := session.replaces
    let session := { session with replaces := false }
    if !session.isOn || session.switches.contains 'n' then session
    else
      match command with
      | .nothing => session
      | .simple line assignments words redirects =>
        let (expanded, fields) := expandFields (captureScript fuel) fuel
          { session.step with line := line, answer := 0 } words
        if !expanded.isOn then expanded
        else if session.isExtended then
          closePassages fuel session (carryOut fuel expanded ends assignments redirects fields
            (match fields with
            | [] => none
            | name :: arguments => some fun inner => runFields fuel inner name arguments))
        else perform fuel expanded assignments redirects fields
      | .declaration line assignments name arguments redirects =>
        let (expanded, declared) := expandArguments (captureScript fuel) fuel
          { session.step with line := line, answer := 0 } arguments
        if !expanded.isOn then expanded
        else
          closePassages fuel session (carryOut fuel (expanded.traceTables declared) false
            assignments redirects (name :: declared.map Declared.written)
            (some fun inner => inner.declareWith name declared))
      | .arithmetic line expression =>
        let (session, value?) := workOut fuel { session.step with line := line } expression
        match value? with
        | none => conclude fuel (session.settle 1)
        | some n => conclude fuel (session.settle (if n = 0 then 1 else 0))
      | .check line test =>
        let (session, holds?) := holds (captureScript fuel) fuel false
          { session.step with line := line } test
        conclude fuel (session.settle (holds?.elim 2 fun holds => if holds then 0 else 1))
      | .negated command =>
        let done := execute fuel command { session with guarded := true }
        let status := if !done.isOn then done.status else if done.status = 0 then 1 else 0
        { done with guarded := session.guarded, status := status }
      | .pipe left right =>
        let done := runPipe fuel (.pipe left right) session
        let fails := session.extras.contains "pipefail"
        let status := if fails then (done.pipeline.filter (· != 0)).getLastD 0 else done.status
        let outer := if session.extras.contains "lastpipe" then done else session.leavePart done
        conclude fuel { outer with
          pipeline := done.pipeline
          status := status
          input := session.input
          milliseconds := done.milliseconds }
      | .both first second =>
        let done := execute fuel first { session with guarded := true }
        let done := { done with guarded := session.guarded }
        if done.status = 0 then execute fuel second { done with replaces := ends } else done
      | .either first second =>
        let done := execute fuel first { session with guarded := true }
        let done := { done with guarded := session.guarded }
        if done.status = 0 then done else execute fuel second { done with replaces := ends }
      | .sequence first .nothing => execute fuel first { session with replaces := ends }
      | .sequence first second =>
        execute fuel second { execute fuel first session with replaces := ends }
      | .background command =>
        let (led, _) := redirectAll (captureScript fuel) fuel session (Session.redirectsOf command)
        let done := session.begin (Session.isSingle command) led.streams fun session =>
          endShell fuel (execute fuel command
            { session with subshells := session.subshells + 1, replaces := true })
        { done with pipeline := [0] }
      | .branch condition yes no =>
        let done := execute fuel condition { session with guarded := true }
        let done := { done with guarded := session.guarded }
        if !done.isOn then done
        else if done.status = 0 then execute fuel yes done
        else
          match no with
          | .nothing => done.finish 0
          | no => execute fuel no done
      | .loop negative condition body => runLoop fuel negative condition body session 0
      | .each name words body =>
        let (expanded, fields) := match words with
          | some words => expandFields (captureScript fuel) fuel session words
          | none => (session, session.arguments)
        match if session.isExtended then expanded.disputeLoop? name else none with
        | some done => conclude fuel done
        | none =>
          let begun := if fields.isEmpty then expanded.finish 0 else expanded
          (fields.foldl (fun (goesOn, session) field =>
            if goesOn then
              let given := session.traceRound name words
              ((execute fuel body (given.assignRound name field).enterLoop).keepRound
                session).afterRound
            else (goesOn, session)) (true, begun)).2
      | .menu name words body =>
        let (expanded, fields) := match words with
          | some words => expandFields (captureScript fuel) fuel session words
          | none => (session, session.arguments)
        match expanded.disputeLoop? name with
        | some done => conclude fuel done
        | none =>
          if fields.isEmpty || !expanded.isOn then expanded.finish 0
          else runMenu fuel expanded name fields true body
      | .counted line start condition step body =>
        let session := { session.step with line := line }
        match workOut fuel session start with
        | (session, none) => conclude fuel (session.settle 1)
        | (session, some _) => runCounted fuel condition step body session 0
      | .select word cases =>
        let (expanded, text) := expandText (captureScript fuel) fuel session (session.withHome word)
        if !expanded.isOn then expanded
        else
          let told := if session.isExtended then
              expanded.traceText ("case " ++ Session.wordSource word ++ " in")
            else expanded
          runCases fuel told text.toList 0 cases
      | .subshell body =>
        let alone := session.alone
        let done := endShell fuel
          (execute fuel body { alone with replaces := alone.isExtended && alone.traps.isEmpty })
        let outer := session.leavePart done
        conclude fuel { outer with pipeline := [outer.status] }
      | .redirected redirects command =>
        let (inner, leads) := redirectAll (captureScript fuel) fuel session redirects
        let back := session.leaveRedirects redirects
        if leads then closePassages fuel session (back (execute fuel command inner))
        else conclude fuel ((back inner).settle (if session.isExtended then 1 else 2))
      | .define name body => session.define name body

end

/-- The fuel of a run. A shell stops for other reasons long before it is used up. -/
def fullTank : Nat := 2 ^ 60

/-- The run of a session that has ended. -/
def Session.toRun (session : Session) : Program.Run :=
  let settled := (session.waitForPlace 0 Session.outputPlace).waitForPlace 0 Session.complaintPlace
  { status := match session.flow with
      | .killed signal => .killed signal
      | _ => .exited session.status.toUInt8
    written := session.writings Session.outputPlace Session.complaintPlace
    milliseconds := if settled.flow = .stuck then none else some settled.milliseconds }

/-- Run a program that is started with some arguments and reads nothing. A shell that a signal ends
is ended by it. -/
def run (program known : String) (arguments : List String) : Program.Run :=
  let session := Session.start program arguments
  if Program.Tool.shellNames.contains known then
    let (inner, source) := session.started program known arguments
    (runLaunch fullTank inner program source).toRun
  else (runProgram fullTank session program arguments).toRun

end Runbook.Shell
