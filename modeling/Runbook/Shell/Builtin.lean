import Runbook.Shell.Directory
import Runbook.Shell.LineInput
import Runbook.Shell.Meaning
import Runbook.Shell.Setting
import Runbook.Shell.Signal

/-!
# Commands of the shell itself

The commands that the shell carries out without a program, by their names.
-/

namespace Runbook.Shell

namespace Session

/-- A command of the shell itself, if it is one. -/
def builtin? (session : Session) (name : String) (arguments : List String) : Option Session :=
  let loops (flow : Nat → Flow) : Session :=
    session.withCount name 1 arguments fun n =>
      let leaves := if session.loops = 0 then Flow.on else flow (min n session.loops)
      { session with flow := leaves, status := 0 }
  match name with
  | ":" | "true" => some (session.finish 0)
  | "times" =>
    let zero := "0m0.000000s 0m0.000000s\n"
    some ((session.write (Text.Octets.toBytes (zero ++ zero))).finish 0)
  | "hash" => some (session.hash arguments)
  | "false" => some (session.finish 1)
  | "wait" =>
    some (session.wait arguments)
  | "umask" => some (session.umask arguments)
  | "ulimit" => some (session.ulimit arguments)
  | "cd" | "chdir" => some (session.changeDirectory name arguments)
  | "pwd" => some (session.tellDirectory arguments)
  | "alias" => some (session.aliasAll arguments)
  | "unalias" => some (session.unaliasAll arguments)
  | "getopts" => some (session.findOption arguments)
  | "jobs" => some (session.jobs arguments)
  | "fg" | "bg" => some (session.refuse name "No current job")
  | "trap" => some (session.trap arguments)
  | "echo" => some (session.echo arguments)
  | "printf" => some (session.printf arguments)
  | "test" => some (session.test name arguments)
  | "[" =>
    some (if arguments.getLast? = some "]" then session.test name arguments.dropLast
      else (session.complain "[: missing ]").finish 2)
  | "exit" =>
    some (session.withCount name session.status arguments fun n =>
      { session with status := n % 256, flow := .ended })
  | "return" =>
    some (session.withCount name session.status arguments fun n =>
      { session with status := n % 256, flow := .returned })
  | "break" => some (loops .leaving)
  | "continue" => some (loops .skipping)
  | "kill" => some (session.kill arguments)
  | "export" => some (session.exportAll arguments)
  | "readonly" => some (session.fixAll arguments)
  | "local" => some (session.localAll arguments)
  | "set" => some (session.set arguments)
  | "shift" =>
    some (session.withCount name 1 arguments fun n =>
      if session.arguments.length < n then session.refuse name "can't shift that many"
      else { session with arguments := session.arguments.drop n, status := 0 })
  | "read" => some (session.readLine arguments)
  | "unset" => some (session.unset arguments)
  | "type" => some (session.describeNames false arguments)
  | "command" =>
    match OwnOptions.read ['p', 'v', 'V'] [] (arguments.length + 1) arguments with
    | .error fault => some (session.refuse name fault.message)
    | .ok options =>
      if options.has 'v' || options.has 'V' then
        some (session.describeNames (options.has 'v') (options.operands.take 1))
      else none
  | _ => none

end Session

end Runbook.Shell
