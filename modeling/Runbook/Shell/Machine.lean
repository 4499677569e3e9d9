import Runbook.Shell.Execution

/-!
# A machine of its own

A machine that has a shell and a few small programs, and nothing else.
-/

namespace Runbook.Shell

/-- How many bytes an argument may have. -/
def longestArgument : Nat := 131071

/-- The files around a program that is started. -/
def surroundings : Program.Condition.Surroundings :=
  ⟨Program.Tool.installed, Program.Tool.workplace⟩

/-- Start a program, or tell why that cannot be done. -/
def start (program : String) (arguments : List String) : Except Program.StartError Program.Run :=
  if (program :: arguments).any (fun text => text.toList.contains '\x00') then .error .nulByte
  else
    match Program.Tool.call surroundings program arguments with
    | .error cause => .error cause
    | .ok call =>
      if arguments.any (fun text => longestArgument < text.utf8ByteSize) then .error .tooLong
      else
        .ok (run (Text.Octets.ofText program) call.known (arguments.map Text.Octets.ofText))

/-- The machine. No process changes it. -/
def machine : Program.Machine Unit where
  start program arguments state := (start program arguments, state)

end Runbook.Shell
