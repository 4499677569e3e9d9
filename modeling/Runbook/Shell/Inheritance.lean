import Runbook.Shell.Extended.Launch
import Runbook.Shell.Meaning
import Runbook.Shell.Signal

/-!
# Inheritance

What a program takes over from the shell that starts it, and a shell that is started as a program.
-/

namespace Runbook.Shell

namespace Session

/-- The variables that a program sees if the shell reads the language with arrays. A program that
takes the place of the shell is one level less deep. -/
def extendedInherited (session : Session) : Variables :=
  let seen := session.bindings.filter fun (name, _) => session.exported.contains name
  if session.replaces then
    let (path, others) := seen.partition fun (name, _) => name == "_"
    Extended.Table.onShelves (others.map fun (name, value) =>
      if name = "SHLVL" then
        (name, Decimal.digitText ((Decimal.readNatural 1000 value.toList).getD 1 - 1))
      else (name, value)) ++ path
  else Extended.Table.onShelves seen

/-- The variables that a program sees, shelf by shelf. -/
def inherited (session : Session) : Variables :=
  session.environment?.getD
    (if session.isExtended then session.extendedInherited
    else onShelves (session.bindings.filter fun (name, _) =>
      session.exported.contains name && name != "IFS"))

/-- What a program that is called by some name can read. -/
def supply (session : Session) (name : String) : Program.Supply :=
  ⟨name, session.input, session.around, session.inherited⟩

/-- The path on which a shell that is started comes to its directory. -/
def inheritedWay (session : Session) : FilePath :=
  (((session.inherited.lookup "PWD").filter fun path =>
    FileTree.isAbsolute path && session.around.isSame path ".").map fun path =>
      (FileTree.splitPath path).filter (· != "")).getD session.directory

/-- The session of a plain shell that is started as a program. -/
def nested (session : Session) (launch : Launch) : Session :=
  let way := session.inheritedWay
  let inherited := session.inherited
  let bindings := inherited.foldl (fun bindings (name, value) =>
    bindings.insert name value) usualBindings
  { session with
    dialect := .plain
    name := launch.name
    origin := launch.name
    origins := []
    frames := []
    isText := false
    subshells := 0
    nesting := 0
    replaces := false
    tables := []
    traits := []
    pipeline := []
    pile := []
    extras := []
    line := 1
    caller := ""
    arguments := launch.arguments
    bindings := bindings.insert "PWD" (Program.Tool.pathText way)
    exported := "PWD" :: inherited.map (·.1)
    environment? := none
    way := way
    fixed := []
    functions := []
    aliases := []
    walk := (1, none)
    locals? := none
    traps := []
    loops := 0
    calls := 0
    switches := launch.switches
    guarded := false }

/-- The variables of a shell of the extended language that begins. -/
def usualExtendedBindings (program : String) : Variables :=
  [("BASH", if program.contains '/' then program else "/usr/bin/" ++ program),
    ("BASH_VERSION", "5.2.15(1)-release"), ("EUID", "0"), ("HOSTNAME", "localhost"),
    ("HOSTTYPE", "x86_64"), ("IFS", " \t\n"), ("MACHTYPE", "x86_64-pc-linux-gnu"),
    ("OPTERR", "1"), ("OPTIND", "1"), ("OSTYPE", "linux-gnu"),
    ("PATH", "/usr/local/sbin:/usr/local/bin:/usr/sbin:/usr/bin:/sbin:/bin"),
    ("PPID", Decimal.digitText (Child.outerNumber 0 - 1)), ("PS4", "+ "), ("SHELL", "/bin/bash"),
    ("TERM", "dumb"), ("UID", "0")]

/-- The session of a shell of the extended language that is started as a program. -/
def nestedExtended (session : Session) (program : String) (start : Extended.Start) : Session :=
  let base := session.nested start.toLaunch
  let inherited := session.inherited
  let level := ((inherited.lookup "SHLVL").bind fun text =>
    Decimal.readNatural 998 text.toList).getD 0
  let bindings := inherited.foldl (fun bindings (name, value) =>
    bindings.insert name value) (usualExtendedBindings program)
  let bindings := bindings.insert "SHLVL" (Decimal.digitText (level + 1))
  { base with
    dialect := .extended
    isText := match start.source with
      | .text _ => true
      | _ => false
    frames := match start.source with
      | .file path => [⟨"main", path, 0⟩]
      | _ => []
    bindings := bindings.insert "PWD" (Program.Tool.pathText base.way)
    exported := ["OLDPWD", "PWD", "SHLVL", "_"] ++ inherited.map (·.1)
    fixed := ["EUID", "PPID", "UID"]
    traits := [("EUID", 'i'), ("PPID", 'i'), ("UID", 'i')]
    extras := start.extras
    lastWord := program }

/-- The session of a shell that is started as a program, and what it runs. -/
def started (session : Session) (program known : String) (arguments : List String) :
    Session × Source :=
  if known = "bash" then
    let start := Extended.Start.ofArguments program arguments
    (session.nestedExtended program start, start.source)
  else
    let launch := Launch.ofArguments program [] false false arguments
    (session.nested launch, launch.source)

/-- Bring back what belongs to the shell around a shell that was started as a program. A signal that
has ended a program in the place of the shell has ended the shell. -/
def leaveNested (outer inner : Session) : Session :=
  match inner.flow with
  | .killed signal =>
    if outer.replaces && outer.subshells == 0 then outer.leavePart inner
    else (outer.leavePart { inner with flow := .on, status := 128 + signal }).tellSignal signal
  | _ => outer.leavePart inner

end Session

end Runbook.Shell
