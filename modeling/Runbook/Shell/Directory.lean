import Runbook.Shell.OwnOption

/-!
# Texts, conditions and the directory of a shell

Commands of the shell itself that write texts, test conditions and go from one directory to another.
-/

namespace Runbook.Shell

/-! ## Texts and conditions -/

namespace Session

/-- Write what a command of the shell itself has to write, if there is a place to write it to. -/
def writeAs (session : Session) (name : String) (bytes : List UInt8) : Session :=
  if bytes.isEmpty || (session.streams.lookup 1).isSome then (session.write bytes).finish 0
  else (session.complain (name ++ ": " ++ name ++ ": I/O error")).finish 1

/-- Write text as the shell does, in which escapes always count. -/
def echo (session : Session) (arguments : List String) : Session :=
  let (noBreak, words) := match arguments with
    | "-n" :: words => (true, words)
    | words => (false, words)
  let (bytes, ending) := Program.unescapeText ⟨true, false, true, false⟩ (" ".intercalate words)
  session.writeAs "echo" (if noBreak || !ending.goesOn then bytes else bytes ++ [10])

/-- The wording of a complaint about a number in a format. -/
def complaintText (complaint : Program.Printf.Complaint) : String :=
  "printf: " ++ complaint.text ++ ": " ++ match complaint.fault with
    | .notNumeric => "expected numeric value"
    | .notComplete => "not completely converted"
    | .outOfRange => "Numerical result out of range"

/-- Write arguments in a format. -/
def printf (session : Session) (arguments : List String) : Session :=
  session.withOptions "printf" "" "" arguments fun options =>
  match options.operands with
  | [] => session.refuse "printf" "usage: printf format [arg ...]"
  | format :: arguments =>
    let (written, _) := Program.Printf.write Program.Printf.shellStyle format arguments
    let session := written.complaints.foldl (fun session complaint =>
      session.complain (complaintText complaint)) (session.writeAs "printf" written.bytes)
    match written.fault? with
    | some (.unknownConversion text) =>
      (session.complain ("printf: " ++ text ++ ": invalid directive")).finish 2
    | some (.badEscape fault) => (session.complain ("printf: " ++ fault.message)).finish 2
    | none => if written.complaints.isEmpty then session else session.finish 1

/-- The wording of a fault of a condition. -/
def faultText : Program.Condition.Fault → String
  | .noNumber text => "Illegal number: " ++ text
  | .missingAfter text => text ++ ": argument expected"
  | .notClosed _ => "closing paren expected"
  | .noLength operator => operator ++ ": unexpected operator"
  | .noUnary text | .noBinary text | .extra text =>
    (if text = "" then "" else text ++ ": ") ++ "unexpected operator"

/-- Test a condition. -/
def test (session : Session) (name : String) (arguments : List String) : Session :=
  match Program.Condition.holdsInShell session.around arguments with
  | .ok true => session.finish 0
  | .ok false => session.finish 1
  | .error fault => (session.complain (name ++ ": " ++ faultText fault)).finish 2

end Session

/-! ## The directory

A shell remembers the path on which it came to its directory. Going up leads back on that path, and
not to where the directory really stands. -/

namespace Session

/-- Names on a path from the root, without those that only lead on or back. -/
def walkNames : (before : FilePath) → List String → FilePath
  | before, [] => before
  | before, name :: names =>
    if name = "" ∨ name = "." then walkNames before names
    else if name = ".." then walkNames before.dropLast names
    else walkNames (before ++ [name]) names

/-- Go to a directory on a path. -/
def goTo (session : Session) (place way : FilePath) : Session :=
  let session := (session.assign "OLDPWD" (Program.Tool.pathText session.way)).assign "PWD"
    (Program.Tool.pathText way)
  { session with
    directory := place
    way := way
    exported := "PWD" :: "OLDPWD" :: session.exported
    status := 0 }

/-- Go to a directory. -/
def changeDirectory (session : Session) (name : String) (arguments : List String) : Session :=
  session.withOptions name "LP" "" arguments fun options =>
    let back := options.operands.head? = some "-"
    let target := match options.operands with
      | [] => (session.value? "HOME").getD ""
      | "-" :: _ => (session.value? "OLDPWD").getD ""
      | text :: _ => text
    let physical := (options.given.reverse.head?.map (·.1)) == some 'P'
    let around := session.around
    let way := walkNames (if FileTree.isAbsolute target then [] else session.way)
      (FileTree.splitPath target)
    let path := if physical then target else Program.Tool.pathText way
    let found := if target = "" then .ok (session.directory, .directory)
      else around.tree.find around.directory path
    match found with
    | .ok (place, .directory) =>
      let moved := session.goTo place (if physical then place else way)
      if back then moved.writeLine (Program.Tool.pathText moved.way) else moved
    | _ => session.refuse name ("can't cd to " ++ target)

/-- Write the directory. -/
def tellDirectory (session : Session) (arguments : List String) : Session :=
  session.withOptions "pwd" "LP" "" arguments fun options =>
    let physical := (options.given.reverse.head?.map (·.1)) == some 'P'
    let path := if physical then session.directory else session.way
    session.writeAs "pwd" (Text.Octets.toBytes (Program.Tool.pathText path ++ "\n"))

end Session

end Runbook.Shell
