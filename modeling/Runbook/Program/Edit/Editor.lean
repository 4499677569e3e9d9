import Runbook.Program.Edit.Cycle
import Runbook.Program.Edit.Reader
import Runbook.Program.Tool

/-!
# The editor of lines

A program that edits what it reads by a script, and writes the result, or puts it into the files
that it has read.
-/

namespace Runbook.Program.Edit

/-- The options of the editor. -/
def editorOptions : OptionTable := .ofText "n|quiet |silent e|expression: f|file: E|regexp-extended
  r i|in-place? l|line-length: s|separate z|null-data u|unbuffered |posix |debug |sandbox
  |follow-symlinks b|binary"

/-- The first line of the help of the editor. -/
def editorUsage (name : String) : String :=
  "Usage: " ++ name ++ " [OPTION]... \x7bscript-only-if-no-other-script\x7d [input-file]..."

/-- What an editor is asked to do. -/
structure Order where
  options : Options
  chunks : List Source
  paths : List String

/-- A run that ends with a complaint. -/
def complaining (name : String) (code : UInt8) (text : String) : Run :=
  Tool.fail code [] [name ++ ": " ++ text]

/-- The content of a file, or why the editor cannot go on. -/
def readOpening (supply : Supply) (path : String) : Except String (List UInt8) :=
  match Tool.supplied supply path with
  | .ok bytes => .ok bytes
  | .error cause => .error ("couldn't open file " ++ path ++ ": " ++ Tool.reason cause)

/-- The chunks of a script that options give. Those that are no files are counted. -/
def chunksOf (supply : Supply) : (part : Nat) → List (String × Option String) →
    Except String (List Source)
  | _, [] => .ok []
  | part, ("e", some text) :: rest => do
    return .ofText (part + 1) none text.toList :: (← chunksOf supply (part + 1) rest)
  | part, ("f", some path) :: rest => do
    let bytes ← readOpening supply path
    return .ofText part (some path) (Text.Octets.chars bytes) :: (← chunksOf supply part rest)
  | part, _ :: rest => chunksOf supply part rest

/-- What the options and operands of an editor ask for. There is no answer without a script. -/
def Order.ofOptions (supply : Supply) (options : Options) : Except String (Option Order) := do
  match ← chunksOf supply 0 options.given, options.operands with
  | [], [] => return none
  | [], script :: paths => return some ⟨options, [.ofText 1 none script.toList], paths⟩
  | chunks, paths => return some ⟨options, chunks, paths⟩

namespace Order

/-- Whether the results go into the files that are read. -/
def inPlace (order : Order) : Bool := order.options.has "i"

/-- The byte that ends lines. -/
def mark (order : Order) : UInt8 := if order.options.has "z" then 0 else 10

/-- The paths that are read. -/
def sources (order : Order) : List String := if order.paths.isEmpty then ["-"] else order.paths

/-- The script. -/
def script (order : Order) : Except Refusal Script :=
  Script.read (order.options.has "E" || order.options.has "r")
    (order.options.has "n" || order.options.has "silent") order.chunks

end Order

/-- A file that is read: its lines, or a complaint, which may be the last thing that happens. -/
structure EditedFile where
  path : String
  lines : List InputLine
  complaint? : Option String
  isFatal : Bool

/-- Read a file. -/
def EditedFile.ofPath (order : Order) (supply : Supply) (path : String) : EditedFile :=
  let around := supply.around
  if order.inPlace then
    match around.tree.find around.directory path with
    | .ok (_, .file bytes _) => ⟨path, linesOf order.mark path bytes, none, false⟩
    | .ok _ => ⟨path, [], some ("couldn't edit " ++ path ++ ": not a regular file"), true⟩
    | .error cause => ⟨path, [], some ("can't read " ++ path ++ ": " ++ Tool.reason cause), false⟩
  else
    match Tool.supplied supply path with
    | .ok bytes => ⟨path, linesOf order.mark path bytes, none, false⟩
    | .error .isADirectory =>
      ⟨path, [], some ("read error on " ++ path ++ ": " ++ Tool.reason .isADirectory), true⟩
    | .error cause => ⟨path, [], some ("can't read " ++ path ++ ": " ++ Tool.reason cause), false⟩

/-- The files up to the first one with a fatal complaint. -/
def readable : List EditedFile → List EditedFile
  | [] => []
  | reading :: readings =>
    if reading.isFatal then [reading] else reading :: readable readings

/-- The files of which lines are taken, given how many. -/
def visited : (taken : Nat) → List EditedFile → List EditedFile
  | _, [] => []
  | 0, _ => []
  | taken, reading :: readings =>
    reading :: visited (taken - reading.lines.length) readings

/-- The path of the copy that is kept of a file. Stars in the ending stand for its name. -/
def copyPath (ending path : String) : String :=
  let (front, name) := match (path.toList.splitOn '/').reverse with
    | name :: front => (front.reverse, name)
    | [] => ([], [])
  let copy := if ending.contains '*' then
      ending.toList.flatMap fun c => if c = '*' then name else [c]
    else name ++ ending.toList
  if copy.contains '/' ∨ front.isEmpty then String.ofList copy
  else String.ofList (['/'].intercalate (front ++ [copy]))

/-- Put a content into a file, if that can be done. -/
def store {σ : Type} (host : Host σ) (state : σ) (path : String) (content : List UInt8) : σ :=
  (host.write path content state).toOption.getD state

/-- Put the result of an edit into a file, and the content that it had into a copy. -/
def replaceFile {σ : Type} (host : Host σ) (name : String) (ending? : Option String)
    (result : Written) (state : σ) (path : String) : σ :=
  let state := match ending?, Tool.supplied (host.supply name .none state) path with
    | some ending, .ok bytes => store host state (copyPath ending path) bytes
    | _, _ => state
  store host state path result.bytes

/-- The places that are no files. -/
def streams : List String := ["/dev/stdout", "/dev/stderr"]

/-- Carry out a script. -/
def carryOut {σ : Type} (host : Host σ) (name : String) (order : Order) (script : Script)
    (input : Input) (state : σ) : Run × σ :=
  let files := script.outlets.filter (!streams.contains ·)
  let opened := files.foldlM (fun state path =>
    match host.write path [] state with
    | .ok state => Except.ok state
    | .error cause => .error (path, cause)) state
  match opened with
  | .error (path, cause) =>
    (complaining name 4 ("couldn't open file " ++ path ++ ": " ++ Tool.reason cause), state)
  | .ok state =>
    let supply := host.supply name input state
    let readings := readable (order.sources.map (EditedFile.ofPath order supply))
    let separate := order.inPlace || order.options.has "s"
    let lines := if separate then readings.flatMap fun reading => markLast reading.lines
      else markLast (readings.flatMap (·.lines))
    let setting : Setting :=
      { script := script
        mark := order.mark
        width := ((order.options.value? "l").bind fun text =>
          Decimal.readNatural (2 ^ 31) text.toList).getD 70
        separate := separate
        inPlace := order.inPlace
        losesLast := order.options.has "posix"
        readFile := fun path => (Tool.supplied supply path).toOption.getD []
        runScript := fun script => (host.runScript .none script state).1.stdout }
    let (ending, done) := run setting lines
    let quits := ending matches .quit _ true
    let seen := if quits then visited (lines.length - done.lines.length) readings else readings
    let complaints := seen.filterMap (·.complaint?)
    let bytesOf (path : String) : List UInt8 := ((done.outlets.lookup path).getD .none).bytes
    let state := files.foldl (fun state path => store host state path (bytesOf path)) state
    let state := if order.inPlace then
        (seen.filter (·.complaint?.isNone)).foldl (fun state reading =>
          replaceFile host name (order.options.value? "i")
            ((done.outlets.lookup reading.path).getD .none) state reading.path) state
      else state
    let code : UInt8 := match ending with
      | .quit code _ =>
        if seen.any (·.isFatal) then 4 else if complaints.isEmpty then code else 2
      | _ => 1
    let fault := if ending = .broken then
        ["-e expression #1, char 0: no previous regular expression"] else []
    let readsInput := order.sources.contains "-" && !order.inPlace
    let isEndless := ending == .endless || (input.endless && readsInput && !quits)
    ({ status := .exited code
       written := (.complaints, bytesOf "/dev/stderr")
         :: (complaints ++ fault).map (fun text => Tool.told (name ++ ": " ++ text))
         ++ [Tool.shown (bytesOf "/dev/stdout")]
       milliseconds := if isEndless then none else some 0 }, state)

/-- Edit lines as a script says. -/
def sed : Errand where
  run host name arguments input state :=
    let usage (complaints : List String) : Run :=
      Tool.fail 1 [] (complaints.map (name ++ ": " ++ ·) ++ [editorUsage name])
    match Options.read editorOptions (fun _ => false) (arguments.length + 1) arguments with
    | .error fault => (usage [fault.message], state)
    | .ok options =>
      match Order.ofOptions (host.supply name input state) options with
      | .error text => (complaining name 4 text, state)
      | .ok none => (usage [], state)
      | .ok (some order) =>
        match order.script with
        | .error (.fault fault) => (complaining name 1 fault.message, state)
        | .error (.missingLabel label) =>
          (complaining name 4 ("can't find label for jump to " ++ accented label), state)
        | .ok script =>
          if order.inPlace && order.paths.isEmpty then (complaining name 4 "no input files", state)
          else carryOut host name order script input state

end Runbook.Program.Edit
