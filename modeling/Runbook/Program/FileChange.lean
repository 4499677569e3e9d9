import Runbook.Program.Lines
import Runbook.Program.PathName
import Runbook.Program.Tool

/-!
# Changes to files

Programs that make, copy, move and remove files and directories.
-/

namespace Runbook.Program

/-- How far a program has come that does something for one path after the other. -/
structure Progress (σ : Type) where
  state : σ
  /-- The name by which the program was called. -/
  name : String
  written : Writings
  /-- Something went wrong about which nothing is said. -/
  failed : Bool

namespace Progress

/-- Nothing is done yet. -/
def start {σ : Type} (name : String) (state : σ) : Progress σ := ⟨state, name, [], false⟩

/-- How often the program has complained. -/
def complaintCount {σ : Type} (progress : Progress σ) : Nat :=
  progress.written.countP (·.1 == .complaints)

/-- Add a complaint. -/
def complain {σ : Type} (progress : Progress σ) (text : String) : Progress σ :=
  { progress with
    written := progress.written ++ [Tool.told (progress.name ++ ": " ++ text)] }

/-- Add a line to what is written. -/
def tell {σ : Type} (progress : Progress σ) (isOn : Bool) (text : String) : Progress σ :=
  if isOn then
    { progress with
      written := progress.written ++ [Tool.shown (Text.Octets.toBytes (text ++ "\n"))] }
  else progress

/-- Go on in another state. -/
def moveTo {σ : Type} (progress : Progress σ) (state : σ) : Progress σ :=
  { progress with state := state }

/-- The run of the program. -/
def toRun {σ : Type} (progress : Progress σ) : Run × σ :=
  let run := Tool.concludeWith 1 progress.written
  (if progress.failed then { run with status := .exited 1 } else run, progress.state)

end Progress

namespace Host

variable {σ : Type} (host : Host σ)

/-- What stands at a path. -/
def find (state : σ) (path : String) : Except FileError (FilePath × FileEntry) :=
  let around := host.around state
  around.tree.find around.directory path

/-- What stands at a path, without following a link at its end. -/
def findOwn (state : σ) (path : String) : Except FileError (FilePath × FileEntry) :=
  let around := host.around state
  around.tree.findOwn around.directory path

/-- Whether there is a directory at a path. -/
def isDirectory (state : σ) (path : String) : Bool :=
  match host.find state path with
  | .ok (_, .directory) => true
  | _ => false

/-- The names in a directory. -/
def names (state : σ) (place : FilePath) : List String :=
  ((host.around state).tree.list [] (Tool.pathText place)).getD []

/-- What stands at a place and below it, each behind the directory that it stands in. -/
def entriesBelow (state : σ) (place : FilePath) : List (FilePath × FileEntry) :=
  ((host.around state).tree.filter fun other => place.isPrefixOf other.1).mergeSort
    fun left right => left.1.length ≤ right.1.length

/-- The place of a new entry at a path, behind which slashes may stand. -/
def newDirectoryPlace (state : σ) (path : String) : Except FileError FilePath :=
  let chars := (path.toList.reverse.dropWhile (· == '/')).reverse
  host.newPlace state (if chars.isEmpty then path else String.ofList chars)

end Host

namespace FileChange

/-- A path below a directory. -/
def below (directory name : String) : String :=
  if directory.endsWith "/" then directory ++ name else directory ++ "/" ++ name

/-- Run a program that does something for each of its operands. There has to be one unless the
options say otherwise. -/
def forOperands {σ : Type} (name table missing : String) (needsNone : Options → Bool)
    (arguments : List String) (state : σ)
    (body : Options → Progress σ → String → Progress σ) : Run × σ :=
  match Options.read (.ofText table) (fun _ => false) (arguments.length + 1) arguments with
  | .error fault => (Tool.refuse name fault.message, state)
  | .ok options =>
    if options.operands.isEmpty then
      if needsNone options then (Tool.succeed [], state)
      else (Tool.refuse name missing, state)
    else (options.operands.foldl (body options) (Progress.start name state)).toRun

/-! ## Removal -/

/-- The lines that tell what is removed: all that stands in a directory, and then the directory. -/
def removalLines {σ : Type} (host : Host σ) (state : σ) :
    (fuel : Nat) → (path : String) → FilePath → List String
  | 0, _, _ => []
  | fuel + 1, path, place =>
    match (host.around state).tree.entry? place with
    | some .directory =>
      (host.names state place).flatMap (fun name =>
        removalLines host state fuel (below path name) (place ++ [name]))
        ++ ["removed directory " ++ Mention.shellQuoted path]
    | _ => ["removed " ++ Mention.shellQuoted path]

/-- Remove what stands at a path. -/
def removePath {σ : Type} (host : Host σ) (options : Options) (progress : Progress σ)
    (path : String) : Progress σ :=
  let refuse (why : String) : Progress σ :=
    progress.complain ("cannot remove " ++ Mention.shellQuoted path ++ ": " ++ why)
  let whole := options.has "r" || options.has "R"
  let last := Tool.lastName path
  match host.findOwn progress.state path with
  | .error cause =>
    if options.has "f" && (cause == .notFound || cause == .notADirectory) then progress
    else refuse (Tool.reason cause)
  | .ok (place, .directory) =>
    let isEmpty := (host.names progress.state place).isEmpty
    if !whole && !options.has "d" then refuse (Tool.reason .isADirectory)
    else if last = "." ∨ last = ".." then
      progress.complain ("refusing to remove '.' or '..' directory: skipping "
        ++ Mention.shellQuoted path)
    else if place.isEmpty && !options.has "no-preserve-root" then
      (progress.complain "it is dangerous to operate recursively on '/'").complain
        "use --no-preserve-root to override this failsafe"
    else if !whole && !isEmpty then refuse "Directory not empty"
    else
      let lines := removalLines host progress.state 64 path place
      (lines.foldl (·.tell (options.has "v") ·) progress).moveTo
        (host.remove progress.state place)
  | .ok (place, _) =>
    (progress.tell (options.has "v") ("removed " ++ Mention.shellQuoted path)).moveTo
      (host.remove progress.state place)

/-- Remove files, or whole directories. -/
def remove : Errand where
  run host name arguments _ state :=
    let table := "f|force i I r|recursive R d|dir v|verbose |interactive? |one-file-system "
      ++ "|no-preserve-root |preserve-root?"
    forOperands name table "missing operand" (·.has "f") arguments state (removePath host)

/-- Remove an empty directory. -/
def removeDirectory {σ : Type} (host : Host σ) (options : Options) (progress : Progress σ)
    (path : String) : Progress σ :=
  let told := progress.tell (options.has "v")
    (progress.name ++ ": removing directory, " ++ Mention.shellQuoted path)
  let refuse (why : String) : Progress σ :=
    told.complain ("failed to remove " ++ Mention.shellQuoted path ++ ": " ++ why)
  match host.findOwn progress.state path with
  | .error cause => refuse (Tool.reason cause)
  | .ok (place, .directory) =>
    if Tool.lastName path = "." then refuse "Invalid argument"
    else if (host.names progress.state place).isEmpty then
      told.moveTo (host.remove progress.state place)
    else if options.has "ignore-fail-on-non-empty" then told
    else refuse "Directory not empty"
  | .ok _ => refuse (Tool.reason .notADirectory)

/-- A path, and those of the directories that it leads through, the longest first. -/
def withFronts (path : String) : List String :=
  let names := (FileTree.splitPath path).reverse.dropWhile (· == "")
  let fronts := (List.range names.length).map names.drop
  (fronts.filter fun front => front.head?.any (· != "")).map fun front =>
    "/".intercalate front.reverse

/-- Remove empty directories. -/
def removeDirectories : Errand where
  run host name arguments _ state :=
    let table := "p|parents v|verbose |ignore-fail-on-non-empty"
    forOperands name table "missing operand" (fun _ => false) arguments state
        fun options progress path =>
      if options.has "p" then
        (withFronts path).foldl (fun done front =>
          if done.complaintCount = progress.complaintCount then
            removeDirectory host options done front
          else done) progress
      else removeDirectory host options progress path

/-! ## New entries -/

/-- Make a directory. -/
def makeDirectory {σ : Type} (host : Host σ) (options : Options) (progress : Progress σ)
    (path : String) : Progress σ :=
  let refuse (why : String) : Progress σ :=
    progress.complain ("cannot create directory " ++ Mention.marked path ++ ": " ++ why)
  match host.findOwn progress.state path with
  | .ok _ =>
    if options.has "p" && host.isDirectory progress.state path then progress
    else refuse "File exists"
  | .error _ =>
    match host.newDirectoryPlace progress.state path with
    | .ok place =>
      (progress.tell (options.has "v")
        (progress.name ++ ": created directory " ++ Mention.marked path)).moveTo
        (host.put progress.state place .directory)
    | .error cause => refuse (Tool.reason cause)

/-- Make directories. -/
def makeDirectories : Errand where
  run host name arguments _ state :=
    let table := "p|parents m|mode: v|verbose Z |context?"
    forOperands name table "missing operand" (fun _ => false) arguments state
        fun options progress path =>
      if options.has "p" && path != "" then
        (withFronts path).reverse.foldl (fun done front =>
          if done.complaintCount != progress.complaintCount then done
          else if (host.find done.state front).toOption.any (·.2 != .directory)
            && front != (withFronts path).headD "" then
            done.complain ("cannot create directory " ++ Mention.marked front ++ ": "
              ++ Tool.reason .notADirectory)
          else makeDirectory host options done front) progress
      else makeDirectory host options progress path

/-- Make empty files where there are none. -/
def touch : Errand where
  run host name arguments _ state :=
    let table := "a c|no-create d|date: f h|no-dereference m r|reference: t: |time:"
    forOperands name table "missing file operand" (fun _ => false) arguments state
        fun options progress path =>
      match host.find progress.state path with
      | .ok _ => progress
      | .error cause =>
        let refuse (why : String) : Progress _ :=
          progress.complain ("cannot touch " ++ Mention.shellQuoted path ++ ": " ++ why)
        if options.has "c" then progress
        else if cause != .notFound then refuse (Tool.reason cause)
        else if path.endsWith "/" then
          progress.complain ("setting times of " ++ Mention.shellQuoted path ++ ": "
            ++ Tool.reason cause)
        else
          match host.newPlace progress.state path with
          | .ok place =>
            let entry := host.newFile progress.state [] 0o666
            progress.moveTo (host.put progress.state place entry)
          | .error cause => refuse (Tool.reason cause)

/-- Write the input to files as well as to the output. -/
def tee : Errand where
  run host name arguments input state :=
    match Options.read (.ofText "a|append i|ignore-interrupts p |output-error?") (fun _ => false)
        (arguments.length + 1) arguments with
    | .error fault => (Tool.refuse name fault.message, state)
    | .ok options =>
      let writeFile (progress : Progress _) (path : String) : Progress _ :=
        let before := if options.has "a" then
            (Tool.supplied (host.supply name .none progress.state) path).toOption.getD [] else []
        match host.write path (before ++ input.bytes) progress.state with
        | .ok state => progress.moveTo state
        | .error cause => progress.complain (Mention.shellWord path ++ ": " ++ Tool.reason cause)
      let isStream (path : String) : Bool := path == "/dev/stdout" || path == "/dev/stderr"
      let (streams, files) := options.operands.partition isStream
      let copies (stream : String) : List UInt8 :=
        ((streams.filter (· == stream)).map fun _ => input.bytes).flatten
      let (run, state) := (files.foldl writeFile (Progress.start name state)).toRun
      ({ run with
        written := run.written ++ [Tool.shown (input.bytes ++ copies "/dev/stdout"),
          (.complaints, copies "/dev/stderr")]
        milliseconds := if input.endless then none else run.milliseconds }, state)

/-! ## Copies -/

/-- What copying, moving and linking have in common: what the program does for a source and the path
that it goes to. -/
structure Transfer (σ : Type) where
  /-- Links are made. -/
  links : Bool
  table : String
  act : Options → Progress σ → (source target : String) → Progress σ

/-- The path of a source in a directory. -/
def inside (directory source : String) : String := below directory (Tool.lastName source)

/-- Transfer sources into a directory. -/
def Transfer.into {σ : Type} (transfer : Transfer σ) (host : Host σ) (name : String)
    (options : Options) (directory : String) (sources : List String) (state : σ) : Run × σ :=
  match host.find state directory with
  | .ok (_, .directory) =>
    (sources.foldl (fun progress source =>
      transfer.act options progress source (inside directory source))
      (Progress.start name state)).toRun
  | found =>
    let why := match found with
      | .error cause => Tool.reason cause
      | .ok _ => Tool.reason .notADirectory
    (Tool.fail 1 []
      [name ++ ": target " ++ Mention.shellQuoted directory ++ ": " ++ why], state)

/-- Transfer what the operands name to where the last one of them says. -/
def Transfer.run {σ : Type} (transfer : Transfer σ) (host : Host σ) (name : String)
    (arguments : List String) (state : σ) : Run × σ :=
  match Options.read (.ofText transfer.table) (fun _ => false) (arguments.length + 1)
      arguments with
  | .error fault => (Tool.refuse name fault.message, state)
  | .ok options =>
    let direct (source target : String) : Run × σ :=
      (transfer.act options (Progress.start name state) source target).toRun
    let missing (source : String) : Run × σ :=
      (Tool.refuse name ("missing destination file operand after "
        ++ Mention.shellQuoted source), state)
    match options.value? "t", options.operands with
    | _, [] => (Tool.refuse name "missing file operand", state)
    | some directory, sources => transfer.into host name options directory sources state
    | none, [source] =>
      if transfer.links && !options.has "T" then direct source (inside "." source)
      else missing source
    | none, [source, target] =>
      let isLink := match host.findOwn state target with
        | .ok (_, .link _) => true
        | _ => false
      if options.has "T" || !host.isDirectory state target
        || (transfer.links && options.has "n" && isLink) then direct source target
      else transfer.into host name options target [source] state
    | none, operands =>
      if options.has "T" then
        (Tool.refuse name (Tool.extraOperand (operands.getD 2 "")), state)
      else transfer.into host name options (operands.getLastD "") operands.dropLast state

/-- Copy what stands at a place to a path. -/
def copyEntry {σ : Type} (host : Host σ) (options : Options) :
    (fuel : Nat) → Progress σ → (source target : String) → Progress σ
  | 0, progress, _, _ => progress
  | fuel + 1, progress, source, target =>
    let state := progress.state
    let shown (path : String) : String := Mention.shellQuoted path
    let whole := options.has "r" || options.has "R" || options.has "a"
    let follows := options.has "L" || (!whole && !options.has "P" && !options.has "d")
    let told := progress.tell (options.has "v") (shown source ++ " -> " ++ shown target)
    match if follows then host.find state source else host.findOwn state source with
    | .error cause =>
      progress.complain ("cannot stat " ++ shown source ++ ": " ++ Tool.reason cause)
    | .ok (from_, entry) =>
      let target? := (host.find state target).toOption
      match entry, target? with
      | .directory, target? =>
        if !whole then
          progress.complain ("-r not specified; omitting directory " ++ shown source)
        else
          match target?, host.newDirectoryPlace state target with
          | some (_, other), .ok place =>
            if other != .directory then
              progress.complain ("cannot overwrite non-directory " ++ shown target
                ++ " with directory " ++ shown source)
            else if from_.isPrefixOf place then
              progress.complain ("cannot copy a directory, " ++ shown source ++ ", into itself, "
                ++ shown target)
            else
              (host.names state from_).foldl (fun progress name =>
                copyEntry host options fuel progress (below source name) (below target name))
                progress
          | none, .ok place =>
            if from_.isPrefixOf place then
              progress.complain ("cannot copy a directory, " ++ shown source ++ ", into itself, "
                ++ shown target)
            else
              (host.names state from_).foldl (fun progress name =>
                copyEntry host options fuel progress (below source name) (below target name))
                (told.moveTo (host.put state place .directory))
          | _, .error cause =>
            progress.complain ("cannot create directory " ++ shown target ++ ": "
              ++ Tool.reason cause)
      | entry, some (goal, other) =>
        if from_ = goal then
          progress.complain (shown source ++ " and " ++ shown target ++ " are the same file")
        else if other = .directory then
          progress.complain ("cannot overwrite directory " ++ shown target
            ++ " with non-directory")
        else if options.has "n" then progress
        else if other = .device then told
        else
          match entry, other with
          | .file content _, .file _ mode => told.moveTo (host.put state goal (.file content mode))
          | entry, _ => told.moveTo (host.put state goal entry)
      | entry, none =>
        match if target.endsWith "/" then .error FileError.notADirectory
          else host.newPlace state target with
        | .ok place =>
          let copy := match entry with
            | .device => host.newFile state [] 0o666
            | .file content mode => host.newFile state content mode
            | entry => entry
          told.moveTo (host.put state place copy)
        | .error cause =>
          if host.find state target matches .error .notADirectory then
            progress.complain ("cannot stat " ++ shown target ++ ": "
              ++ Tool.reason .notADirectory)
          else
            let cause := if host.isDirectory state (Tool.directoryName target) then cause
              else FileError.notFound
            progress.complain ("cannot create regular file " ++ shown target ++ ": "
              ++ Tool.reason cause)

/-- Copy files and directories. -/
def copy : Errand where
  run host name arguments _ state :=
    let table := "a|archive b d f|force i|interactive H l|link L|dereference n|no-clobber "
      ++ "P|no-dereference p r|recursive R s|symbolic-link S|suffix: t|target-directory: "
      ++ "T|no-target-directory u|update v|verbose x|one-file-system Z |attributes-only |backup? "
      ++ "|copy-contents |no-preserve: |parents |preserve? |reflink? |remove-destination |sparse: "
      ++ "|strip-trailing-slashes |context?"
    Transfer.run ⟨false, table, fun options => copyEntry host options 64⟩ host name arguments state

/-- Move what stands at a path. -/
def moveEntry {σ : Type} (host : Host σ) (options : Options) (progress : Progress σ)
    (source target : String) : Progress σ :=
  let state := progress.state
  let shown (path : String) : String := Mention.shellQuoted path
  let refuse (text : String) : Progress σ := progress.complain text
  match host.findOwn state source with
  | .error cause => refuse ("cannot stat " ++ shown source ++ ": " ++ Tool.reason cause)
  | .ok (from_, entry) =>
    let isDirectory := entry == .directory
    let found := host.findOwn state target
    let place := match found with
      | .ok (place, _) => Except.ok place
      | .error _ =>
        if isDirectory then host.newDirectoryPlace state target else host.newPlace state target
    match place with
    | .error .notADirectory =>
      refuse ("cannot stat " ++ shown target ++ ": " ++ Tool.reason .notADirectory)
    | .error cause =>
      let cause := if target.endsWith "/" then FileError.notADirectory else cause
      refuse ("cannot move " ++ shown source ++ " to " ++ shown target ++ ": "
        ++ Tool.reason cause)
    | .ok place =>
      let other? := found.toOption.map (·.2)
      if place = from_ then
        refuse (shown source ++ " and " ++ shown target ++ " are the same file")
      else if isDirectory && from_.isPrefixOf place then
        refuse ("cannot move " ++ shown source ++ " to a subdirectory of itself, "
          ++ shown target)
      else if isDirectory && other?.any (· != .directory) then
        refuse ("cannot overwrite non-directory " ++ shown target ++ " with directory "
          ++ shown source)
      else if !isDirectory && other? == some .directory then
        refuse ("cannot overwrite directory " ++ shown target ++ " with non-directory")
      else if isDirectory && !(host.names state place).isEmpty then
        refuse ("cannot move " ++ shown source ++ " to " ++ shown target
          ++ ": Directory not empty")
      else if options.has "n" && other?.isSome then progress
      else
        let moved := (host.entriesBelow state from_).map fun (path, entry) =>
          (place ++ path.drop from_.length, entry)
        let state := host.remove state from_
        let state := moved.foldl (fun state (path, entry) => host.put state path entry) state
        (progress.tell (options.has "v")
          ("renamed " ++ shown source ++ " -> " ++ shown target)).moveTo state

/-- Move files and directories. -/
def move : Errand where
  run host name arguments _ state :=
    let table := "b f|force i|interactive n|no-clobber S|suffix: t|target-directory: "
      ++ "T|no-target-directory u|update v|verbose Z |backup? |strip-trailing-slashes"
    Transfer.run ⟨false, table, moveEntry host⟩ host name arguments state

/-- Make a link to a source. A link that is not symbolic is a copy. -/
def linkEntry {σ : Type} (host : Host σ) (options : Options) (progress : Progress σ)
    (source target : String) : Progress σ :=
  let state := progress.state
  let isSymbolic := options.has "s"
  let shown (path : String) : String := Mention.shellQuoted path
  let kind := if isSymbolic then "symbolic" else "hard"
  let refuse (cause : String) (isNamed : Bool) : Progress σ :=
    progress.complain ("failed to create " ++ kind ++ " link " ++ shown target
      ++ (if isNamed then " => " ++ shown source else "") ++ ": " ++ cause)
  let source := if isSymbolic && options.has "r" then
      Tool.pathBetween (Tool.resolveLoose (host.around state) (Tool.directoryName target))
        (Tool.resolveLoose (host.around state) source)
    else source
  let entry : Except (Progress σ) FileEntry :=
    if isSymbolic then .ok (.link source)
    else
      match host.findOwn state source with
      | .error cause =>
        .error (progress.complain ("failed to access " ++ shown source ++ ": "
          ++ Tool.reason cause))
      | .ok (_, .directory) =>
        .error (progress.complain (Mention.shellWord source
          ++ ": hard link not allowed for directory"))
      | .ok (_, entry) => .ok entry
  match entry with
  | .error progress => progress
  | .ok entry =>
    let told := progress.tell (options.has "v")
      (shown target ++ (if isSymbolic then " -> " else " => ") ++ shown source)
    match host.findOwn state target with
    | .ok (place, other) =>
      if options.has "f" && other != .directory then told.moveTo (host.put state place entry)
      else refuse "File exists" false
    | .error _ =>
      match host.newPlace state target with
      | .ok place => told.moveTo (host.put state place entry)
      | .error cause => refuse (Tool.reason cause) !isSymbolic

/-- Make links. -/
def link : Errand where
  run host name arguments _ state :=
    let table := "b d F f|force i|interactive L|logical n|no-dereference P|physical r|relative "
      ++ "s|symbolic S|suffix: t|target-directory: T|no-target-directory v|verbose |backup? "
      ++ "|directory"
    Transfer.run ⟨true, table, linkEntry host⟩ host name arguments state

/-! ## Names of new files -/

/-- The characters of names that nobody has chosen. -/
def nameLetters : List Char :=
  "abcdefghijklmnopqrstuvwxyzABCDEFGHIJKLMNOPQRSTUVWXYZ0123456789".toList

/-- A name of some length, given how many were made before. -/
def freeName (length count : Nat) : List Char :=
  (List.range length).map fun index =>
    nameLetters.getD ((index * index * 31 + index * 7 + 11 + count * (index + 1)) % 62) 'a'

/-- Make a new file or directory with a name that is not used yet, and write its path. -/
def makeTemporary : Errand where
  run host name arguments _ state :=
    match Options.read (.ofText "d|directory u|dry-run q|quiet p: |tmpdir? t |suffix:")
        (fun _ => false) (arguments.length + 1) arguments with
    | .error fault => (Tool.refuse name fault.message, state)
    | .ok options =>
      let complain (text : String) : Run × _ :=
        (Tool.fail 1 [] (if options.has "q" then [] else [name ++ ": " ++ text]), state)
      match options.operands with
      | _ :: _ :: _ => (Tool.refuse name "too many templates", state)
      | operands =>
        let isBelow := options.has "p" || options.has "tmpdir" || options.has "t"
          || operands.isEmpty
        let usual := ((host.environment state).lookup "TMPDIR").filter (· != "") |>.getD "/tmp"
        let directory := (options.value? "p").orElse (fun () => options.value? "tmpdir")
          |>.getD usual
        let template := operands.headD "tmp.XXXXXXXXXX"
        let (behind, front) := template.toList.reverse.span (· != 'X')
        let marks := front.takeWhile (· == 'X')
        let front := String.ofList (front.drop marks.length).reverse
        let ending := String.ofList behind.reverse ++ (options.value? "suffix").getD ""
        let whole (count : Nat) : String :=
          let chosen := front ++ String.ofList (freeName marks.length count) ++ ending
          if isBelow then below directory chosen else chosen
        if marks.length < 3 then
          (Tool.fail 1 [] [name ++ ": too few X's in template " ++ Mention.marked template], state)
        else
          let isFree (count : Nat) : Bool := !(host.findOwn state (whole count)).isOk
          let path := whole (((List.range 256).find? isFree).getD 0)
          match host.newPlace state path with
          | .error cause =>
            let shown := if isBelow then below directory template else template
            complain ("failed to create " ++ (if options.has "d" then "directory" else "file")
              ++ " via template " ++ Mention.marked shown ++ ": " ++ Tool.reason cause)
          | .ok place =>
            let entry : FileEntry := if options.has "d" then .directory else .file [] 0o600
            (Tool.line path, if options.has "u" then state else host.put state place entry)

/-- The programs by their names. -/
def named : List (String × Errand) :=
  [("rm", remove), ("rmdir", removeDirectories), ("mkdir", makeDirectories), ("touch", touch),
    ("tee", tee), ("cp", copy), ("mv", move), ("ln", link), ("mktemp", makeTemporary)]

end FileChange

end Runbook.Program
