import Runbook.Program.FileChange

/-!
# Modes

The modes of files, and the programs that change them. A mode has three bits for each kind of users,
which allow to read, write and run a file, and three bits with other meanings in front.
-/

namespace Runbook.Program

namespace Mode

/-- All bits of a mode. -/
def whole : Nat := 0o7777

/-- The bits of a mode that are not in another one. -/
def without (mode other : Nat) : Nat := mode &&& (whole ^^^ (other &&& whole))

/-- What a change does with bits. -/
inductive Operation where
  | add
  | remove
  | set
deriving DecidableEq, Repr, Inhabited

/-- Which bits a change is about. -/
inductive Source where
  | bits (value : Nat)
  /-- Files that may be run by somebody, and directories, may be run by others as well. -/
  | bitsAndRun (value : Nat)
  /-- The bits that one kind of users has. -/
  | copy (owner : Nat)
deriving DecidableEq, Repr, Inhabited

/-- A change of a mode for some kinds of users, by their bits. Without any bits it is for all of
them. -/
structure Change where
  affected : Nat
  operation : Operation
  source : Source
deriving DecidableEq, Repr, Inhabited

/-- The operation of a sign. -/
def operation? : Char → Option Operation
  | '+' => some .add
  | '-' => some .remove
  | '=' => some .set
  | _ => none

/-- The bits of a kind of users by its letter. -/
def affected? (c : Char) : Option Nat :=
  [('u', 0o4700), ('g', 0o2070), ('o', 0o1007), ('a', whole)].lookup c

/-- The bits that a letter stands for. -/
def bits? (c : Char) : Option Nat :=
  [('r', 0o444), ('w', 0o222), ('x', 0o111), ('X', 0), ('s', 0o6000), ('t', 0o1000)].lookup c

/-- The bits of one kind of users, by the letter of the kind. -/
def owner? (c : Char) : Option Nat := [('u', 0o700), ('g', 0o070), ('o', 0o007)].lookup c

/-- Read a mode in base 8. -/
def readOctal? (chars : List Char) : Option Nat :=
  if chars.isEmpty || !chars.all (fun c => '0' ≤ c && c ≤ '7') then none
  else
    let n := chars.foldl (fun (n : Nat) c => n * 8 + (c.toNat - 48)) 0
    if n ≤ whole then some n else none

/-- Read what stands behind a sign: the bits, and the rest. -/
def readSource (chars : List Char) : Source × List Char :=
  match chars with
  | [] => (.bits 0, [])
  | c :: rest =>
    match owner? c with
    | some owner => (.copy owner, rest)
    | none =>
      let letters := chars.takeWhile fun c => (bits? c).isSome
      let value := letters.foldl (fun value c => value ||| (bits? c).getD 0) 0
      (if letters.contains 'X' then .bitsAndRun value else .bits value, chars.drop letters.length)

/-- Read the changes for some kinds of users. -/
def readChanges (affected : Nat) : (fuel : Nat) → List Char → List Change × List Char
  | 0, chars => ([], chars)
  | _ + 1, [] => ([], [])
  | fuel + 1, c :: rest =>
    match operation? c with
    | none => ([], c :: rest)
    | some operation =>
      let (source, rest) := readSource rest
      let (changes, rest) := readChanges affected fuel rest
      (⟨affected, operation, source⟩ :: changes, rest)

/-- Read changes with commas between them. -/
def readClauses : (fuel : Nat) → List Char → Option (List Change)
  | 0, _ => none
  | fuel + 1, chars =>
    let letters := chars.takeWhile fun c => (affected? c).isSome
    let affected := letters.foldl (fun bits c => bits ||| (affected? c).getD 0) 0
    match readChanges affected (chars.length + 1) (chars.drop letters.length) with
    | ([], _) => none
    | (changes, []) => some changes
    | (changes, ',' :: rest) => (readClauses fuel rest).map (changes ++ ·)
    | (_, _) => none

/-- Read how a mode is changed: a mode in base 8, or changes with letters. -/
def read? (text : String) : Option (List Change) :=
  let chars := text.toList
  if chars.head?.any Char.isDigit then
    (readOctal? chars).map fun mode => [⟨whole, .set, .bits mode⟩]
  else readClauses (chars.length + 1) chars

/-- The bits that one kind of users has, for all of them. -/
def spread (mode owner : Nat) : Nat :=
  let own := mode &&& owner
  [0o444, 0o222, 0o111].foldl (fun bits all => if own &&& all = 0 then bits else bits ||| all) 0

/-- Change a mode. A change for nobody in particular leaves out the bits of the mask. -/
def Change.apply (mask : Nat) (isDirectory : Bool) (mode : Nat) (change : Change) : Nat :=
  let value := match change.source with
    | .bits value => value
    | .bitsAndRun value => if isDirectory || mode &&& 0o111 != 0 then value ||| 0o111 else value
    | .copy owner => spread mode owner
  let limit := if change.affected = 0 then without whole mask else change.affected
  let value := value &&& limit
  match change.operation with
  | .add => mode ||| value
  | .remove => without mode value
  | .set => (if change.affected = 0 then 0 else without mode change.affected) ||| value

/-- A mode in base 8 with four digits. -/
def octalText (mode : Nat) : String :=
  Tool.fillFront '0' 4 (String.ofList (Nat.toDigits 8 mode))

/-- A mode as letters, as listings show it. -/
def letterText (mode : Nat) : String :=
  let triple (shift : Nat) (special : Nat) (mark : Char) : List Char :=
    let bits := mode >>> shift
    let has (bit : Nat) : Bool := bits &&& bit != 0
    let last := if mode &&& special != 0 then (if has 1 then mark else mark.toUpper)
      else if has 1 then 'x' else '-'
    [if has 4 then 'r' else '-', if has 2 then 'w' else '-', last]
  String.ofList (triple 6 0o4000 's' ++ triple 3 0o2000 's' ++ triple 0 0o1000 't')

/-- The mode of an entry. -/
def ofEntry : FileEntry → Nat
  | .file _ mode => mode
  | .directory => 0o755
  | .device => 0o666
  | .link _ => 0o777

/-! ## The programs -/

/-- Whether an argument is a change of a mode, though it looks like an option. -/
def isDashed (argument : String) : Bool :=
  match argument.toList with
  | '-' :: c :: _ => "rwxXstugoa,+=01234567".toList.contains c
  | _ => false

/-- The arguments in front of the two dashes that end options. -/
def inFront (arguments : List String) : List String := arguments.takeWhile (· != "--")

/-- The paths at and below a path, if the program works on whole directories. -/
def paths {σ : Type} (host : Host σ) (options : Options) (state : σ) (path : String) :
    List String :=
  match host.find state path with
  | .ok (place, .directory) =>
    if !options.has "R" then [path]
    else
      (host.entriesBelow state place).map fun (inner, _) =>
        (inner.drop place.length).foldl FileChange.below path
  | _ => [path]

/-- Change the mode of what stands at a path. -/
def changeAt {σ : Type} (host : Host σ) (options : Options) (modeAfter : Bool → Nat → Nat)
    (progress : Progress σ) (path : String) : Progress σ :=
  let shown := Mention.shellQuoted path
  match host.find progress.state path with
  | .error cause =>
    let isLink := (host.findOwn progress.state path).isOk
    let progress := if options.has "f" then { progress with failed := true }
      else if isLink then progress.complain ("cannot operate on dangling symlink " ++ shown)
      else progress.complain ("cannot access " ++ shown ++ ": " ++ Tool.reason cause)
    progress.tell (options.has "v") (shown ++ " could not be accessed")
  | .ok (place, entry) =>
    let old := ofEntry entry
    let new := modeAfter (entry == .directory) old
    let full (mode : Nat) : String := octalText mode ++ " (" ++ letterText mode ++ ")"
    let text := if old = new then "mode of " ++ shown ++ " retained as " ++ full new
      else "mode of " ++ shown ++ " changed from " ++ full old ++ " to " ++ full new
    let progress := progress.tell (options.has "v" || (options.has "c" && old != new)) text
    match entry with
    | .file content _ => progress.moveTo (host.put progress.state place (.file content new))
    | _ => progress

/-- Change the modes of files. -/
def change : Errand where
  run host name arguments _ state :=
    let dashed := (inFront arguments).filter isDashed
    let others := ((inFront arguments).filter (!isDashed ·))
      ++ arguments.drop (inFront arguments).length
    let table := "R|recursive v|verbose c|changes f|silent f|quiet reference: preserve-root "
      ++ "no-preserve-root"
    match Options.read (.ofText table) (fun _ => false) (others.length + 1) others with
    | .error fault => (Tool.refuse name fault.message, state)
    | .ok options =>
      let reference? := options.value? "reference"
      let (mode, operands) :=
        if dashed.isEmpty && reference?.isNone then
          (options.operands.headD "", options.operands.tail)
        else (",".intercalate dashed, options.operands)
      let work (modeAfter : Bool → Nat → Nat) : Run × _ :=
        ((operands.flatMap (paths host options state)).foldl (changeAt host options modeAfter)
          (Progress.start name state)).toRun
      if operands.isEmpty then
        let isAlone := dashed.isEmpty && reference?.isNone && !options.operands.isEmpty
        (Tool.refuse name ("missing operand"
          ++ if isAlone then " after " ++ Mention.marked mode else ""), state)
      else
        match reference? with
        | some path =>
          match host.find state path with
          | .error cause =>
            (Tool.fail 1 [] [name ++ ": failed to get attributes of " ++ Mention.shellQuoted path
              ++ ": " ++ Tool.reason cause], state)
          | .ok (_, entry) => work fun _ _ => ofEntry entry
        | none =>
          match read? mode with
          | none => (Tool.refuse name ("invalid mode: " ++ Mention.marked mode), state)
          | some changes =>
            work fun isDirectory mode =>
              changes.foldl (Change.apply (host.mask state) isDirectory) mode

/-- Give files to a user or a group. There is only one of each. -/
def give (isGroup : Bool) : Errand where
  run host name arguments _ state :=
    let table := "R|recursive v|verbose c|changes f|silent f|quiet h|no-dereference "
      ++ "|dereference H L P |from: |reference: |preserve-root |no-preserve-root"
    match Options.read (.ofText table) (fun _ => false) (arguments.length + 1) arguments with
    | .error fault => (Tool.refuse name fault.message, state)
    | .ok options =>
      let isKnown (text : String) : Bool :=
        text = "" || text = "root" || (Decimal.readNatural (2 ^ 32 - 1) text.toList).isSome
      match options.operands with
      | [] => (Tool.refuse name "missing operand", state)
      | [owner] => (Tool.refuse name ("missing operand after " ++ Mention.marked owner), state)
      | owner :: paths =>
        let (user, group) := match owner.toList.span (· != ':') with
          | (user, _ :: group) => (String.ofList user, String.ofList group)
          | (user, []) => if isGroup then ("", owner) else (String.ofList user, "")
        let unknown (kind : String) : Run × _ :=
          (Tool.fail 1 [] [name ++ ": invalid " ++ kind ++ ": " ++ Mention.marked owner], state)
        if !isKnown user || (isGroup && owner.contains ':') then
          unknown (if isGroup then "group" else "user")
        else if !isKnown group then unknown "group"
        else
          (paths.foldl (fun progress path =>
            match host.find state path with
            | .error cause =>
              progress.complain ("cannot access " ++ Mention.shellQuoted path ++ ": "
                ++ Tool.reason cause)
            | .ok _ =>
              progress.tell (options.has "v") ((if isGroup then "group" else "ownership") ++ " of "
                ++ Mention.shellQuoted path ++ " retained as "
                ++ (if user.isEmpty || group.isEmpty then "root" else "root:root")))
            (Progress.start name state)).toRun

/-- The programs by their names. -/
def named : List (String × Errand) :=
  [("chmod", change), ("chown", give false), ("chgrp", give true)]

end Mode

end Runbook.Program
