import Runbook.Program.Edit.Script
import Runbook.Program.Escape

/-!
# Reading scripts of edits

A script comes in chunks: arguments, or files. A fault tells how far its chunk was read.
-/

namespace Runbook.Program.Edit

/-- What is wrong with a script. -/
inductive ScriptError where
  | manyBangs
  | badComma
  | badFirst
  | openBrace
  | closingBrace
  | extraCharacters
  | expectedBackslash
  | addressedBrace
  | addressedLabel
  | addressedComment
  | noCommand
  | oneAddress
  | openAddress
  | openSubstitution
  | openTranslation
  | unknownFlag
  | manyPrints
  | manyEverywheres
  | manyNumbers
  | zeroNumber
  | lengthsDiffer
  | newerVersion
  | lineZero
  | unknownCommand (c : Char)
  | noLabel
  | noFileName
  | badReference (number : Nat)
  | flaggedEmpty
  | noPattern
  | pattern (fault : Regex.Fault)
deriving DecidableEq, Repr, Inhabited

/-- A text between a grave accent and an apostrophe. -/
def accented (text : String) : String := "\x60" ++ text ++ "'"

/-- The wording of a script error. -/
def ScriptError.message : ScriptError → String
  | .manyBangs => "multiple " ++ accented "!" ++ "s"
  | .badComma => "unexpected " ++ accented ","
  | .badFirst => "invalid usage of +N or ~N as first address"
  | .openBrace => "unmatched " ++ accented "\x7b"
  | .closingBrace => "unexpected " ++ accented "\x7d"
  | .extraCharacters => "extra characters after command"
  | .expectedBackslash =>
    "expected \\ after " ++ accented "a" ++ ", " ++ accented "c" ++ " or " ++ accented "i"
  | .addressedBrace => "\x7d doesn't want any addresses"
  | .addressedLabel => ": doesn't want any addresses"
  | .addressedComment => "comments don't accept any addresses"
  | .noCommand => "missing command"
  | .oneAddress => "command only uses one address"
  | .openAddress => "unterminated address regex"
  | .openSubstitution => "unterminated " ++ accented "s" ++ " command"
  | .openTranslation => "unterminated " ++ accented "y" ++ " command"
  | .unknownFlag => "unknown option to " ++ accented "s"
  | .manyPrints => "multiple " ++ accented "p" ++ " options to " ++ accented "s" ++ " command"
  | .manyEverywheres =>
    "multiple " ++ accented "g" ++ " options to " ++ accented "s" ++ " command"
  | .manyNumbers => "multiple number options to " ++ accented "s" ++ " command"
  | .zeroNumber => "number option to " ++ accented "s" ++ " command may not be zero"
  | .lengthsDiffer => "strings for " ++ accented "y" ++ " command are different lengths"
  | .newerVersion => "expected newer version of sed"
  | .lineZero => "invalid usage of line address 0"
  | .unknownCommand c => "unknown command: " ++ accented (String.ofList [c])
  | .noLabel => "\":\" lacks a label"
  | .noFileName => "missing filename in r/R/w/W commands"
  | .badReference number =>
    "invalid reference \\" ++ Decimal.digitText number ++ " on " ++ accented "s"
      ++ " command's RHS"
  | .flaggedEmpty => "cannot specify modifiers on empty regexp"
  | .noPattern => "no previous regular expression"
  | .pattern fault => fault.message

/-- A chunk of a script: where it comes from, and how much of it is read. -/
structure Source where
  /-- The number of the argument that it is. -/
  part : Nat
  file? : Option String
  line : Nat
  taken : Nat
  rest : List Char
deriving DecidableEq, Repr, Inhabited

/-- A chunk that nothing is read of. -/
def Source.ofText (part : Nat) (file? : Option String) (text : List Char) : Source :=
  ⟨part, file?, 1, 0, text⟩

/-- A script error, and where it was found. -/
structure ScriptFault where
  source : Source
  error : ScriptError
deriving DecidableEq, Repr, Inhabited

/-- The wording of a script fault. -/
def ScriptFault.message (fault : ScriptFault) : String :=
  let place := match fault.source.file? with
    | some file => "file " ++ file ++ " line " ++ Decimal.digitText fault.source.line
    | none =>
      "-e expression #" ++ Decimal.digitText fault.source.part ++ ", char "
        ++ Decimal.digitText fault.source.taken
  place ++ ": " ++ fault.error.message

/-- A step of reading. -/
abbrev Reading := StateT Source (Except ScriptFault)

namespace Reading

/-- Find a fault here. -/
def fail {α : Type} (error : ScriptError) : Reading α := fun source => .error ⟨source, error⟩

/-- The next character, if there is one. -/
def take : Reading (Option Char) := fun source =>
  match source.rest with
  | [] => .ok (none, source)
  | c :: rest =>
    let line := if c = '\n' then source.line + 1 else source.line
    .ok (some c, { source with line := line, taken := source.taken + 1, rest := rest })

/-- The next character, which is not taken. -/
def peek : Reading (Option Char) := fun source => .ok (source.rest.head?, source)

/-- Take a number of characters. -/
def skip : (count : Nat) → Reading Unit
  | 0 => pure ()
  | count + 1 => do
    let _ ← take
    skip count

/-- The characters in front of the first one that fails a test. -/
def takeWhile (test : Char → Bool) : Reading (List Char) := do
  let source ← get
  let chars := source.rest.takeWhile test
  skip chars.length
  return chars

/-- Whether a character is a blank in a line. -/
def isBlank (c : Char) : Bool := c == ' ' || c == '\t'

/-- Whether a character is white space. -/
def isSpace (c : Char) : Bool := c == ' ' || ('\t' ≤ c && c ≤ '\r')

/-- The next character behind blanks, which is not taken. -/
def peekBehindBlanks : Reading (Option Char) := do
  let _ ← takeWhile isBlank
  peek

/-- A number out of its digits, of which there may be none. -/
def number : Reading Nat := do
  let digits ← takeWhile Char.isDigit
  return digits.foldl (fun n c => n * 10 + (c.toNat - 48)) 0

/-! ## Texts between marks -/

/-- The members of a set in brackets behind the one that opens it, and the bracket that closes it.
A line break does not belong to it. -/
def spanSet : (fuel : Nat) → (first : Bool) → List Char → Option (List Char × List Char)
  | 0, _, _ | _, _, [] => none
  | fuel + 1, first, c :: rest =>
    let goOn (front rest : List Char) : Option (List Char × List Char) :=
      (spanSet fuel false rest).map fun (inside, behind) => (front ++ inside, behind)
    match c, rest with
    | '\n', _ => none
    | ']', _ => if first then goOn [c] rest else some ([c], rest)
    | '^', ']' :: rest => if first then goOn ['^', ']'] rest else some (['^', ']'], rest)
    | '[', kind :: more =>
      if kind = ':' ∨ kind = '.' ∨ kind = '=' then
        let name := more.takeWhile fun c => c != kind && c != ']' && c != '\n'
        match more.drop name.length with
        | other :: ']' :: behind =>
          if other = kind then goOn ('[' :: kind :: name ++ [kind, ']']) behind
          else goOn [c] rest
        | _ => goOn [c] rest
      else goOn [c] rest
    | '\\', 'n' :: rest => goOn ['\n'] rest
    | _, _ => goOn [c] rest

/-- The text in front of a mark that ends it, and what stands behind that. A backslash protects the
mark, and in a pattern sets in brackets do so, too. -/
def spanMarked (mark : Char) (ofPattern : Bool) : (fuel : Nat) → List Char →
    Option (List Char × List Char)
  | 0, _ | _, [] => none
  | fuel + 1, c :: rest =>
    let goOn (front rest : List Char) : Option (List Char × List Char) :=
      (spanMarked mark ofPattern fuel rest).map fun (inside, behind) => (front ++ inside, behind)
    if c = mark then some ([], rest)
    else
      match c, rest with
      | '\n', _ => if ofPattern then none else goOn [c] rest
      | '\\', escaped :: rest =>
        if escaped = mark && (ofPattern || escaped != '&') then goOn [escaped] rest
        else if escaped = 'n' && ofPattern then goOn ['\n'] rest
        else if escaped = '\n' && ofPattern then goOn ['\n'] rest
        else goOn ['\\', escaped] rest
      | '[', _ =>
        if ofPattern then
          match spanSet (rest.length + 1) true rest with
          | some (inside, behind) => goOn (c :: inside) behind
          | none => none
        else goOn [c] rest
      | _, _ => goOn [c] rest

/-- Read a text up to a mark. -/
def marked (mark : Char) (ofPattern : Bool) (error : ScriptError) : Reading (List Char) := do
  let source ← get
  match spanMarked mark ofPattern (source.rest.length + 1) source.rest with
  | some (inside, behind) =>
    skip (source.rest.length - behind.length)
    return inside
  | none =>
    skip (if ofPattern then source.rest.takeWhile (· != '\n') |>.length else source.rest.length)
    fail error

/-! ## Escapes -/

/-- The character that an escape stands for, given what is behind the backslash, and what stands
behind it. -/
def escape? (chars : List Char) : Option (Char × List Char) :=
  let coded (digit? : Char → Option Nat) (base most : Nat) (rest : List Char) :
      Option (Char × List Char) :=
    match readDigits digit? base most none rest with
    | (some code, behind) => some (Char.ofNat (code % 256), behind)
    | (none, _) => none
  match chars with
  | 'a' :: rest => some ('\x07', rest)
  | 'f' :: rest => some ('\x0c', rest)
  | 'r' :: rest => some ('\r', rest)
  | 't' :: rest => some ('\t', rest)
  | 'v' :: rest => some ('\x0b', rest)
  | 'c' :: c :: rest => some (Char.ofNat (c.toUpper.toNat ^^^ 0x40), rest)
  | 'd' :: rest => coded Decimal.digit? 10 3 rest
  | 'o' :: rest => coded octalDigit? 8 3 rest
  | 'x' :: rest => coded Http.Percent.hexValue 16 2 rest
  | _ => none

/-- A pattern with characters in the place of escapes. -/
def unescapePattern : (fuel : Nat) → List Char → List Char
  | 0, chars => chars
  | _ + 1, [] => []
  | fuel + 1, '\\' :: rest =>
    match escape? rest, rest with
    | some (c, behind), _ => c :: unescapePattern fuel behind
    | none, c :: behind => '\\' :: c :: unescapePattern fuel behind
    | none, [] => ['\\']
  | fuel + 1, c :: rest => c :: unescapePattern fuel rest

/-- A text with characters in the place of escapes. Other backslashes only protect. -/
def unescapeText : (fuel : Nat) → List Char → List Char
  | 0, chars => chars
  | _ + 1, [] => []
  | fuel + 1, '\\' :: rest =>
    match escape? rest, rest with
    | some (c, behind), _ => c :: unescapeText fuel behind
    | none, c :: behind => (if c = 'n' then '\n' else c) :: unescapeText fuel behind
    | none, [] => []
  | fuel + 1, c :: rest => c :: unescapeText fuel rest

/-- The letters of marks in replacements. -/
def caseMark? : Char → Option CaseMark
  | 'L' => some .lower
  | 'U' => some .upper
  | 'l' => some .lowerNext
  | 'u' => some .upperNext
  | 'E' => some .ending
  | _ => none

/-- The parts of a replacement. -/
def partsOf : (fuel : Nat) → List Char → List Part
  | 0, _ | _, [] => []
  | fuel + 1, '&' :: rest => .group 0 :: partsOf fuel rest
  | fuel + 1, '\\' :: rest =>
    match escape? rest, rest with
    | some (c, behind), _ => .text [c] :: partsOf fuel behind
    | none, c :: behind =>
      let part : Part :=
        if c.isDigit then .group (c.toNat - 48)
        else
          match caseMark? c with
          | some mark => .mark mark
          | none => .text [if c = 'n' then '\n' else c]
      part :: partsOf fuel behind
    | none, [] => [.text ['\\']]
  | fuel + 1, c :: rest => .text [c] :: partsOf fuel rest

/-- The largest number of a group in a replacement. -/
def largestGroup (parts : List Part) : Nat :=
  parts.foldl (fun most part => match part with
    | .group number => max most number
    | _ => most) 0

/-- The characters of one side of a translation. -/
def sideOf : (fuel : Nat) → List Char → List Char
  | 0, chars => chars
  | _ + 1, [] => []
  | fuel + 1, '\\' :: rest =>
    match escape? rest, rest with
    | some (c, behind), _ => c :: sideOf fuel behind
    | none, c :: behind => (if c = 'n' then '\n' else c) :: sideOf fuel behind
    | none, [] => ['\\']
  | fuel + 1, c :: rest => c :: sideOf fuel rest

/-! ## Patterns and addresses -/

/-- An expression in which no set has line breaks that does not list them. -/
def withoutBreaks : Regex → Regex
  | .one set =>
    .one (if set.negated then { set with ranges := ('\n', '\n') :: set.ranges } else set)
  | .seq first second => .seq (withoutBreaks first) (withoutBreaks second)
  | .either first second => .either (withoutBreaks first) (withoutBreaks second)
  | .rep least most? body => .rep least most? (withoutBreaks body)
  | .group number body => .group number (withoutBreaks body)
  | regex => regex

/-- The pattern that a text writes. An empty one stands for the pattern that was used last. -/
def pattern (extended ignoreCase manyLines : Bool) (text : List Char) :
    Reading (Option Pattern) := do
  if text.isEmpty then
    if ignoreCase || manyLines then fail .flaggedEmpty else return none
  else
    let chars := unescapePattern (text.length + 1) text
    match Regex.read ⟨extended, false, ignoreCase, true, true⟩ chars with
    | .ok regex => return some ⟨if manyLines then withoutBreaks regex else regex, manyLines⟩
    | .error fault => fail (.pattern fault)

/-- The letters behind the pattern of an address. -/
def addressFlags : (fuel : Nat) → (ignoreCase manyLines : Bool) → Reading (Bool × Bool)
  | 0, ignoreCase, manyLines => pure (ignoreCase, manyLines)
  | fuel + 1, ignoreCase, manyLines => do
    match ← peekBehindBlanks with
    | some 'I' =>
      skip 1
      addressFlags fuel true manyLines
    | some 'M' =>
      skip 1
      addressFlags fuel ignoreCase true
    | _ => return (ignoreCase, manyLines)

/-- An address, if there is one. -/
def address? (extended : Bool) : Reading (Option Address) := do
  let ofPattern (mark : Char) : Reading (Option Address) := do
    let text ← marked mark true .openAddress
    let (ignoreCase, manyLines) ← addressFlags ((← get).rest.length + 1) false false
    return some (.pattern (← pattern extended ignoreCase manyLines text))
  match ← peekBehindBlanks with
  | some '/' =>
    skip 1
    ofPattern '/'
  | some '\\' =>
    skip 1
    match ← take with
    | some mark => ofPattern mark
    | none => fail .openAddress
  | some '$' =>
    skip 1
    return some .last
  | some c =>
    if !c.isDigit then return none
    else
      let first ← number
      if (← peekBehindBlanks) = some '~' then
        skip 1
        let _ ← peekBehindBlanks
        let step ← number
        return some (if step = 0 then .line first else .every first step)
      else return some (.line first)
  | none => return none

/-- The second address, if there is one. -/
def bound? (extended : Bool) : Reading (Option Bound) := do
  match ← peekBehindBlanks with
  | some '+' =>
    skip 1
    let _ ← peekBehindBlanks
    return some (.more (← number))
  | some '~' =>
    skip 1
    let _ ← peekBehindBlanks
    return some (.multiple (← number))
  | _ => return (← address? extended).map .address

/-- The addresses in front of a command. -/
def selection (extended : Bool) : Reading Selection := do
  let first? ← address? extended
  match first?, ← peek with
  | none, some '+' | none, some '~' =>
    skip 1
    let _ ← number
    fail .badFirst
  | _, _ => pure ()
  let bound? ← match first?, ← peekBehindBlanks with
    | some _, some ',' => do
      skip 1
      match ← bound? extended with
      | some bound => pure (some bound)
      | none =>
        skip 1
        fail .badComma
    | _, _ => pure none
  match first?, bound? with
  | some (.line 0), some (.address (.pattern _)) => pure ()
  | some (.line 0), _ => do
    let _ ← peekBehindBlanks
    let _ ← take
    fail .lineZero
  | _, _ => pure ()
  if (← peekBehindBlanks) = some '!' then
    skip 1
    if (← peekBehindBlanks) = some '!' then
      skip 1
      fail .manyBangs
    return ⟨first?, bound?, true⟩
  else return ⟨first?, bound?, false⟩

/-! ## Commands -/

/-- Read the end of a command. A closing brace or a comment may follow at once. -/
def endOfCommand : Reading Unit := do
  match ← peekBehindBlanks with
  | none | some '\x7d' | some '#' => return ()
  | some c =>
    skip 1
    if c = '\n' ∨ c = ';' then return () else fail .extraCharacters

/-- Read a label, which may be missing. -/
def label : Reading String := do
  let _ ← takeWhile isBlank
  let name ← takeWhile fun c => !isSpace c && c != ';' && c != '\x7d' && c != '#'
  return String.ofList name

/-- Read the name of a file up to the end of the line. -/
def fileName : Reading String := do
  let _ ← takeWhile isBlank
  let name ← takeWhile (· != '\n')
  if name.isEmpty then fail .noFileName else return String.ofList name

/-- The lines of a text in front of the first line break that no backslash protects. -/
def spanText : List Char → List Char
  | [] | '\n' :: _ => []
  | '\\' :: c :: rest => '\\' :: c :: spanText rest
  | c :: rest => c :: spanText rest

/-- Read the rest of a text, which ends with a line break. -/
def restOfText : Reading (List UInt8) := do
  let source ← get
  let text := spanText source.rest
  skip (text.length + 1)
  return (unescapeText (text.length + 1) text ++ ['\n']).map Text.Octets.byte

/-- Read the text of a command. It begins behind blanks, or behind a backslash. The result is
missing if the text is in the next chunk. -/
def text : Reading (Option (List UInt8)) := do
  match ← peekBehindBlanks with
  | none => fail .expectedBackslash
  | some '\\' =>
    skip 1
    match ← peek with
    | none => return none
    | some '\n' =>
      skip 1
      return some (← restOfText)
    | some _ => return some (← restOfText)
  | some _ => return some (← restOfText)

/-- The flags behind a replacement. -/
structure Flags where
  ignoreCase : Bool
  manyLines : Bool
  everywhere : Bool
  prints : Bool
  runs : Bool
  nth? : Option Nat
  outlet? : Option String

/-- Read the flags behind a replacement, and the end of the command. -/
def flags : (fuel : Nat) → Flags → Reading Flags
  | 0, flags => pure flags
  | fuel + 1, given => do
    match ← peek with
    | none | some '\x7d' | some '#' => return given
    | some c =>
      if c.isDigit then
        if given.nth?.isSome then
          skip 1
          fail .manyNumbers
        let n ← number
        if n = 0 then fail .zeroNumber
        flags fuel { given with nth? := some n }
      else
        skip 1
        match c with
        | 'i' | 'I' => flags fuel { given with ignoreCase := true }
        | 'm' | 'M' => flags fuel { given with manyLines := true }
        | 'e' => flags fuel { given with runs := true }
        | 'p' => if given.prints then fail .manyPrints else flags fuel { given with prints := true }
        | 'g' =>
          if given.everywhere then fail .manyEverywheres
          else flags fuel { given with everywhere := true }
        | 'w' => return { given with outlet? := some (← fileName) }
        | '\n' | ';' => return given
        | _ => if isBlank c then flags fuel given else fail .unknownFlag

/-- Read a substitution behind its letter. -/
def substitution (extended : Bool) : Reading Substitution := do
  match ← take with
  | none => fail .openSubstitution
  | some mark =>
    let text ← marked mark true .openSubstitution
    let replacement ← marked mark false .openSubstitution
    let parts := partsOf (replacement.length + 1) replacement
    let given ← flags ((← get).rest.length + 1) ⟨false, false, false, false, false, none, none⟩
    let pattern? ← pattern extended given.ignoreCase given.manyLines text
    match pattern? with
    | some pattern =>
      if pattern.regex.groupCount < largestGroup parts then
        fail (.badReference (largestGroup parts))
    | none => pure ()
    return { pattern? := pattern?, parts := parts, nth := given.nth?.getD 1,
             everywhere := given.everywhere, prints := given.prints, runs := given.runs,
             outlet? := given.outlet? }

/-- Read a translation behind its letter. -/
def translation : Reading (List (Char × Char)) := do
  match ← take with
  | none => fail .openTranslation
  | some mark =>
    let old ← marked mark false .openTranslation
    let new ← marked mark false .openTranslation
    let old := sideOf (old.length + 1) old
    let new := sideOf (new.length + 1) new
    if old.length ≠ new.length then fail .lengthsDiffer
    endOfCommand
    return old.zip new

/-- Read a number behind a letter, if there is one, and the end of the command. -/
def count : Reading (Option Nat) := do
  match ← peekBehindBlanks with
  | some c =>
    let n? ← if c.isDigit then do pure (some (← number)) else pure none
    endOfCommand
    return n?
  | none => return none

/-- What commands without anything behind their letter do. -/
def plainAction? : Char → Option Action
  | '=' => some .tellNumber
  | 'F' => some .tellFile
  | 'd' => some .delete
  | 'D' => some .deleteFirst
  | 'g' => some .get
  | 'G' => some .getMore
  | 'h' => some .hold
  | 'H' => some .holdMore
  | 'x' => some .exchange
  | 'n' => some .next
  | 'N' => some .nextMore
  | 'p' => some .print
  | 'P' => some .printFirst
  | 'z' => some .clear
  | _ => none

/-- A version as a pair of numbers. -/
def versionOf (text : String) : Nat × Nat :=
  let numbers := (text.toList.splitOn '.').map fun digits =>
    (digits.takeWhile Char.isDigit).foldl (fun n c => n * 10 + (c.toNat - 48)) 0
  (numbers.headD 0, numbers.getD 1 0)

/-- What is read of a script: its commands, its labels, the blocks that are open, and whether the
last command still waits for its text. -/
structure Draft where
  script : Script
  blocks : List (Source × Nat)
  waiting : Bool
deriving Inhabited

/-- Add a command. -/
def Draft.add (draft : Draft) (selection : Selection) (action : Action) : Draft :=
  { draft with
    script := { draft.script with commands := draft.script.commands.push ⟨selection, action⟩ } }

/-- Add a command with a text, which may be in the next chunk. -/
def Draft.addText (draft : Draft) (selection : Selection) (text? : Option (List UInt8))
    (action : List UInt8 → Action) : Draft :=
  { draft.add selection (action (text?.getD [])) with waiting := text?.isNone }

/-- Read a command behind its addresses. -/
def command (extended : Bool) (first : Bool) (draft : Draft) (selection : Selection) :
    Reading Draft := do
  let addressed := selection.first?.isSome
  match ← take with
  | none => fail .noCommand
  | some c =>
    match c, plainAction? c with
    | _, some action =>
      endOfCommand
      return draft.add selection action
    | '#', none =>
      if addressed then fail .addressedComment
      let source ← get
      let body ← takeWhile (· != '\n')
      let quiet := first && source.taken == 1 && body == ['n']
      return { draft with
        script := { draft.script with quiet := draft.script.quiet || quiet } }
    | '\x7b', none =>
      let source ← get
      return { draft.add selection (.block 0) with
        blocks := (source, draft.script.commands.size) :: draft.blocks }
    | '\x7d', none =>
      match draft.blocks with
      | [] => fail .closingBrace
      | (_, index) :: blocks =>
        if addressed then fail .addressedBrace
        endOfCommand
        let behind := draft.script.commands.size
        let commands := draft.script.commands.modify index fun opening =>
          { opening with action := .block behind }
        return { draft with script := { draft.script with commands := commands }, blocks := blocks }
    | ':', none =>
      if addressed then fail .addressedLabel
      let name ← label
      if name = "" then fail .noLabel
      return { draft with
        script := { draft.script with
          labels := (name, draft.script.commands.size) :: draft.script.labels } }
    | 'a', none => return draft.addText selection (← text) .append
    | 'i', none => return draft.addText selection (← text) .insert
    | 'c', none => return draft.addText selection (← text) .change
    | 'b', none => return draft.add selection (.branch .always (← label))
    | 't', none => return draft.add selection (.branch .replaced (← label))
    | 'T', none => return draft.add selection (.branch .notReplaced (← label))
    | 'q', none | 'Q', none =>
      if selection.bound?.isSome then fail .oneAddress
      return draft.add selection (.quit ((← count).getD 0).toUInt8 (c == 'q'))
    | 'l', none => return draft.add selection (.list (← count))
    | 'r', none => return draft.add selection (.readFile (← fileName))
    | 'R', none => return draft.add selection (.readLine (← fileName))
    | 'w', none => return draft.add selection (.write (← fileName))
    | 'W', none => return draft.add selection (.writeFirst (← fileName))
    | 's', none => return draft.add selection (.substitute (← substitution extended))
    | 'y', none => return draft.add selection (.translate (← translation))
    | 'e', none =>
      match ← peekBehindBlanks with
      | none => return draft.add selection (.run "")
      | some _ =>
        let bytes ← restOfText
        return draft.add selection (.run (Text.Octets.ofBytes bytes))
    | 'v', none =>
      let version := versionOf (← label)
      if 4 < version.1 || (version.1 == 4 && 9 < version.2) then fail .newerVersion
      return draft
    | _, none => fail (.unknownCommand c)

/-- Read the commands of a chunk. -/
def commands (extended first : Bool) : (fuel : Nat) → Draft → Reading Draft
  | 0, draft => pure draft
  | fuel + 1, draft => do
    let _ ← takeWhile fun c => isSpace c || c == ';'
    match ← peek with
    | none => return draft
    | some _ =>
      let selection ← selection extended
      commands extended first fuel (← command extended first draft selection)

/-- The draft with a text for its last command. -/
def Draft.fill (draft : Draft) (text : List UInt8) : Draft :=
  let last := draft.script.commands.size - 1
  let commands := draft.script.commands.modify last fun command =>
    { command with
      action := match command.action with
        | .append _ => .append text
        | .insert _ => .insert text
        | .change _ => .change text
        | action => action }
  { draft with script := { draft.script with commands := commands }, waiting := false }

/-- Read a chunk. -/
def chunk (extended first : Bool) (draft : Draft) : Reading Draft := do
  let draft ← if draft.waiting then do pure (draft.fill (← restOfText)) else pure draft
  commands extended first ((← get).rest.length + 1) draft

end Reading

/-- Why a script is refused. -/
inductive Refusal where
  | fault (fault : ScriptFault)
  /-- A branch leads to a label that there is not. -/
  | missingLabel (label : String)
deriving DecidableEq, Repr, Inhabited

/-- Read all chunks of a script. -/
def Script.read (extended quiet : Bool) (chunks : List Source) : Except Refusal Script := do
  let begun : Reading.Draft := ⟨⟨#[], [], quiet⟩, [], false⟩
  let (draft, _) ← chunks.foldlM (fun ((draft, first) : Reading.Draft × Bool) source =>
    match (Reading.chunk extended first draft).run source with
    | .ok (draft, _) => .ok (draft, false)
    | .error fault => .error (Refusal.fault fault)) (begun, true)
  match draft.blocks with
  | (source, _) :: _ => throw (.fault ⟨{ source with taken := 0 }, .openBrace⟩)
  | [] => pure ()
  let missing := draft.script.commands.toList.findSome? fun command =>
    match command.action with
    | .branch _ label =>
      if label = "" ∨ (draft.script.labels.lookup label).isSome then none else some label
    | _ => none
  match missing with
  | some label => throw (.missingLabel label)
  | none => return draft.script

end Runbook.Program.Edit
