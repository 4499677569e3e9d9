import Runbook.Yaml.Token

/-!
# Block scalars

Scalars whose text is the indented lines below them. A literal scalar keeps its line breaks, and a
folded one joins lines.
-/

namespace Runbook.Yaml

/-- What becomes of the line breaks at the end of a block scalar. -/
inductive Chomping where
  | strip
  | clip
  | keep
deriving DecidableEq, Repr, Inhabited

/-- What stands behind the indicator of a block scalar. -/
structure BlockHeader where
  chomping : Chomping
  /-- How much deeper than the collection around it the text is indented, if that is given. -/
  increment : Option Nat
deriving DecidableEq, Repr, Inhabited

/-- Read how the line breaks at the end are treated, if that is given. -/
def scanChomping : List Char → Option Chomping × List Char
  | '+' :: rest => (some .keep, rest)
  | '-' :: rest => (some .strip, rest)
  | rest => (none, rest)

/-- Read an indentation, a digit from 1 to 9, if one is given. -/
def scanIncrement : List Char → Option (Option Nat × List Char)
  | '0' :: _ => none
  | c :: rest =>
    if '1' ≤ c ∧ c ≤ '9' then some (some (c.toNat - 48), rest) else some (none, c :: rest)
  | [] => some (none, [])

/-- Read the two parts of a header, which stand in either order. -/
def scanHeader (chars : List Char) : Option (BlockHeader × List Char) :=
  match scanChomping chars with
  | (some chomping, rest) => do
    let (increment, rest) ← scanIncrement rest
    return (⟨chomping, increment⟩, rest)
  | (none, rest) => do
    let (increment, rest) ← scanIncrement rest
    match increment with
    | none => return (⟨.clip, none⟩, rest)
    | some _ =>
      let (chomping, rest) := scanChomping rest
      return (⟨chomping.getD .clip, increment⟩, rest)

/-- Skip blanks, and a comment behind them, up to the end of the line. Anything else is refused. -/
def skipToLineEnd (chars : List Char) : Option (List Char) :=
  match chars.dropWhile isBlank with
  | '#' :: rest => some (rest.dropWhile (fun c => !isBreak c))
  | rest => if atLineEnd rest then some rest else none

/-- The blank lines in front of a block scalar's text. -/
structure LeadingLines where
  /-- The greatest column that spaces reach. -/
  column : Nat
  /-- The line breaks, newest first. -/
  breaks : List Char
deriving Repr, Inhabited

/-- Read all spaces and line breaks in front of a block scalar's text. -/
def scanLeadingLines :
    LeadingLines → Place → List Char → Option (Scanned LeadingLines)
  | lines, place, [] =>
    some ⟨{ lines with column := max lines.column place.column }, place, []⟩
  | lines, place, c :: rest =>
    if c == ' ' then scanLeadingLines lines (place.next c) rest
    else if c == '\t' then none
    else if isBreak c then
      scanLeadingLines ⟨max lines.column place.column, c :: lines.breaks⟩ place.nextLine rest
    else some ⟨{ lines with column := max lines.column place.column }, place, c :: rest⟩

/-- The lines of a block scalar while they are read. -/
structure BlockLines where
  /-- The text so far, newest character first. -/
  written : List Char
  /-- The break of the last line, if there was one. -/
  lastBreak : Option Char
  /-- The breaks of blank lines behind it, newest first. -/
  blankLines : List Char
  /-- Whether the last line began with a blank. -/
  blankStart : Bool
  /-- Whether a line is being read, and not the indentation in front of one. -/
  inLine : Bool
deriving Repr, Inhabited

namespace BlockLines

/-- The line breaks in front of a line that begins with a blank or not. In a folded scalar, a line
feed between two lines without a blank in front becomes a space, or nothing where blank lines
follow it. -/
def joint (lines : BlockLines) (literal : Bool) (blank : Bool) : List Char :=
  if !literal && lines.lastBreak == some '\n' && !lines.blankStart && !blank then
    if lines.blankLines.isEmpty then [' '] else lines.blankLines
  else lines.blankLines ++ lines.lastBreak.toList

/-- Begin a line with its first character. -/
def startLine (lines : BlockLines) (literal : Bool) (c : Char) : BlockLines where
  written := c :: (lines.joint literal (isBlank c) ++ lines.written)
  lastBreak := none
  blankLines := []
  blankStart := isBlank c
  inLine := true

/-- The text of a scalar, with the line breaks at its end kept or dropped. -/
def text (lines : BlockLines) (chomping : Chomping) : List Char :=
  let ended := match chomping with
    | .strip => lines.written
    | .clip => lines.lastBreak.toList ++ lines.written
    | .keep => lines.blankLines ++ lines.lastBreak.toList ++ lines.written
  ended.reverse

end BlockLines

/-- Read the lines of a block scalar that are indented by `indent` columns. -/
def scanBlockLines (literal : Bool) (indent : Nat) :
    BlockLines → Place → List Char → Option (Scanned BlockLines)
  | lines, place, [] => some ⟨lines, place, []⟩
  | lines, place, c :: rest =>
    if lines.inLine then
      if isBreak c then
        scanBlockLines literal indent { lines with lastBreak := some c, inLine := false }
          place.nextLine rest
      else
        scanBlockLines literal indent { lines with written := c :: lines.written } (place.next c)
          rest
    else if place.column < indent && c == ' ' then
      scanBlockLines literal indent lines (place.next c) rest
    else if place.column < indent && c == '\t' then none
    else if isBreak c then
      scanBlockLines literal indent { lines with blankLines := c :: lines.blankLines }
        place.nextLine rest
    else if place.column == indent then
      scanBlockLines literal indent (lines.startLine literal c) (place.next c) rest
    else some ⟨lines, place, c :: rest⟩

/-- The least column of a block scalar's text, inside a collection at column `outer`. -/
def leastIndent (outer : Int) : Nat := max (outer + 1).toNat 1

/-- Read the text below a header, from the start of the line behind it. -/
def scanBlockText (literal : Bool) (outer : Int) (header : BlockHeader) (place : Place)
    (chars : List Char) : Option (Scanned (List Char)) := do
  let (leading, indent) ← match header.increment with
    | some increment => pure (⟨⟨0, []⟩, place, chars⟩, increment + outer.toNat)
    | none => do
      let leading ← scanLeadingLines ⟨0, []⟩ place chars
      pure (leading, max leading.value.column (leastIndent outer))
  let lines ← scanBlockLines literal indent ⟨[], none, leading.value.breaks, false, false⟩
    leading.place leading.rest
  return ⟨lines.value.text header.chomping, lines.place, lines.rest⟩

/-- Read a block scalar behind its indicator. -/
def scanBlock (literal : Bool) (outer : Int) (place : Place) (chars : List Char) :
    Option (Scanned (List Char)) := do
  let (header, rest) ← scanHeader chars
  let rest ← skipToLineEnd rest
  match rest with
  | [] => scanBlockText literal outer header place []
  | _ :: rest => scanBlockText literal outer header place.nextLine rest

end Runbook.Yaml
