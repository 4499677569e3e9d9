import Runbook.Yaml.Property
import Runbook.Yaml.Token

/-!
# From text to tokens

Outside flow collections the structure of a stream is given by its indentation. A text on a single
line is a key if a colon follows it, so the place in front of each possible key is remembered until
the colon is found or ruled out.
-/

namespace Runbook.Yaml

/-- The text of a plain scalar, and whether line breaks follow it. -/
structure PlainScalar where
  text : List Char
  broken : Bool
deriving DecidableEq, Repr, Inhabited

/-- Whether the scalar ends in front of the next word, behind a gap: at a comment, at a document
mark, or at a line that is indented less in block context. -/
def plainEndsBehindGap (inFlow : Bool) (indent : Int) (gap : Gap) (place : Place)
    (chars : List Char) : Bool :=
  !gap.isNone
    && ((!inFlow && gap.isBroken && (place.column : Int) < indent)
      || (place.column == 0 && atDocumentMark chars)
      || chars.head? == some '#')

/-- Whether a colon stands here that no flow collection admits in a plain scalar. -/
def atForbiddenColon (inFlow : Bool) : List Char → Bool
  | ':' :: c :: _ => inFlow && (isFlowIndicator c || c == '?')
  | _ => false

/-- Whether an indicator stands here that ends a plain scalar. -/
def atPlainEnd (inFlow : Bool) : List Char → Bool
  | [] => true
  | ':' :: rest => atWordEnd rest
  | c :: _ => inFlow && isFlowIndicator c

/-- Read the rest of a plain scalar: `written` is its text so far and `gap` what followed, both
newest first. The lines that go on are indented at least by `indent`. -/
def scanPlain (inFlow : Bool) (indent : Int) :
    (written : List Char) → Gap → Place → List Char → Option (Scanned PlainScalar)
  | written, gap, place, [] => some ⟨⟨written.reverse, gap.isBroken⟩, place, []⟩
  | written, gap, place, c :: rest =>
    if isBlank c then
      if gap.isBroken && c == '\t' && (place.column : Int) < indent then none
      else scanPlain inFlow indent written (gap.addBlank c) (place.next c) rest
    else if isBreak c then
      scanPlain inFlow indent written (gap.addBreak c) place.nextLine rest
    else if plainEndsBehindGap inFlow indent gap place (c :: rest) then
      some ⟨⟨written.reverse, gap.isBroken⟩, place, c :: rest⟩
    else if atForbiddenColon inFlow (c :: rest) then none
    else if atPlainEnd inFlow (c :: rest) then
      some ⟨⟨written.reverse, gap.isBroken⟩, place, c :: rest⟩
    else scanPlain inFlow indent (c :: (gap.folded ++ written)) .none (place.next c) rest

/-! ## Keys and tokens -/

/-- A place where a key may have begun. -/
structure Candidate where
  /-- How many tokens stand in front of it. -/
  tokenCount : Nat
  place : Place
  /-- Whether nothing but a key may stand there. -/
  required : Bool
deriving DecidableEq, Repr, Inhabited

/-- The reading of a stream. -/
structure Lexer where
  rest : List Char
  place : Place
  /-- The column of the innermost block collection, -1 outside of all. -/
  indent : Int
  /-- The columns of the collections around it, innermost first. -/
  outerIndents : List Int
  /-- The key that may have begun in the innermost collection. -/
  candidate : Option Candidate
  /-- The keys that may have begun in the collections around each flow collection that is open. -/
  outerCandidates : List (Option Candidate)
  /-- Whether a key may begin here. -/
  keyAllowed : Bool
  /-- The tokens read so far, newest first. -/
  tokens : List Token
  tokenCount : Nat
deriving Repr, Inhabited

namespace Lexer

/-- A stream of which nothing has been read. -/
def start (chars : List Char) : Lexer where
  rest := chars
  place := .start
  indent := -1
  outerIndents := []
  candidate := none
  outerCandidates := []
  keyAllowed := true
  tokens := []
  tokenCount := 0

/-- Whether a flow collection is open. -/
def inFlow (lexer : Lexer) : Bool := !lexer.outerCandidates.isEmpty

/-- Add a token. -/
def push (lexer : Lexer) (token : Token) : Lexer :=
  { lexer with tokens := token :: lexer.tokens, tokenCount := lexer.tokenCount + 1 }

/-- Add a token behind the first `position` tokens. -/
def pushAt (lexer : Lexer) (position : Nat) (token : Token) : Lexer :=
  let later := lexer.tokenCount - position
  { lexer with
    tokens := lexer.tokens.take later ++ token :: lexer.tokens.drop later
    tokenCount := lexer.tokenCount + 1 }

/-- Go on behind a number of characters of one byte on the same line. -/
def advance (lexer : Lexer) (count : Nat) : Lexer :=
  { lexer with place := lexer.place.skip count, rest := lexer.rest.drop count }

/-- Go on behind characters of one byte, where the rest of the same line begins. -/
def advanceTo (lexer : Lexer) (rest : List Char) : Lexer :=
  { lexer with place := lexer.place.skip (lexer.rest.length - rest.length), rest := rest }

/-- Go on behind something that has been read. -/
def moveTo {α : Type} (lexer : Lexer) (scanned : Scanned α) : Lexer :=
  { lexer with place := scanned.place, rest := scanned.rest }

/-- Skip blanks, comments and line breaks. A line break allows a key outside flow collections; a
tab counts as a blank only where no key is allowed, and a byte order mark at the start of a line. -/
def skipGap (inFlow : Bool) :
    (inComment keyAllowed : Bool) → Place → List Char → Scanned Bool
  | _, keyAllowed, place, [] => ⟨keyAllowed, place, []⟩
  | inComment, keyAllowed, place, c :: rest =>
    if isBreak c then skipGap inFlow false (keyAllowed || !inFlow) place.nextLine rest
    else if inComment || c == '#' then skipGap inFlow true keyAllowed (place.next c) rest
    else if c == ' ' || (c == '\t' && (inFlow || !keyAllowed))
        || (c == byteOrderMark && place.column == 0) then
      skipGap inFlow false keyAllowed (place.next c) rest
    else ⟨keyAllowed, place, c :: rest⟩

/-- Go on to the next token. -/
def toNextToken (lexer : Lexer) : Lexer :=
  let gap := skipGap lexer.inFlow false lexer.keyAllowed lexer.place lexer.rest
  { lexer.moveTo gap with keyAllowed := gap.value }

/-- The length in bytes of the longest key without an indicator in front of it. -/
def longestKey : Nat := 1024

/-- Whether a place is too far behind another one to begin a key that ends there. -/
def isTooFar (start current : Place) : Bool :=
  start.line < current.line || start.offset + longestKey < current.offset

/-- Give up a candidate that is too far behind; one that is required must not be given up. -/
def expireOne (current : Place) : Option Candidate → Option (Option Candidate)
  | none => some none
  | some candidate =>
    if isTooFar candidate.place current then
      if candidate.required then none else some none
    else some (some candidate)

/-- Give up all candidates that are too far behind. -/
def expire (lexer : Lexer) : Option Lexer := do
  return { lexer with
    candidate := ← expireOne lexer.place lexer.candidate
    outerCandidates := ← lexer.outerCandidates.mapM (expireOne lexer.place) }

/-- Close the block collections that are indented more than `column`. -/
def closeDeeper (column : Int) : (indent : Int) → (outer : List Int) → Int × List Int × Nat
  | indent, [] => (indent, [], 0)
  | indent, next :: outer =>
    if column < indent then
      let (indent, outer, count) := closeDeeper column next outer
      (indent, outer, count + 1)
    else (indent, next :: outer, 0)

/-- Close the block collections that the current column ends. -/
def unindent (lexer : Lexer) (column : Int) : Lexer :=
  if lexer.inFlow then lexer
  else
    let (indent, outer, count) := closeDeeper column lexer.indent lexer.outerIndents
    { lexer with
      indent := indent
      outerIndents := outer
      tokens := List.replicate count .closeBlock ++ lexer.tokens
      tokenCount := lexer.tokenCount + count }

/-- Open a block collection behind the first `position` tokens if `column` is deeper than the
innermost one. -/
def openBlockAt (lexer : Lexer) (column position : Nat) (token : Token) : Lexer :=
  if lexer.inFlow || (column : Int) ≤ lexer.indent then lexer
  else
    { lexer.pushAt position token with
      indent := column
      outerIndents := lexer.indent :: lexer.outerIndents }

/-- Open a block collection at the current place. -/
def openBlock (lexer : Lexer) (token : Token) : Lexer :=
  lexer.openBlockAt lexer.place.column lexer.tokenCount token

/-- Give up the candidate, unless it is required. -/
def dropCandidate (lexer : Lexer) : Option Lexer :=
  if lexer.candidate.any (·.required) then none else some { lexer with candidate := none }

/-- Remember the current place as one where a key may begin. -/
def saveCandidate (lexer : Lexer) : Option Lexer :=
  if lexer.keyAllowed then do
    let required := !lexer.inFlow && lexer.indent == lexer.place.column
    return { ← lexer.dropCandidate with
      candidate := some ⟨lexer.tokenCount, lexer.place, required⟩ }
  else some lexer

/-- Allow or forbid a key. -/
def allowKey (lexer : Lexer) (allowed : Bool) : Lexer := { lexer with keyAllowed := allowed }

/-- Skip one character and add a token for it. -/
def takeOne (lexer : Lexer) (token : Token) : Lexer :=
  (lexer.advance 1).push token

/-- Leave all block collections, in front of a directive or a document mark. -/
def leaveBlocks (lexer : Lexer) : Option Lexer := do
  return (← (lexer.unindent (-1)).dropCandidate).allowKey false

/-- Read a directive. -/
def directive (lexer : Lexer) : Option Lexer := do
  let lexer ← lexer.leaveBlocks
  let (token, rest) ← scanDirective lexer.rest.tail
  match rest with
  | [] => return (lexer.advanceTo []).push token
  | _ :: rest => return { lexer with place := lexer.place.nextLine, rest := rest }.push token

/-- Read a document mark. -/
def documentMark (lexer : Lexer) (token : Token) : Option Lexer := do
  let lexer ← lexer.leaveBlocks
  return (lexer.advance 3).push token

/-- Read an opening bracket. A collection may be a key as a whole, and may begin with one. -/
def openFlow (lexer : Lexer) (token : Token) : Option Lexer := do
  let lexer ← lexer.saveCandidate
  return { lexer with
    candidate := none
    outerCandidates := lexer.candidate :: lexer.outerCandidates
    keyAllowed := true }.takeOne token

/-- Read a closing bracket. -/
def closeFlow (lexer : Lexer) (token : Token) : Option Lexer := do
  let lexer ← lexer.dropCandidate
  let lexer := match lexer.outerCandidates with
    | [] => lexer
    | outer :: others => { lexer with candidate := outer, outerCandidates := others }
  return (lexer.allowKey false).takeOne token

/-- Read a comma. -/
def comma (lexer : Lexer) : Option Lexer := do
  return ((← lexer.dropCandidate).allowKey true).takeOne .comma

/-- Read the hyphen of an item. -/
def item (lexer : Lexer) : Option Lexer := do
  if !lexer.inFlow && !lexer.keyAllowed then none
  let lexer := lexer.openBlock .openBlockSequence
  return ((← lexer.dropCandidate).allowKey true).takeOne .item

/-- Read the question mark of a key. -/
def explicitKey (lexer : Lexer) : Option Lexer := do
  if !lexer.inFlow && !lexer.keyAllowed then none
  let lexer := lexer.openBlock .openBlockMapping
  return ((← lexer.dropCandidate).allowKey (!lexer.inFlow)).takeOne .key

/-- Read the colon of a value. It makes the candidate a key. -/
def value (lexer : Lexer) : Option Lexer :=
  match lexer.candidate with
  | some candidate =>
    let lexer := lexer.pushAt candidate.tokenCount .key
    let lexer :=
      lexer.openBlockAt candidate.place.column candidate.tokenCount .openBlockMapping
    some ({ lexer with candidate := none, keyAllowed := false }.takeOne .value)
  | none =>
    if !lexer.inFlow && !lexer.keyAllowed then none
    else
      let lexer := lexer.openBlock .openBlockMapping
      some ((lexer.allowKey (!lexer.inFlow)).takeOne .value)

/-- Read an anchor or an alias behind its indicator. -/
def name (lexer : Lexer) (token : List Char → Token) : Option Lexer := do
  let lexer ← lexer.saveCandidate
  let (name, rest) ← scanName lexer.rest.tail
  return ((lexer.allowKey false).advanceTo rest).push (token name)

/-- Read a tag. -/
def tag (lexer : Lexer) : Option Lexer := do
  let lexer ← lexer.saveCandidate
  let (tag, rest) ← scanTag lexer.inFlow lexer.rest
  return ((lexer.allowKey false).advanceTo rest).push (.tag tag)

/-- Read a block scalar. -/
def blockScalar (lexer : Lexer) (literal : Bool) : Option Lexer := do
  let lexer ← lexer.dropCandidate
  let scanned ← scanBlock literal lexer.indent (lexer.place.skip 1) lexer.rest.tail
  return ((lexer.allowKey true).moveTo scanned).push (.scalar scanned.value false)

/-- Read a quoted scalar. -/
def quotedScalar (lexer : Lexer)
    (scan : List Char → Gap → Place → List Char → Option (Scanned (List Char))) :
    Option Lexer := do
  let lexer ← lexer.saveCandidate
  let scanned ← scan [] .none (lexer.place.skip 1) lexer.rest.tail
  return ((lexer.allowKey false).moveTo scanned).push (.scalar scanned.value false)

/-- Read a plain scalar. A key may begin on a line behind it. -/
def plainScalar (lexer : Lexer) : Option Lexer := do
  let lexer ← lexer.saveCandidate
  let scanned ← scanPlain lexer.inFlow (lexer.indent + 1) [] .none lexer.place lexer.rest
  return ((lexer.allowKey scanned.value.broken).moveTo scanned).push
    (.scalar scanned.value.text true)

/-- Whether a plain scalar begins here. -/
def atPlainStart (inFlow : Bool) : List Char → Bool
  | [] => false
  | c :: rest =>
    (!isBlank c && !isIndicator c)
      || (c == '-' && !rest.head?.any isBlank)
      || (!inFlow && (c == '?' || c == ':') && !atWordEnd rest)

/-- Read the token that begins with the given character. -/
def readToken (lexer : Lexer) (first : Char) (behind : List Char) : Option Lexer :=
  if lexer.place.column = 0 ∧ first = '%' then lexer.directive
  else if lexer.place.column = 0 ∧ atDocumentStart lexer.rest then
    lexer.documentMark .documentStart
  else if lexer.place.column = 0 ∧ atDocumentEnd lexer.rest then lexer.documentMark .documentEnd
  else if first = '[' then lexer.openFlow .openFlowSequence
  else if first = '\x7b' then lexer.openFlow .openFlowMapping
  else if first = ']' then lexer.closeFlow .closeFlowSequence
  else if first = '\x7d' then lexer.closeFlow .closeFlowMapping
  else if first = ',' then lexer.comma
  else if first = '-' ∧ atWordEnd behind then lexer.item
  else if first = '?' ∧ (lexer.inFlow ∨ atWordEnd behind) then lexer.explicitKey
  else if first = ':' ∧ (lexer.inFlow ∨ atWordEnd behind) then lexer.value
  else if first = '*' then lexer.name .alias
  else if first = '&' then lexer.name .anchor
  else if first = '!' then lexer.tag
  else if first = '|' ∧ ¬ lexer.inFlow then lexer.blockScalar true
  else if first = '>' ∧ ¬ lexer.inFlow then lexer.blockScalar false
  else if first = '\'' then lexer.quotedScalar scanSingleQuoted
  else if first = '"' then lexer.quotedScalar scanDoubleQuoted
  else if atPlainStart lexer.inFlow lexer.rest then lexer.plainScalar
  else none

/-- Read the end of the stream. -/
def finish (lexer : Lexer) : Option Lexer := do
  return ((← (lexer.unindent (-1)).dropCandidate).allowKey false).push .streamEnd

/-- Read up to `fuel` tokens, until the end of the stream. -/
def run : (fuel : Nat) → Lexer → Option Lexer
  | 0, _ => none
  | fuel + 1, lexer => do
    let lexer ← lexer.toNextToken.expire
    let lexer := lexer.unindent lexer.place.column
    match lexer.rest with
    | [] => lexer.finish
    | first :: behind => run fuel (← lexer.readToken first behind)

end Lexer

/-- The tokens of a stream. Each token but the last one begins with a character of its own, which
bounds their number. -/
def tokens (chars : List Char) : Option (List Token) :=
  if chars.all isAllowed then do
    let chars := unifyBreaks chars
    return (← (Lexer.start chars).run (chars.length + 1)).tokens.reverse
  else none

end Runbook.Yaml
