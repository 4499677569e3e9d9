/-!
# YAML tokens

The pieces that a stream is made of, and the classes of characters that tell them apart.
-/

namespace Runbook.Yaml

/-! ## Characters of YAML streams

The classes of characters that the format tells apart, and positions in a text. -/

/-- The characters that may stand in a stream, unless they are written as escapes. -/
def isAllowed (c : Char) : Bool :=
  let code := c.toNat
  code == 0x09 || code == 0x0A || code == 0x0D || (0x20 ≤ code && code ≤ 0x7E) || code == 0x85
    || (0xA0 ≤ code && code ≤ 0xFFFD) || 0x10000 ≤ code

/-- The byte order mark, which may stand at the start of a line. -/
def byteOrderMark : Char := '\uFEFF'

/-- Spaces and tabs. -/
def isBlank (c : Char) : Bool := c == ' ' || c == '\t'

/-- The characters that end a line, once the spellings of a line feed are unified. -/
def isBreak (c : Char) : Bool := c == '\n' || c == '\u2028' || c == '\u2029'

/-- Write each spelling of a line feed as one: a carriage return, alone or in front of a line feed,
and the next-line character. -/
def unifyBreaks : List Char → List Char
  | [] => []
  | '\r' :: '\n' :: rest => '\n' :: unifyBreaks rest
  | '\r' :: rest => '\n' :: unifyBreaks rest
  | '\u0085' :: rest => '\n' :: unifyBreaks rest
  | c :: rest => c :: unifyBreaks rest

/-- Whether a line ends here. -/
def atLineEnd : List Char → Bool
  | [] => true
  | c :: _ => isBreak c

/-- Whether a word ends here: with a blank, with the line or with the text. -/
def atWordEnd : List Char → Bool
  | [] => true
  | c :: _ => isBlank c || isBreak c

/-- The characters of names: ASCII letters, digits, the underscore and the hyphen. -/
def isNameChar (c : Char) : Bool :=
  ('0' ≤ c && c ≤ '9') || ('A' ≤ c && c ≤ 'Z') || ('a' ≤ c && c ≤ 'z') || c == '_' || c == '-'

/-- The brackets of flow collections and the comma between their items. -/
def isFlowIndicator (c : Char) : Bool :=
  c == ',' || c == '[' || c == ']' || c == '\x7b' || c == '\x7d'

/-- The characters that begin something else than a plain scalar, or nothing. -/
def isIndicator (c : Char) : Bool :=
  isFlowIndicator c || c == '-' || c == '?' || c == ':' || c == '#' || c == '&' || c == '*'
    || c == '!' || c == '|' || c == '>' || c == '\'' || c == '"' || c == '%' || c == '@'
    || c == '\x60'

/-- Whether three hyphens that form a word stand here. -/
def atDocumentStart : List Char → Bool
  | '-' :: '-' :: '-' :: rest => atWordEnd rest
  | _ => false

/-- Whether three dots that form a word stand here. -/
def atDocumentEnd : List Char → Bool
  | '.' :: '.' :: '.' :: rest => atWordEnd rest
  | _ => false

/-- Whether a mark stands here that begins or ends a document at the start of a line. -/
def atDocumentMark (chars : List Char) : Bool := atDocumentStart chars || atDocumentEnd chars

/-- A position in a text. -/
structure Place where
  line : Nat
  column : Nat
  /-- The number of bytes in front of it on its line. -/
  offset : Nat
deriving DecidableEq, Repr, Inhabited

namespace Place

/-- The place where a text begins. -/
def start : Place := ⟨0, 0, 0⟩

/-- The place behind a character. -/
def next (place : Place) (c : Char) : Place :=
  { place with column := place.column + 1, offset := place.offset + c.utf8Size }

/-- The place some characters of one byte further on. -/
def skip (place : Place) (count : Nat) : Place :=
  { place with column := place.column + count, offset := place.offset + count }

/-- The place behind a line break. -/
def nextLine (place : Place) : Place := ⟨place.line + 1, 0, 0⟩

end Place

/-- What stands between two words of a scalar. -/
inductive Gap where
  /-- Blanks on one line, newest first. -/
  | blanks (chars : List Char)
  /-- Line breaks: the first one, unless it was escaped, and the later ones, newest first. -/
  | breaks (first : Option Char) (later : List Char)
deriving DecidableEq, Repr, Inhabited

namespace Gap

/-- Nothing between two characters. -/
def none : Gap := .blanks []

/-- Whether there is no gap. -/
def isNone : Gap → Bool
  | .blanks [] => true
  | _ => false

/-- Whether the gap goes over the end of a line. -/
def isBroken : Gap → Bool
  | .blanks _ => false
  | .breaks _ _ => true

/-- Add a blank. Blanks around line breaks do not count. -/
def addBlank : Gap → Char → Gap
  | .blanks chars, c => .blanks (c :: chars)
  | .breaks first later, _ => .breaks first later

/-- Add a line break. -/
def addBreak : Gap → Char → Gap
  | .blanks _, c => .breaks (some c) []
  | .breaks first later, c => .breaks first (c :: later)

/-- The text that a gap stands for, newest character first: a single line feed is folded into a
space, and the first of several is dropped. -/
def folded : Gap → List Char
  | .blanks chars => chars
  | .breaks (some '\n') [] => [' ']
  | .breaks (some '\n') later => later
  | .breaks (some c) later => later ++ [c]
  | .breaks .none later => later

end Gap

/-! ## YAML tokens

The pieces that a stream is made of. The structure that indentation gives is made explicit by
tokens that open and close block collections, and the key of a mapping by a token in front of it. -/

/-- A tag as it is written: a handle, which stands for a string in front, and the rest. The handle
is empty for a tag that is written out. -/
structure WrittenTag where
  handle : List Char
  suffix : List UInt8
deriving DecidableEq, Repr, Inhabited

/-- The pieces of a stream. -/
inductive Token where
  /-- A directive with the version of the format. -/
  | version (major minor : Nat)
  /-- A directive that says what a tag handle stands for. -/
  | tagHandle (handle : List Char) (meaning : List UInt8)
  | documentStart
  | documentEnd
  | openBlockSequence
  | openBlockMapping
  | closeBlock
  | openFlowSequence
  | closeFlowSequence
  | openFlowMapping
  | closeFlowMapping
  /-- The hyphen in front of an item of a block sequence. -/
  | item
  | comma
  /-- Comes before the key of a mapping. -/
  | key
  /-- Comes before the value of a mapping. -/
  | value
  | alias (name : List Char)
  | anchor (name : List Char)
  | tag (written : WrittenTag)
  | scalar (text : List Char) (plain : Bool)
  | streamEnd
deriving DecidableEq, Repr, Inhabited

/-- Something that has been read, the place behind it, and the text that follows. -/
structure Scanned (α : Type) where
  value : α
  place : Place
  rest : List Char
deriving Repr, Inhabited

end Runbook.Yaml
