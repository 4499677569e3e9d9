import Runbook.Json.Basic
import Runbook.Text.Blank

/-!
# References and templates

A reference names a value of a job's context by a dotted path, such as `workflow.input.device`. A
template is a text with placeholders, which are references between braces. It is split into literals
and references once, and the values are put in later.
-/

namespace Runbook

/-- Why a text is no placeholder. -/
inductive PlaceholderError where
  /-- A placeholder with nothing in it. -/
  | empty
  /-- A path with nothing before, between or behind its dots. -/
  | emptySegment (path : String)
  /-- A placeholder that is not closed. -/
  | unterminated (raw : String)
  /-- A text that is not one placeholder and nothing else. -/
  | notSingle (raw : String)
deriving DecidableEq, Repr, Inhabited

/-- The wording of a placeholder error. -/
def PlaceholderError.message : PlaceholderError → String
  | .empty => "empty placeholder $\x7b\x7d"
  | .emptySegment path => "placeholder $\x7b" ++ path ++ "\x7d has an empty path segment"
  | .unterminated raw => "unterminated placeholder in '" ++ raw ++ "'"
  | .notSingle raw => "'" ++ raw ++ "' must be a single $\x7b...\x7d placeholder"

/-- A path into a context. The first segment is the name space, the others lead on from there. -/
structure Reference where
  space : String
  path : List String
deriving DecidableEq, Repr, Inhabited

namespace Reference

/-- All segments of a reference. -/
def segments (reference : Reference) : List String :=
  reference.space :: reference.path

/-- The dotted form. -/
def text (reference : Reference) : String :=
  String.intercalate "." reference.segments

/-- The pieces of a text between its dots. -/
def pieces (chars : List Char) : List (List Char) :=
  chars.splitOn '.'

/-- Read a dotted path. Blanks around it do not count, and each piece needs a character. -/
def ofChars (chars : List Char) : Except PlaceholderError Reference :=
  let trimmed := Text.trimChars chars
  if trimmed.isEmpty then .error .empty
  else
    let found := pieces trimmed
    if found.any List.isEmpty then .error (.emptySegment (String.ofList trimmed))
    else
      match found.map String.ofList with
      | [] => .error .empty
      | space :: path => .ok ⟨space, path⟩

/-- Read a dotted path. -/
def parse (path : String) : Except PlaceholderError Reference :=
  ofChars path.toList

end Reference

/-! ## Templates -/

/-- A piece of a template. -/
inductive Segment where
  | literal (text : String)
  | reference (reference : Reference)
deriving DecidableEq, Repr, Inhabited

/-- A text and the pieces that it consists of. -/
structure Template where
  raw : String
  segments : List Segment
deriving DecidableEq, Repr, Inhabited

namespace Template

/-- The text in front of the first opening of a placeholder, and the text behind it. -/
def splitOpening : List Char → Option (List Char × List Char)
  | [] => none
  | '$' :: '\x7b' :: rest => some ([], rest)
  | c :: rest => (splitOpening rest).map (fun (before, behind) => (c :: before, behind))

/-- The text in front of the first closing of a placeholder, and the text behind it. -/
def splitClosing : List Char → Option (List Char × List Char)
  | [] => none
  | '\x7d' :: rest => some ([], rest)
  | c :: rest => (splitClosing rest).map (fun (before, behind) => (c :: before, behind))

/-- An opening is two characters long. -/
theorem splitOpening_rest_lt {chars before behind : List Char}
    (found : splitOpening chars = some (before, behind)) : behind.length < chars.length := by
  fun_induction splitOpening chars generalizing before with
  | case1 => simp at found
  | case2 =>
    cases found
    exact Nat.lt_succ_of_lt (Nat.lt_succ_self _)
  | case3 _ _ _ shorter =>
    simp only [Option.map_eq_some_iff, Prod.mk.injEq] at found
    obtain ⟨⟨_, _⟩, found, _, rfl⟩ := found
    exact Nat.lt_succ_of_lt (shorter found)

/-- A closing is one character long. -/
theorem splitClosing_rest_lt {chars before behind : List Char}
    (found : splitClosing chars = some (before, behind)) : behind.length < chars.length := by
  fun_induction splitClosing chars generalizing before with
  | case1 => simp at found
  | case2 => simp_all
  | case3 _ _ _ shorter =>
    simp only [Option.map_eq_some_iff, Prod.mk.injEq] at found
    obtain ⟨⟨_, _⟩, found, _, rfl⟩ := found
    exact Nat.lt_succ_of_lt (shorter found)

/-- A literal piece, unless it is empty. -/
def literalPiece (chars : List Char) : List Segment :=
  if chars.isEmpty then [] else [.literal (String.ofList chars)]

/-- The pieces of a text. Errors quote the whole template, `raw`. -/
def pieces (raw : String) (chars : List Char) : Except PlaceholderError (List Segment) :=
  match opening : splitOpening chars with
  | none => .ok (literalPiece chars)
  | some (before, behind) =>
    match closing : splitClosing behind with
    | none => .error (.unterminated raw)
    | some (path, rest) =>
      have : rest.length < chars.length :=
        Nat.lt_trans (splitClosing_rest_lt closing) (splitOpening_rest_lt opening)
      do
        let reference ← Reference.ofChars path
        return literalPiece before ++ .reference reference :: (← pieces raw rest)
termination_by chars.length

/-- Read a template. -/
def parse (raw : String) : Except PlaceholderError Template := do
  return ⟨raw, ← pieces raw raw.toList⟩

/-- The references of a template, in order. -/
def references (template : Template) : List Reference :=
  template.segments.filterMap fun
    | .reference reference => some reference
    | .literal _ => none

end Template

/-- Read a text that has to be one placeholder and nothing else. -/
def Reference.parsePlaceholder (raw : String) : Except PlaceholderError Reference := do
  match (← Template.parse raw).segments with
  | [.reference reference] => return reference
  | _ => throw (.notSingle raw)

/-! ## Templates in JSON values -/

/-- A JSON value with templates in the place of its texts. -/
abbrev JsonTemplate := JsonTree Template

namespace JsonTemplate

/-- Read the texts of a value as templates. -/
def parse (value : Json) : Except PlaceholderError JsonTemplate :=
  JsonTree.traverse Template.parse value

/-- The references of all templates, from left to right. -/
def references (value : JsonTemplate) : List Reference :=
  (JsonTree.leaves value).flatMap Template.references

end JsonTemplate

end Runbook
