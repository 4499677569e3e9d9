import Runbook.Instances
import Runbook.Shell.Extended.Quotation
import Runbook.Shell.Pattern
import Runbook.Shell.Script

/-!
# Patterns and changed texts of the extended language

Patterns with groups of patterns in them, and what is made of the values that they cover.
-/

/-! ## Patterns of the extended language

Patterns with groups of patterns in them. A pattern is matched by all the rests of a text that it
may leave, which are kept in order. -/

namespace Runbook.Shell.Extended

/-- A part of a pattern. -/
inductive Glob where
  | char (c : Char)
  | anyChar
  | anyText
  /-- A character of some ranges, or one of none of them. -/
  | oneOf (negated : Bool) (ranges : List (Char × Char))
  /-- One of some patterns, as often as the mark says. -/
  | group (mark : Char) (choices : List (List Glob))
deriving Inhabited

namespace Glob

/-! ## Matching -/

/-- A rest of a text, with its length in front, by which the rests of one text are told apart. -/
abbrev Rest := Nat × List Char

namespace Rest

/-- A text as a rest of itself. -/
def ofChars (chars : List Char) : Rest := (chars.length, chars)

/-- All rests of a rest, the longest one first. -/
def all (rest : Rest) : List Rest := (collect rest.1 rest.2 []).reverse
where
  /-- The rests of a text in front of those that are found, the shortest one first. -/
  collect : (length : Nat) → List Char → (found : List Rest) → List Rest
    | length, [], found => (length, []) :: found
    | length, c :: chars, found => collect (length - 1) chars ((length, c :: chars) :: found)

/-- Rests in order, the longest one first, without those that are there twice. -/
def inOrder (rests : List Rest) : List Rest :=
  (rests.mergeSort fun left right => right.1 ≤ left.1).eraseRepsBy fun left right =>
    left.1 == right.1

end Rest

/-- Whether two characters are the same, or the same but for their case. -/
def same (folded : Bool) (c d : Char) : Bool :=
  c == d || (folded && c.toLower == d.toLower)

/-- Whether a character is in some ranges. -/
def inRanges (folded : Bool) (ranges : List (Char × Char)) (c : Char) : Bool :=
  let inside (c : Char) : Bool := ranges.any fun (low, high) => low ≤ c && c ≤ high
  inside c || (folded && (inside c.toLower || inside c.toUpper))

mutual

/-- The rests behind a pattern, of which each begins at one of some rests. -/
def behind (folded : Bool) : (fuel : Nat) → List Glob → List Rest → List Rest
  | 0, _, _ => []
  | _ + 1, [], rests => rests
  | fuel + 1, part :: parts, rests =>
    if rests.isEmpty then [] else behind folded fuel parts (behindPart folded fuel part rests)

/-- The rests behind one part of a pattern. -/
def behindPart (folded : Bool) : (fuel : Nat) → Glob → List Rest → List Rest
  | 0, _, _ => []
  | fuel + 1, part, rests =>
    let one (test : Char → Bool) : List Rest :=
      rests.filterMap fun (length, chars) =>
        match chars with
        | c :: later => if test c then some (length - 1, later) else none
        | [] => none
    match part with
    | .char d => one (same folded d)
    | .anyChar => one fun _ => true
    | .anyText => (rests.head?.map Rest.all).getD []
    | .oneOf negated ranges => one fun c => inRanges folded ranges c != negated
    | .group mark choices =>
      let once (rests : List Rest) : List Rest :=
        Rest.inOrder (choices.flatMap fun choice => behind folded fuel choice rests)
      match mark with
      | '@' => once rests
      | '?' => Rest.inOrder (rests ++ once rests)
      | '!' =>
        Rest.inOrder (rests.flatMap fun rest =>
          let covered := once [rest]
          rest.all.filter fun other => !covered.any (·.1 == other.1))
      | _ =>
        let all := repeated folded fuel choices (once rests) (once rests)
        if mark = '*' then Rest.inOrder (rests ++ all) else all

/-- The rests behind one of some patterns, once or more. The new rests among those that are known
are looked at. -/
def repeated (folded : Bool) : (fuel : Nat) → (choices : List (List Glob)) →
    (known new : List Rest) → List Rest
  | 0, _, known, _ => known
  | fuel + 1, choices, known, new =>
    let found := Rest.inOrder (choices.flatMap fun choice => behind folded fuel choice new)
    let fresh := found.filter fun rest => !known.any (·.1 == rest.1)
    if fresh.isEmpty then known
    else repeated folded fuel choices (Rest.inOrder (known ++ fresh)) fresh

end

/-- How deep a pattern is searched for. -/
def depth (rest : Rest) : Nat := 2 ^ 20 + rest.1

/-- The rests of a text that a pattern may leave, the longest one first. -/
def restsOf (folded : Bool) (parts : List Glob) (rest : Rest) : List Rest :=
  behind folded (depth rest) parts [rest]

/-- Whether a pattern covers all of a rest. -/
def coversRest (folded : Bool) (parts : List Glob) (rest : Rest) : Bool :=
  (restsOf folded parts rest).getLast?.any (·.1 == 0)

/-- Whether a pattern covers a whole text. -/
def covers (folded : Bool) (parts : List Glob) (chars : List Char) : Bool :=
  coversRest folded parts (.ofChars chars)

/-! ## Reading -/

/-- The characters of alternatives between bars, up to the parenthesis that closes them. -/
def splitChoices : (depth : Nat) → List (Bool × Char) →
    Option (List (List (Bool × Char)) × List (Bool × Char))
  | _, [] => none
  | depth, (quoted, c) :: rest =>
    let keep (depth : Nat) : Option (List (List (Bool × Char)) × List (Bool × Char)) :=
      (splitChoices depth rest).map fun (choices, behind) =>
        match choices with
        | first :: others => (((quoted, c) :: first) :: others, behind)
        | [] => ([[(quoted, c)]], behind)
    if quoted then keep depth
    else if c = '(' then keep (depth + 1)
    else if c = ')' then if depth = 0 then some ([[]], rest) else keep (depth - 1)
    else if c = '|' ∧ depth = 0 then
      (splitChoices depth rest).map fun (choices, behind) => ([] :: choices, behind)
    else keep depth

/-- Read a pattern from characters, of which some are quoted and stand for themselves. There are
groups only if `groups` is set. -/
def ofChars (groups : Bool) : (fuel : Nat) → List (Bool × Char) → List Glob
  | 0, _ => []
  | _ + 1, [] => []
  | fuel + 1, (quoted, c) :: rest =>
    let plain (_ : Unit) : List Glob :=
      if c = '*' then .anyText :: ofChars groups fuel rest
      else if c = '?' then .anyChar :: ofChars groups fuel rest
      else .char c :: ofChars groups fuel rest
    if quoted then .char c :: ofChars groups fuel rest
    else
      let group? := match rest with
        | (false, '(') :: inside =>
          if groups && "?*+@!".toList.contains c then splitChoices 0 inside else none
        | _ => none
      match group?, c with
      | some (choices, behind), _ =>
        .group c (choices.map (ofChars groups fuel)) :: ofChars groups fuel behind
      | none, '\\' =>
        match rest with
        | (_, escaped) :: rest => .char escaped :: ofChars groups fuel rest
        | [] => [.char c]
      | none, '[' =>
        let (negated, set) := match rest with
          | (false, '!') :: set | (false, '^') :: set => (true, set)
          | set => (false, set)
        match PatternPart.readRanges (set.length + 1) true set with
        | some (ranges, behind) => .oneOf negated ranges :: ofChars groups fuel behind
        | none => .char c :: ofChars groups fuel rest
      | none, _ => plain ()

/-- The pattern that characters write. -/
def read (groups : Bool) (marked : List (Bool × Char)) : List Glob :=
  ofChars groups (marked.length + 1) marked

end Glob

end Runbook.Shell.Extended

/-! ## Changed texts

What can be made of the value of a variable where it is put in. -/

namespace Runbook.Shell.Extended.Transform

/-- A text without a part of its front that a pattern covers. -/
def cutFront (folded longest : Bool) (parts : List Glob) (chars : List Char) : List Char :=
  let rests := Glob.restsOf folded parts (.ofChars chars)
  ((if longest then rests.getLast? else rests.head?).map (·.2)).getD chars

/-- The part at the end of a text that a pattern covers, as long or as short as possible. -/
def coveredEnd? (folded longest : Bool) (parts : List Glob) (chars : List Char) :
    Option Glob.Rest :=
  let ends := (Glob.Rest.ofChars chars).all
  (if longest then ends else ends.reverse).find? (Glob.coversRest folded parts)

/-- A text without a part of its end that a pattern covers. -/
def cutEnd (folded longest : Bool) (parts : List Glob) (chars : List Char) : List Char :=
  match coveredEnd? folded longest parts chars with
  | some (length, _) => chars.take (chars.length - length)
  | none => chars

/-- What stands in the place of a text that a pattern covers: characters, of which some stand for
that text. -/
abbrev Replacement := List (Option Char)

/-- The replacement that characters write, of which some are quoted. -/
def replacementOf (chars : List (Bool × Char)) : Replacement :=
  chars.map fun (quoted, c) => if c = '&' ∧ !quoted then none else some c

/-- What stands in the place of a text. -/
def fill (replacement : Replacement) (text : List Char) : List Char :=
  replacement.flatMap fun c? => c?.elim text fun c => [c]

/-- Put something in the place of the texts that a pattern covers, of all of them or of the first
one. -/
def replaceAll (folded : Bool) (parts : List Glob) (replacement : Replacement) (every : Bool) :
    (fuel : Nat) → Glob.Rest → List Char
  | 0, (_, chars) => chars
  | _, (_, []) => []
  | fuel + 1, (length, c :: later) =>
    match (Glob.restsOf folded parts (length, c :: later)).getLast? with
    | some (left, rest) =>
      if left = length then
        c :: replaceAll folded parts replacement every fuel (length - 1, later)
      else
        let front := fill replacement ((c :: later).take (length - left))
        front ++ if every then replaceAll folded parts replacement every fuel (left, rest) else rest
    | none => c :: replaceAll folded parts replacement every fuel (length - 1, later)

/-- Put something in the place of texts that a pattern covers. -/
def replace (folded : Bool) (range : ReplaceRange) (parts : List Glob) (replacement : Replacement)
    (chars : List Char) : List Char :=
  let whole := Glob.Rest.ofChars chars
  match range with
  | .first => replaceAll folded parts replacement false (chars.length + 1) whole
  | .every => replaceAll folded parts replacement true (chars.length + 1) whole
  | .front =>
    match (Glob.restsOf folded parts whole).getLast? with
    | some (left, rest) => fill replacement (chars.take (chars.length - left)) ++ rest
    | none => chars
  | .ending =>
    match coveredEnd? folded true parts chars with
    | some (length, rest) => chars.take (chars.length - length) ++ fill replacement rest
    | none => chars

/-- A letter in another case. -/
def changeCase (letters : LetterCase) (c : Char) : Char :=
  match letters with
  | .upper => c.toUpper
  | .lower => c.toLower
  | .other => if c.isUpper then c.toLower else c.toUpper

/-- Change the case of letters that a pattern covers, of all or of the first character. An empty
pattern covers any. -/
def recase (letters : LetterCase) (every : Bool) (parts : List Glob) (chars : List Char) :
    List Char :=
  let change (c : Char) : Char :=
    if parts.isEmpty || Glob.covers false parts [c] then changeCase letters c else c
  if every then chars.map change
  else
    match chars with
    | c :: rest => change c :: rest
    | [] => []

/-- A part of a list from some place on, and how long it may be. Places and lengths below zero count
from the end; `none` is told for a length that ends before the place. -/
def slice {α : Type} (offset : Int) (length? : Option Int) (items : List α) : Option (List α) :=
  let size : Int := items.length
  let first := if offset < 0 then offset + size else offset
  if first < 0 ∨ size < first then some []
  else
    let rest := items.drop first.toNat
    match length? with
    | none => some rest
    | some length =>
      if 0 ≤ length then some (rest.take length.toNat)
      else if size + length < first then none
      else some (rest.take (size + length - first).toNat)

end Runbook.Shell.Extended.Transform
