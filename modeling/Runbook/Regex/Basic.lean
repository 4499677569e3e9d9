/-!
# Regular expressions

Expressions for texts, with groups whose matches are kept. A match begins as far to the left as can
be, and is the longest one there; of equal ones, the part that stands first is the longest.
-/

namespace Runbook

/-- A set of characters: those of some ranges, or all others. -/
structure CharSet where
  negated : Bool
  ranges : List (Char × Char)
deriving DecidableEq, Repr, Inhabited

namespace CharSet

/-- Whether a character belongs to a set. -/
def contains (set : CharSet) (c : Char) : Bool :=
  set.ranges.any (fun (low, high) => low ≤ c && c ≤ high) != set.negated

/-- The set of one character. -/
def single (c : Char) : CharSet := ⟨false, [(c, c)]⟩

/-- The set of all characters. -/
def all : CharSet := ⟨true, []⟩

/-- The other case of a letter. -/
def swapCase (c : Char) : Char := if c.isUpper then c.toLower else c.toUpper

/-- The letters of a range in the other case. -/
def swapRange (range : Char × Char) : List (Char × Char) :=
  let swapped (low high : Char) : List (Char × Char) :=
    let first := if low ≤ range.1 then range.1 else low
    let last := if range.2 ≤ high then range.2 else high
    if first ≤ last then [(swapCase first, swapCase last)] else []
  swapped 'a' 'z' ++ swapped 'A' 'Z'

/-- A set that does not tell small letters from capital ones. -/
def ignoringCase (set : CharSet) : CharSet :=
  { set with ranges := set.ranges ++ set.ranges.flatMap swapRange }

/-- The classes of characters by their names. -/
def classes : List (String × List (Char × Char)) :=
  [("alpha", [('A', 'Z'), ('a', 'z')]), ("digit", [('0', '9')]),
    ("alnum", [('0', '9'), ('A', 'Z'), ('a', 'z')]), ("lower", [('a', 'z')]),
    ("upper", [('A', 'Z')]), ("space", [('\t', '\r'), (' ', ' ')]),
    ("blank", [('\t', '\t'), (' ', ' ')]), ("xdigit", [('0', '9'), ('A', 'F'), ('a', 'f')]),
    ("punct", [('!', '/'), (':', '@'), ('[', '\x60'), ('\x7b', '~')]),
    ("print", [(' ', '~')]), ("graph", [('!', '~')]),
    ("cntrl", [('\x00', '\x1f'), ('\x7f', '\x7f')])]

/-- The characters of words. -/
def word : CharSet := ⟨false, [('0', '9'), ('A', 'Z'), ('_', '_'), ('a', 'z')]⟩

/-- The characters that are blank. -/
def space : CharSet := ⟨false, [('\t', '\r'), (' ', ' ')]⟩

/-- A character belongs to a set exactly if it does not belong to the opposite of it. -/
theorem contains_negated (set : CharSet) (c : Char) :
    { set with negated := !set.negated }.contains c = !set.contains c := by
  cases h : set.negated <;> simp [contains, h]

end CharSet

/-- A place that an expression may ask for without taking a character. -/
inductive Edge where
  | lineStart
  | lineEnd
  | textStart
  | textEnd
  | wordStart
  | wordEnd
  /-- The start or the end of a word, or any other place. -/
  | word (inside : Bool)
  /-- No word ends or goes on here, or none begins or goes on. -/
  | noWordBefore
  | noWordBehind
deriving DecidableEq, Repr, Inhabited

/-- A regular expression. -/
inductive Regex where
  | empty
  | one (set : CharSet)
  | edge (kind : Edge)
  | seq (first second : Regex)
  | either (first second : Regex)
  /-- As many times as allowed; without `most?` there is no bound. -/
  | rep (least : Nat) (most? : Option Nat) (body : Regex)
  | group (number : Nat) (body : Regex)
  /-- What a group has matched. -/
  | again (number : Nat) (ignoreCase : Bool)
deriving DecidableEq, Repr, Inhabited

namespace Regex

/-- A place in a text: how many characters stand in front of it, the last of them, and the text
behind it. -/
structure Place where
  index : Nat
  before? : Option Char
  rest : List Char
deriving DecidableEq, Repr, Inhabited

/-- What a group has matched, and where that begins. -/
structure Capture where
  first : Nat
  chars : List Char
deriving DecidableEq, Repr, Inhabited

/-- A place that a match has come to, and what the groups have matched on the way. -/
structure Trail where
  place : Place
  captures : List (Nat × Capture)
deriving DecidableEq, Repr, Inhabited

namespace Place

/-- The start of a text. -/
def start (chars : List Char) : Place := ⟨0, none, chars⟩

/-- The place behind a character. -/
def next (place : Place) (c : Char) (rest : List Char) : Place := ⟨place.index + 1, some c, rest⟩

/-- Whether the place is what an edge asks for. Lines end at line breaks if there are many. -/
def isAt (manyLines : Bool) (place : Place) (edge : Edge) : Bool :=
  let before := place.before?.any CharSet.word.contains
  let behind := place.rest.head?.any CharSet.word.contains
  match edge with
  | .lineStart => place.before?.all fun c => manyLines && c == '\n'
  | .lineEnd => place.rest.head?.all fun c => manyLines && c == '\n'
  | .textStart => place.before?.isNone
  | .textEnd => place.rest.isEmpty
  | .wordStart => !before && behind
  | .wordEnd => before && !behind
  | .word inside => (before != behind) == inside
  | .noWordBefore => !before
  | .noWordBehind => !behind

end Place

namespace Trail

/-- Whether two trails have the same future. Without groups that match again, the place decides. -/
def meets (exact : Bool) (left right : Trail) : Bool :=
  left.place.index == right.place.index && (!exact || left.captures == right.captures)

/-- Add a trail to others that are in order, the longest one first, unless one of them has the same
future. -/
def insert (exact : Bool) (trail : Trail) : List Trail → List Trail
  | [] => [trail]
  | other :: trails =>
    if other.meets exact trail then other :: trails
    else if other.place.index < trail.place.index then trail :: other :: trails
    else other :: insert exact trail trails

/-- Trails in order, the longest one first; of those with the same future the first one counts. -/
def settle (exact : Bool) (trails : List Trail) : List Trail :=
  trails.foldl (fun settled trail => insert exact trail settled) []

/-- The trails behind any number of characters of a set up to a bound, the longest one first. -/
def runs (set : CharSet) : (most : Nat) → (chars : List Char) → Trail → (later : List Trail) →
    List Trail
  | 0, _, trail, later => trail :: later
  | _ + 1, [], trail, later => trail :: later
  | most + 1, c :: rest, trail, later =>
    if set.contains c then
      runs set most rest { trail with place := trail.place.next c rest } (trail :: later)
    else trail :: later

/-- The trails behind any number of rounds from some trails, which are among them. -/
def rounds (exact : Bool) (round : Trail → List Trail) : (most : Nat) →
    (seen frontier : List Trail) →
    List Trail
  | 0, seen, _ => seen
  | most + 1, seen, frontier =>
    let fresh := (settle exact (frontier.flatMap round)).filter fun trail =>
      !seen.any (·.meets exact trail)
    if fresh.isEmpty then seen else rounds exact round most (seen ++ fresh) fresh

/-- The trails behind a number of rounds from some trails. -/
def repeated (exact : Bool) (round : Trail → List Trail) : (count : Nat) → List Trail → List Trail
  | 0, trails => trails
  | count + 1, trails => repeated exact round count (settle exact (trails.flatMap round))

/-- Take some characters again, if they stand here. -/
def again (ignoreCase : Bool) (trail : Trail) (chars : List Char) : List Trail :=
  let fold (c : Char) : Char := if ignoreCase then c.toLower else c
  if (chars.map fold).isPrefixOf (trail.place.rest.map fold) then
    let behind := trail.place.rest.drop chars.length
    let before? := match chars with
      | [] => trail.place.before?
      | _ => trail.place.rest[chars.length - 1]?
    [{ trail with place := ⟨trail.place.index + chars.length, before?, behind⟩ }]
  else []

end Trail

/-- Whether a group matches again what it has matched. -/
def repeats : Regex → Bool
  | .again _ _ => true
  | .seq first second | .either first second => first.repeats || second.repeats
  | .rep _ _ body | .group _ body => body.repeats
  | _ => false

/-- The trails behind an expression, the longest one first. -/
def advance (exact manyLines : Bool) : Regex → Trail → List Trail
  | .empty, trail => [trail]
  | .one set, trail =>
    match trail.place.rest with
    | c :: rest =>
      if set.contains c then [{ trail with place := trail.place.next c rest }] else []
    | [] => []
  | .edge kind, trail => if trail.place.isAt manyLines kind then [trail] else []
  | .seq first second, trail =>
    Trail.settle exact ((advance exact manyLines first trail).flatMap
      (advance exact manyLines second))
  | .either first second, trail =>
    Trail.settle exact
      (advance exact manyLines first trail ++ advance exact manyLines second trail)
  | .rep 0 most? (.one set), trail =>
    let chars := trail.place.rest
    Trail.runs set (most?.getD chars.length) chars trail []
  | .rep least most? body, trail =>
    let round := advance exact manyLines body
    let begun := Trail.repeated exact round least [trail]
    let most := most?.elim (trail.place.rest.length + 1) (· - least)
    Trail.settle exact (Trail.rounds exact round most begun begun)
  | .group number body, trail =>
    (advance exact manyLines body trail).map fun behind =>
      let chars := trail.place.rest.take (behind.place.index - trail.place.index)
      { behind with
        captures := (number, ⟨trail.place.index, chars⟩)
          :: behind.captures.filter (·.1 != number) }
  | .again number ignoreCase, trail =>
    match trail.captures.lookup number with
    | some capture => trail.again ignoreCase capture.chars
    | none => []

/-- A match: where it begins, what it covers, where it ends, and what its groups have matched. -/
structure Match where
  first : Nat
  chars : List Char
  behind : Place
  captures : List (Nat × Capture)
deriving DecidableEq, Repr, Inhabited

/-- What a group has matched; group zero is the whole match. -/
def Match.group (found : Match) (number : Nat) : List Char :=
  if number = 0 then found.chars
  else (found.captures.lookup number).elim [] (·.chars)

/-- The longest match that begins at a place. -/
def matchAt? (manyLines : Bool) (regex : Regex) (place : Place) : Option Match :=
  (advance regex.repeats manyLines regex ⟨place, []⟩).head?.map fun trail =>
    ⟨place.index, place.rest.take (trail.place.index - place.index), trail.place, trail.captures⟩

/-- The first match at a place or behind it. -/
def searchFrom? (manyLines : Bool) (regex : Regex) (index : Nat) (before? : Option Char) :
    (rest : List Char) → Option Match
  | [] => matchAt? manyLines regex ⟨index, before?, []⟩
  | c :: rest =>
    match matchAt? manyLines regex ⟨index, before?, c :: rest⟩ with
    | some found => some found
    | none => searchFrom? manyLines regex (index + 1) (some c) rest

/-- The first match at a place or behind it. -/
def search? (manyLines : Bool) (regex : Regex) (place : Place) : Option Match :=
  searchFrom? manyLines regex place.index place.before? place.rest

/-- Whether an expression matches somewhere in a text. -/
def occursIn (regex : Regex) (chars : List Char) : Bool :=
  (regex.search? false (.start chars)).isSome

/-- All matches in a text that do not overlap, up to a number of them. An empty match counts only
where no other match has ended. -/
def searchAll (manyLines : Bool) (regex : Regex) : (fuel : Nat) → (end? : Option Nat) → Place →
    List Match
  | 0, _, _ => []
  | fuel + 1, end?, place =>
    match regex.search? manyLines place with
    | none => []
    | some found =>
      if found.chars.isEmpty then
        let here := if end? = some found.first then [] else [found]
        match found.behind.rest with
        | [] => here
        | c :: rest =>
          here ++ searchAll manyLines regex fuel end? (found.behind.next c rest)
      else found :: searchAll manyLines regex fuel (some found.behind.index) found.behind

/-- All matches in a text that do not overlap. -/
def matchesIn (manyLines : Bool) (regex : Regex) (chars : List Char) : List Match :=
  searchAll manyLines regex (chars.length + 1) none (.start chars)

end Regex

end Runbook
