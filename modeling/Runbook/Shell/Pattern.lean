/-!
# Patterns

Patterns for texts, in which an asterisk stands for any text and a question mark for any character.
-/

namespace Runbook.Shell

/-- A part of a pattern. -/
inductive PatternPart where
  | char (c : Char)
  | anyChar
  | anyText
  /-- A character of some ranges, or one of none of them. -/
  | oneOf (negated : Bool) (ranges : List (Char × Char))
deriving DecidableEq, Repr, Inhabited

namespace PatternPart

/-- Whether a part fits one character. -/
def fits : PatternPart → Char → Bool
  | .char d, c => c == d
  | .anyChar, _ => true
  | .anyText, _ => true
  | .oneOf negated ranges, c => ranges.any (fun (low, high) => low ≤ c && c ≤ high) != negated

/-- Whether a pattern fits a whole text. -/
def covers : List PatternPart → List Char → Bool
  | [], chars => chars.isEmpty
  | .anyText :: parts, [] => covers parts []
  | .anyText :: parts, c :: chars =>
    covers parts (c :: chars) || covers (.anyText :: parts) chars
  | _ :: _, [] => false
  | part :: parts, c :: chars => part.fits c && covers parts chars
termination_by parts chars => (chars.length, parts.length)

/-- The classes of characters by their names. -/
def classes : List (String × List (Char × Char)) :=
  [("alpha", [('A', 'Z'), ('a', 'z')]), ("digit", [('0', '9')]),
    ("alnum", [('0', '9'), ('A', 'Z'), ('a', 'z')]), ("lower", [('a', 'z')]),
    ("upper", [('A', 'Z')]), ("space", [('\t', '\r'), (' ', ' ')]),
    ("blank", [('\t', '\t'), (' ', ' ')]), ("xdigit", [('0', '9'), ('A', 'F'), ('a', 'f')]),
    ("punct", [('!', '/'), (':', '@'), ('[', '\x60'), ('\x7b', '~')]),
    ("print", [(' ', '~')]), ("graph", [('!', '~')]), ("cntrl", [('\x00', '\x1f')])]

/-- Read the name of a class in front of a colon and a bracket. -/
def readClass? (chars : List (Bool × Char)) :
    Option (List (Char × Char) × List (Bool × Char)) :=
  match chars.span (fun c => c.2 != ':') with
  | (name, _ :: (_, ']') :: rest) =>
    (classes.lookup (String.ofList (name.map (·.2)))).map (·, rest)
  | _ => none

/-- Read ranges up to the bracket that ends them. A bracket at their front stands for itself. -/
def readRanges : (fuel : Nat) → (atFront : Bool) → List (Bool × Char) →
    Option (List (Char × Char) × List (Bool × Char))
  | 0, _, _ => none
  | _ + 1, _, [] => none
  | fuel + 1, atFront, (quoted, c) :: rest =>
    if c = ']' ∧ !quoted ∧ !atFront then some ([], rest)
    else
      let single (_ : Unit) : Option (List (Char × Char) × List (Bool × Char)) :=
        match rest with
        | (false, '-') :: (otherQuoted, high) :: behind =>
          if high = ']' ∧ !otherQuoted then do
            let (ranges, rest) ← readRanges fuel false rest
            return ((c, c) :: ranges, rest)
          else do
            let (ranges, rest) ← readRanges fuel false behind
            return ((c, high) :: ranges, rest)
        | _ => do
          let (ranges, rest) ← readRanges fuel false rest
          return ((c, c) :: ranges, rest)
      match c, quoted, rest with
      | '[', false, (false, ':') :: name =>
        match readClass? name with
        | some (named, behind) => do
          let (ranges, rest) ← readRanges fuel false behind
          return (named ++ ranges, rest)
        | none => single ()
      | _, _, _ => single ()

/-- Read a pattern from characters, of which some are quoted and stand for themselves. -/
def ofChars : (fuel : Nat) → List (Bool × Char) → List PatternPart
  | 0, _ => []
  | _ + 1, [] => []
  | fuel + 1, (quoted, c) :: rest =>
    if quoted then .char c :: ofChars fuel rest
    else if c = '*' then .anyText :: ofChars fuel rest
    else if c = '?' then .anyChar :: ofChars fuel rest
    else if c = '\\' then
      match rest with
      | (_, escaped) :: rest => .char escaped :: ofChars fuel rest
      | [] => [.char c]
    else if c = '[' then
      let (negated, set) := match rest with
        | (false, '!') :: set => (true, set)
        | set => (false, set)
      match readRanges (set.length + 1) true set with
      | some (ranges, behind) => .oneOf negated ranges :: ofChars fuel behind
      | none => .char c :: ofChars fuel rest
    else .char c :: ofChars fuel rest

/-- The rest of a text behind a part of its front that a pattern covers. -/
def cutFront (longest : Bool) (parts : List PatternPart) (chars : List Char) : List Char :=
  let cuts := (List.range (chars.length + 1)).filter fun n => covers parts (chars.take n)
  match if longest then cuts.getLast? else cuts.head? with
  | some n => chars.drop n
  | none => chars

/-- A text without a part of its end that a pattern covers. -/
def cutEnd (longest : Bool) (parts : List PatternPart) (chars : List Char) : List Char :=
  let cuts := (List.range (chars.length + 1)).filter fun n => covers parts (chars.drop n)
  match if longest then cuts.head? else cuts.getLast? with
  | some n => chars.take n
  | none => chars

end PatternPart

end Runbook.Shell
