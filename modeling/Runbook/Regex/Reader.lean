import Runbook.Decimal.Reading
import Runbook.Regex.Basic

/-!
# Reading regular expressions

Basic expressions write their operators behind backslashes, and extended ones write them as they
are. Programs differ in what they make of operators that stand in the wrong place.
-/

namespace Runbook.Regex

/-- How expressions are written. -/
structure Flavor where
  /-- Operators stand without backslashes. -/
  extended : Bool
  /-- Misplaced operators stand for themselves or for nothing, instead of being faults. -/
  lenient : Bool
  /-- Small and capital letters are not told apart. -/
  ignoreCase : Bool
  /-- Words, edges and groups that match again can be written. -/
  rich : Bool
  /-- Bounds for repetitions can be written. -/
  bounded : Bool
deriving DecidableEq, Repr, Inhabited

/-- What is wrong with an expression. -/
inductive Fault where
  | trailingBackslash
  | openBracket
  | emptyBracket
  | openParenthesis
  | closingParenthesis
  | openBrace
  | badBounds
  | badRange
  | badClass
  | bareClass
  | badCollation
  | badAgain
  | nothingToRepeat
  | tooBig
deriving DecidableEq, Repr, Inhabited

/-- The wording of a fault. -/
def Fault.message : Fault → String
  | .trailingBackslash => "Trailing backslash"
  | .openBracket => "Unmatched [, [^, [:, [., or [="
  | .emptyBracket => "Invalid regular expression"
  | .openParenthesis => "Unmatched ( or \\("
  | .closingParenthesis => "Unmatched ) or \\)"
  | .openBrace => "Unmatched \\\x7b"
  | .badBounds => "Invalid content of \\\x7b\\\x7d"
  | .badRange => "Invalid range end"
  | .badClass => "Invalid character class name"
  | .bareClass => "character class syntax is [[:space:]], not [:space:]"
  | .badCollation => "Invalid collation character"
  | .badAgain => "Invalid back reference"
  | .nothingToRepeat => "Invalid preceding regular expression"
  | .tooBig => "Regular expression too big"

/-! ## Sets -/

/-- A member of a set in brackets: some ranges, or a character that may begin a range. -/
inductive Member where
  | ranges (ranges : List (Char × Char))
  | char (c : Char)

/-- Read up to a mark and a bracket, if they are there. -/
def spanNamed (mark : Char) : List Char → Option (List Char × List Char)
  | [] => none
  | c :: rest =>
    if c = mark ∧ rest.head? = some ']' then some ([], rest.tail)
    else (spanNamed mark rest).map fun (name, behind) => (c :: name, behind)

/-- Read a member of a set. -/
def readMember (chars : List Char) : Except Fault (Member × List Char) :=
  match chars with
  | [] => .error .openBracket
  | '[' :: ':' :: rest =>
    match spanNamed ':' rest with
    | none => .ok (.char '[', ':' :: rest)
    | some (name, behind) =>
      match CharSet.classes.lookup (String.ofList name) with
      | some ranges => .ok (.ranges ranges, behind)
      | none => .error .badClass
  | '[' :: mark :: rest =>
    if mark = '.' ∨ mark = '=' then
      match spanNamed mark rest with
      | some ([c], behind) => .ok (if mark = '.' then .char c else .ranges [(c, c)], behind)
      | some _ => .error .badCollation
      | none => .error .openBracket
    else .ok (.char '[', mark :: rest)
  | c :: rest => .ok (.char c, rest)

/-- Read the members of a set up to the bracket behind them. A bracket at their front is a
member. -/
def readMembers : (fuel : Nat) → (atFront : Bool) → List Char →
    Except Fault (List (Char × Char) × List Char)
  | 0, _, _ => .error .openBracket
  | fuel + 1, atFront, chars => do
    match chars, atFront with
    | [], _ => throw .openBracket
    | ']' :: rest, false => return ([], rest)
    | '-' :: c :: _, false => if c ≠ ']' then throw .badRange
    | _, _ => pure ()
    let (first, rest) ← readMember chars
    match first, rest with
    | .ranges ranges, '-' :: c :: _ =>
      if c = ']' then
        let (others, behind) ← readMembers fuel false rest
        return (ranges ++ others, behind)
      else throw .badRange
    | .ranges ranges, rest =>
      let (others, behind) ← readMembers fuel false rest
      return (ranges ++ others, behind)
    | .char low, '-' :: c :: more =>
      if c = ']' then
        let (others, behind) ← readMembers fuel false rest
        return ((low, low) :: others, behind)
      else
        match ← readMember (c :: more) with
        | (.char high, behind) =>
          if high < low then throw .badRange
          let (others, behind) ← readMembers fuel false behind
          return ((low, high) :: others, behind)
        | _ => throw .badRange
    | .char c, rest =>
      let (others, behind) ← readMembers fuel false rest
      return ((c, c) :: others, behind)

/-- Whether brackets stand around a name of a class and its marks, and not around those as well. -/
def isBareClass (chars : List Char) : Bool :=
  match chars with
  | ':' :: rest =>
    match rest.span (· != ']') with
    | (name, _ :: _) => 1 < name.length && name.getLast? == some ':'
    | _ => false
  | _ => false

/-- Read a set behind its bracket. -/
def readSet (chars : List Char) : Except Fault (CharSet × List Char) := do
  if chars.isEmpty then throw .emptyBracket
  if isBareClass chars then throw .bareClass
  let (negated, members) := match chars with
    | '^' :: members => (true, members)
    | members => (false, members)
  let (ranges, rest) ← readMembers (members.length + 1) true members
  return (⟨negated, ranges⟩, rest)

/-! ## Expressions -/

/-- A part of an expression as it is written. -/
inductive Part where
  | set (set : CharSet)
  | edge (kind : Edge)
  | opening
  | closing
  | bar
  /-- How often the part in front is repeated; an asterisk and bounds are strict, and may not be
  repeated in a basic expression. -/
  | times (least : Nat) (most? : Option Nat) (strict : Bool) (shown : Char)
  | again (number : Nat)
deriving Inhabited

/-- The greatest bound of a repetition. -/
def greatestBound : Nat := 32767

/-- Read bounds up to the brace that closes them. Without one of them there are none. -/
def readBounds (extended : Bool) (chars : List Char) :
    Except Fault (Nat × Option Nat × List Char) := do
  let closed (rest : List Char) : Except Fault (List Char) :=
    match extended, rest with
    | true, '\x7d' :: rest | false, '\\' :: '\x7d' :: rest => .ok rest
    | _, [] | false, ['\\'] => .error .openBrace
    | _, _ =>
      if rest.contains '\x7d' then .error .badBounds else .error .openBrace
  let digits := chars.takeWhile Char.isDigit
  let rest := chars.drop digits.length
  let least? := Decimal.readNatural (2 ^ 64) digits
  let (least, most?, rest) ← match rest with
    | ',' :: rest =>
      let digits := rest.takeWhile Char.isDigit
      let most? := Decimal.readNatural (2 ^ 64) digits
      let rest ← closed (rest.drop digits.length)
      pure (least?.getD 0, most?, rest)
    | rest => do
      let rest ← closed rest
      match least? with
      | some least => pure (least, some least, rest)
      | none => throw .badBounds
  if most?.any (· < least) then throw .badBounds
  if greatestBound < most?.getD least then throw .tooBig
  return (least, most?, rest)

/-- The part that a backslash and a character write in rich expressions. -/
def richPart? : Char → Option Part
  | 'w' => some (.set CharSet.word)
  | 'W' => some (.set { CharSet.word with negated := true })
  | 's' => some (.set CharSet.space)
  | 'S' => some (.set { CharSet.space with negated := true })
  | 'b' => some (.edge (.word true))
  | 'B' => some (.edge (.word false))
  | '<' => some (.edge .wordStart)
  | '>' => some (.edge .wordEnd)
  | '\x60' => some (.edge .textStart)
  | '\'' => some (.edge .textEnd)
  | _ => none

/-- A set, which may ignore the case of letters. -/
def Flavor.fold (flavor : Flavor) (set : CharSet) : CharSet :=
  if flavor.ignoreCase then set.ignoringCase else set

/-- The part that stands for a character. -/
def Flavor.char (flavor : Flavor) (c : Char) : Part := .set (flavor.fold (.single c))

/-- Read bounds behind a brace, or take the brace as it is. -/
def readBrace (flavor : Flavor) (rest : List Char) : Except Fault (Part × List Char) :=
  match readBounds flavor.extended rest with
  | .ok (least, most?, rest) => .ok (.times least most? true '\x7b', rest)
  | .error fault =>
    let literal := flavor.lenient && flavor.extended
    match fault with
    | .openBrace => if literal then .ok (flavor.char '\x7b', rest) else .error fault
    | .badBounds =>
      let inside := rest.takeWhile fun c => c.isDigit || c == ','
      let isBounds := (rest.drop inside.length).head? == some '\x7d'
      if literal && !isBounds then .ok (flavor.char '\x7b', rest) else .error fault
    | fault => .error fault

/-- Read a part behind a backslash. -/
def readEscaped (flavor : Flavor) (c : Char) (rest : List Char) :
    Except Fault (Part × List Char) :=
  let basic := !flavor.extended
  match c with
  | '(' => .ok (if basic then .opening else flavor.char c, rest)
  | ')' => .ok (if basic then .closing else flavor.char c, rest)
  | '|' => .ok (if basic then .bar else flavor.char c, rest)
  | '+' => .ok (if basic then .times 1 none false c else flavor.char c, rest)
  | '?' => .ok (if basic then .times 0 (some 1) false c else flavor.char c, rest)
  | '\x7b' => if basic then readBrace flavor rest else .ok (flavor.char c, rest)
  | _ =>
    if flavor.rich && '1' ≤ c && c ≤ '9' then .ok (.again (c.toNat - 48), rest)
    else
      match if flavor.rich then richPart? c else none with
      | some part => .ok (part, rest)
      | none => .ok (flavor.char c, rest)

/-- Whether an expression, or a branch of one, ends here. -/
def atBranchEnd (flavor : Flavor) (chars : List Char) : Bool :=
  match chars with
  | [] => true
  | '\\' :: c :: _ => !flavor.extended && (c == ')' || c == '|')
  | _ => false

/-- Read the part at the front of an expression; `atStart` says that a branch begins there. -/
def readPart (flavor : Flavor) (atStart : Bool) (chars : List Char) :
    Except Fault (Option (Part × List Char)) := do
  let extended := flavor.extended
  match chars with
  | [] => return none
  | ['\\'] => throw .trailingBackslash
  | '\\' :: c :: rest => return some (← readEscaped flavor c rest)
  | '[' :: rest =>
    let (set, rest) ← readSet rest
    return some (.set (flavor.fold set), rest)
  | c :: rest =>
    let literal := flavor.char c
    match c with
    | '.' => return some (.set .all, rest)
    | '*' => return some (if extended || !atStart then .times 0 none true c else literal, rest)
    | '^' => return some (if extended || atStart then .edge .lineStart else literal, rest)
    | '$' =>
      return some (if extended || atBranchEnd flavor rest then .edge .lineEnd else literal, rest)
    | _ =>
      if !extended then return some (literal, rest)
      match c with
      | '(' => return some (.opening, rest)
      | ')' => return some (.closing, rest)
      | '|' => return some (.bar, rest)
      | '+' => return some (.times 1 none true c, rest)
      | '?' => return some (.times 0 (some 1) true c, rest)
      | '\x7b' =>
        if flavor.bounded then return some (← readBrace flavor rest)
        else return some (literal, rest)
      | _ => return some (literal, rest)

/-- How far an expression has been read: what is left, how many groups have been opened, and those
that have been closed. -/
structure Reader where
  rest : List Char
  opened : Nat
  closed : List Nat

/-- The expression of a part that stands alone. -/
def Part.single (flavor : Flavor) : Part → Regex
  | .set members => .one members
  | .edge kind => .edge kind
  | .again number => .again number flavor.ignoreCase
  | _ => .empty

/-- Read the repetitions behind an expression. -/
def readTimes (flavor : Flavor) : (fuel : Nat) → (repeated : Bool) → Regex → List Char →
    Except Fault (Regex × List Char)
  | 0, _, regex, chars => .ok (regex, chars)
  | fuel + 1, repeated, regex, chars => do
    match ← readPart flavor false chars with
    | some (.times least most? strict _, rest) =>
      if repeated && strict && !flavor.extended && !flavor.lenient then throw .nothingToRepeat
      readTimes flavor fuel true (.rep least most? regex) rest
    | _ => return (regex, chars)

mutual

/-- Read branches with bars between them, up to the end or to a parenthesis that closes them. -/
def readBranches (flavor : Flavor) : (fuel : Nat) → (depth : Nat) → Reader →
    Except Fault (Regex × Reader)
  | 0, _, reader => .ok (.empty, reader)
  | fuel + 1, depth, reader => do
    let (first, reader) ← readBranch flavor fuel depth true .empty reader
    match ← readPart flavor false reader.rest with
    | some (.bar, rest) =>
      let (second, reader) ← readBranches flavor fuel depth { reader with rest := rest }
      return (.either first second, reader)
    | _ => return (first, reader)

/-- Read a branch, behind a front of it. -/
def readBranch (flavor : Flavor) : (fuel : Nat) → (depth : Nat) → (atStart : Bool) →
    (front : Regex) → Reader → Except Fault (Regex × Reader)
  | 0, _, _, front, reader => .ok (front, reader)
  | fuel + 1, depth, atStart, front, reader => do
    let onwards (regex : Regex) (behind : Reader) : Except Fault (Regex × Reader) := do
      let (regex, rest) ← readTimes flavor (behind.rest.length + 1) false regex behind.rest
      readBranch flavor fuel depth false (.seq front regex) { behind with rest := rest }
    match ← readPart flavor atStart reader.rest with
    | none | some (.bar, _) => return (front, reader)
    | some (.closing, rest) =>
      if 0 < depth then return (front, reader)
      else if flavor.lenient && flavor.extended then
        onwards ((flavor.char ')').single flavor) { reader with rest := rest }
      else throw .closingParenthesis
    | some (.opening, rest) =>
      let number := reader.opened + 1
      let (body, behind) ← readBranches flavor fuel (depth + 1)
        { reader with rest := rest, opened := number }
      match ← readPart flavor false behind.rest with
      | some (.closing, rest) =>
        onwards (.group number body)
          { behind with rest := rest, closed := number :: behind.closed }
      | _ => throw .openParenthesis
    | some (.times _ _ _ shown, rest) =>
      if flavor.extended then
        if flavor.lenient then
          readBranch flavor fuel depth atStart front { reader with rest := rest }
        else throw .nothingToRepeat
      else if shown = '\x7b' ∧ !flavor.lenient then throw .nothingToRepeat
      else
        let behind := if shown = '\x7b' then reader.rest.drop 2 else rest
        onwards ((flavor.char shown).single flavor) { reader with rest := behind }
    | some (.again number, rest) =>
      if reader.closed.contains number then
        onwards (.again number flavor.ignoreCase) { reader with rest := rest }
      else throw .badAgain
    | some (.edge .lineStart, rest) =>
      if flavor.extended then
        if flavor.lenient then
          readBranch flavor fuel depth true (.seq front (.edge .lineStart))
            { reader with rest := rest }
        else
          match ← readPart flavor true rest with
          | some (.times _ _ _ _, _) => throw .nothingToRepeat
          | _ =>
            readBranch flavor fuel depth false (.seq front (.edge .lineStart))
              { reader with rest := rest }
      else
        match rest with
        | '*' :: rest =>
          onwards (.seq (.edge .lineStart) ((flavor.char '*').single flavor))
            { reader with rest := rest }
        | rest =>
          readBranch flavor fuel depth false (.seq front (.edge .lineStart))
            { reader with rest := rest }
    | some (part, rest) => onwards (part.single flavor) { reader with rest := rest }

end

/-- Read a whole expression. -/
def read (flavor : Flavor) (chars : List Char) : Except Fault Regex := do
  let (regex, reader) ← readBranches flavor (2 * chars.length + 4) 0 ⟨chars, 0, []⟩
  match reader.rest with
  | [] => return regex
  | _ => throw .closingParenthesis

/-- How many groups an expression has. -/
def groupCount : Regex → Nat
  | .seq first second | .either first second => max first.groupCount second.groupCount
  | .rep _ _ body => body.groupCount
  | .group number body => max number body.groupCount
  | _ => 0

end Runbook.Regex
