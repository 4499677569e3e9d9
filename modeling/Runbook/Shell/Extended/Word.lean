import Runbook.Shell.Extended.Quotation
import Runbook.Shell.Script
import Runbook.Shell.Token

/-!
# Words of the extended language

Words are read up to a character that ends them, with quotes and values in them. A fault tells why a
script cannot be read.
-/

namespace Runbook.Shell.Extended

/-- Why a script cannot be read: where that is found out, what is told about which lines, and
whether the line is shown. -/
structure Fault where
  line : Nat
  complaints : List (Nat × String)
  showsLine : Bool
  status : Nat
deriving DecidableEq, Repr, Inhabited

namespace Fault

/-- A text in the quotes of complaints. -/
def quoted (text : String) : String := "\x60" ++ text ++ "'"

/-- Something stands where it may not stand. -/
def unexpected (line : Nat) (text : String) : Fault :=
  ⟨line, [(line, "syntax error near unexpected token " ++ quoted text)], true, 2⟩

/-- A script ends too early. -/
def early (line : Nat) : Fault :=
  ⟨line, [(line, "syntax error: unexpected end of file")], false, 2⟩

/-- Something is not closed. -/
def unclosed (line : Nat) (closing : String) : Fault :=
  ⟨line, [(line, "unexpected EOF while looking for matching " ++ quoted closing)], false, 2⟩

/-- A fault of which something else is told first. -/
def behind (complaints : List (Nat × String)) (fault : Fault) : Fault :=
  { fault with complaints := complaints ++ fault.complaints }

/-- A fault of which something else is told before its last complaint. -/
def under (complaint : Nat × String) (fault : Fault) : Fault :=
  { fault with
    complaints := fault.complaints.dropLast ++ complaint :: fault.complaints.getLast?.toList }

end Fault

/-! ## Words -/

/-- A text at the front of another one, and what stands behind it. -/
abbrev Span := Except Fault (List Char × List Char)

/-- A word at the front of a text, and what stands behind it. -/
abbrev WordStep := Except Fault (Word × List Char)

/-- Where a word stands: the number of the last line of the text, what is around the word, and
whether patterns may stand in it that begin with a mark and a parenthesis. -/
structure Place where
  last : Nat
  quoting : Quoting
  patterns : Bool

namespace Place

/-- The line on which a rest of the text begins. -/
def line (place : Place) (rest : List Char) : Nat := place.last - rest.count '\n'

/-- The same place with something else around it. -/
def within (place : Place) (quoting : Quoting) : Place := { place with quoting := quoting }

end Place

/-! ## Spans -/

/-- The text in front of a character. -/
def spanPlain (closing : Char) : List Char → Option (List Char × List Char)
  | [] => none
  | c :: rest =>
    if c = closing then some ([], rest)
    else (spanPlain closing rest).map fun (inside, behind) => (c :: inside, behind)

/-- The text in front of a character that no backslash protects. -/
def spanEscaped (closing : Char) : List Char → Option (List Char × List Char)
  | [] => none
  | '\\' :: c :: rest =>
    (spanEscaped closing rest).map fun (inside, behind) => ('\\' :: c :: inside, behind)
  | c :: rest =>
    if c = closing then some ([], rest)
    else (spanEscaped closing rest).map fun (inside, behind) => (c :: inside, behind)

mutual

/-- The text in front of a closing character, with quotes and values in it. An opening character
has to be closed before it. -/
def spanUntil (opening closing : Char) : (fuel depth : Nat) → List Char →
    Option (List Char × List Char)
  | 0, _, _ | _ + 1, _, [] => none
  | fuel + 1, depth, c :: rest =>
    let goOn (depth : Nat) (front rest : List Char) : Option (List Char × List Char) :=
      (spanUntil opening closing fuel depth rest).map fun (inside, behind) =>
        (front ++ inside, behind)
    if c = closing ∧ depth = 0 then some ([], rest)
    else if c = closing then goOn (depth - 1) [c] rest
    else if c = opening then goOn (depth + 1) [c] rest
    else do
      let (front, behind) ← spanPart fuel c rest
      goOn depth front behind

/-- The text of a character, or of the quotes or the value that it begins. -/
def spanPart : (fuel : Nat) → (first : Char) → List Char → Option (List Char × List Char)
  | 0, _, _ => none
  | fuel + 1, first, rest =>
    let closed (front : List Char) (closing : Char) : Option (List Char × List Char) →
        Option (List Char × List Char)
      | some (inside, behind) => some (front ++ inside ++ [closing], behind)
      | none => none
    match first, rest with
    | '\\', c :: rest => some (['\\', c], rest)
    | '\'', rest => closed ['\''] '\'' (spanPlain '\'' rest)
    | '"', rest => closed ['"'] '"' (spanDouble fuel rest)
    | '\x60', rest => closed ['\x60'] '\x60' (spanEscaped '\x60' rest)
    | '$', '\'' :: rest => closed ['$', '\''] '\'' (spanEscaped '\'' rest)
    | '$', '\x7b' :: rest => closed ['$', '\x7b'] '\x7d' (spanUntil '\x7b' '\x7d' fuel 0 rest)
    | '$', '(' :: rest =>
      closed ['$', '('] ')' (Token.spanScript (2 * rest.length + 2) [] true rest)
    | c, rest => some ([c], rest)

/-- The text in front of the quotation mark that closes it. -/
def spanDouble : (fuel : Nat) → List Char → Option (List Char × List Char)
  | 0, _ | _ + 1, [] => none
  | _ + 1, '"' :: rest => some ([], rest)
  | fuel + 1, '\'' :: rest =>
    (spanDouble fuel rest).map fun (inside, behind) => ('\'' :: inside, behind)
  | fuel + 1, '$' :: '\'' :: rest =>
    (spanDouble fuel rest).map fun (inside, behind) => ('$' :: '\'' :: inside, behind)
  | fuel + 1, c :: rest => do
    let (front, rest) ← spanPart fuel c rest
    let (inside, behind) ← spanDouble fuel rest
    return (front ++ inside, behind)

end

/-- The text in front of a closing character, or a fault on the line where the text begins. -/
def closedBy (place : Place) (opening closing : Char) (chars : List Char) : Span :=
  match spanUntil opening closing (2 * chars.length + 2) 0 chars with
  | some spanned => .ok spanned
  | none => .error (.unclosed (place.line chars) (String.ofList [closing]))

/-- The expression in front of two parentheses that close it, if it is one. -/
def spanArithmetic? (chars : List Char) : Option (List Char × List Char) :=
  match spanUntil '(' ')' (2 * chars.length + 2) 0 chars with
  | some (inside, ')' :: behind) => some (inside, behind)
  | _ => none

/-- The text in front of the colon that ends the first of two expressions, and behind it. -/
def spanColon : (depth choices : Nat) → List Char → List Char × Option (List Char)
  | _, _, [] => ([], none)
  | depth, choices, c :: rest =>
    if c = ':' ∧ depth = 0 ∧ choices = 0 then ([], some rest)
    else
      let depth := if c = '(' then depth + 1 else if c = ')' then depth - 1 else depth
      let choices := if c = '?' then choices + 1 else if c = ':' then choices - 1 else choices
      let (front, behind) := spanColon depth choices rest
      (c :: front, behind)

/-! ## Pieces -/

/-- Whether a character ends a word. -/
def endsWord (c : Char) : Bool := " \t\n;&|()<>".toList.contains c

/-- Whether a character begins a pattern, if a parenthesis stands behind it. -/
def beginsPattern (c : Char) : Bool := "?*+@!".toList.contains c

/-- Whether the value of a variable stands behind a dollar sign. -/
def beginsName (c : Char) : Bool := Token.isNameStart c || c.isDigit || Token.isSpecial c

/-- Read the name of a variable between braces: more than one digit may stand there. -/
def readLongName (chars : List Char) : Option (String × List Char) :=
  let digits := chars.takeWhile Char.isDigit
  if digits.isEmpty then Token.readName chars
  else some (String.ofList digits, chars.drop digits.length)

/-- The change that marks at the front of a text stand for, if it is one that takes no words, or
one word, and the text behind the marks. -/
def readChange? (chars : List Char) : Option (Change × List Char) :=
  match chars with
  | [] => some (.keep, [])
  | ':' :: '-' :: rest => some (.modify true .default, rest)
  | ':' :: '=' :: rest => some (.modify true .assign, rest)
  | ':' :: '+' :: rest => some (.modify true .alternative, rest)
  | ':' :: '?' :: rest => some (.modify true .required, rest)
  | '-' :: rest => some (.modify false .default, rest)
  | '=' :: rest => some (.modify false .assign, rest)
  | '+' :: rest => some (.modify false .alternative, rest)
  | '?' :: rest => some (.modify false .required, rest)
  | '%' :: '%' :: rest => some (.modify false (.cutEnd true), rest)
  | '%' :: rest => some (.modify false (.cutEnd false), rest)
  | '#' :: '#' :: rest => some (.modify false (.cutFront true), rest)
  | '#' :: rest => some (.modify false (.cutFront false), rest)
  | '^' :: '^' :: rest => some (.recase .upper true, rest)
  | '^' :: rest => some (.recase .upper false, rest)
  | ',' :: ',' :: rest => some (.recase .lower true, rest)
  | ',' :: rest => some (.recase .lower false, rest)
  | '~' :: '~' :: rest => some (.recase .other true, rest)
  | '~' :: rest => some (.recase .other false, rest)
  | ['@', letter] =>
    some (if "QEPAKaUuLk".toList.contains letter then .describe letter else .unknown, [])
  | '@' :: _ => some (.unknown, [])
  | _ => none

/-- The range in which a pattern is replaced, and the text with the pattern. -/
def readReplaceRange (chars : List Char) : ReplaceRange × List Char :=
  match chars with
  | '/' :: rest => (.every, rest)
  | '#' :: rest => (.front, rest)
  | '%' :: rest => (.ending, rest)
  | rest => (.first, rest)

/-- Read the script behind a dollar sign and a parenthesis. -/
def readScript (place : Place) (chars : List Char) : Span :=
  match Token.spanScript (2 * chars.length + 2) [] true chars with
  | some spanned => .ok spanned
  | none => .error (.unclosed (place.last + 1) ")")

/-- Marks that quotes make a field, even an empty one, unless all elements of something stand
between them. -/
def quoteMark (pieces : Word) : Word :=
  let spreads := pieces.any fun piece => match piece with
    | .variable _ "@" => true
    | .parameter _ _ ⟨_, _, .all false⟩ _ _ _ _ => true
    | .parameter _ _ ⟨"@", _, _⟩ _ _ _ _ => true
    | _ => false
  if spreads then [] else [.text true []]

/-- A script of which the quotation marks have lost the backslashes in front of them. -/
def bareMarks : List Char → List Char
  | '\\' :: '"' :: rest => '"' :: bareMarks rest
  | c :: rest => c :: bareMarks rest
  | [] => []

mutual

/-- Read pieces up to a character that ends them, or to the end of the text. -/
def readPieces (place : Place) (ends : Char → Bool) : (fuel : Nat) → List Char → WordStep
  | 0, chars => .ok ([], chars)
  | _ + 1, [] => .ok ([], [])
  | fuel + 1, c :: rest =>
    if ends c ∧ !(place.quoting == .bare && (c == '<' || c == '>') && rest.head? == some '(') then
      .ok ([], c :: rest)
    else do
      let (pieces, rest) ← readPiece place fuel (c :: rest)
      let (later, rest) ← readPieces place ends fuel rest
      return (pieces ++ later, rest)

/-- Read all of a text as pieces. -/
def readAll (place : Place) : (fuel : Nat) → List Char → Except Fault Word
  | 0, _ => .ok []
  | fuel + 1, chars => do return (← readPieces place (fun _ => false) fuel chars).1

/-- Read one piece at the front of a text. -/
def readPiece (place : Place) : (fuel : Nat) → List Char → WordStep
  | 0, chars => .ok ([], chars)
  | _ + 1, [] => .ok ([], [])
  | fuel + 1, c :: rest =>
    let quoted := place.quoting.isQuoted
    let bare := place.quoting == .bare
    match c, rest with
    | '\\', [] => .ok ([.text quoted ['\\']], [])
    | '\\', '\n' :: rest => .ok ([], rest)
    | '\\', escaped :: rest =>
      if place.quoting.protects escaped then .ok ([.text true [escaped]], rest)
      else .ok ([.text true ['\\', escaped]], rest)
    | '$', rest => readValue place fuel rest
    | '\x60', rest =>
      match Token.spanBackquoted rest with
      | .ok (script, behind) =>
        let script := if place.quoting = .double then bareMarks script else script
        .ok ([.output quoted (place.line rest) script], behind)
      | .error _ => .error (.unclosed (place.line rest) "\x60")
    | '\'', rest =>
      if bare then
        match spanPlain '\'' rest with
        | some (inside, behind) => .ok ([.text true inside], behind)
        | none => .error (.unclosed (place.line rest) "'")
      else .ok ([.text quoted [c]], rest)
    | '"', rest =>
      if bare then readDouble place fuel rest
      else if place.quoting = .inner then .ok ([], rest)
      else .ok ([.text quoted [c]], rest)
    | '<', '(' :: rest | '>', '(' :: rest =>
      if bare then do
        let (script, behind) ← readScript place rest
        return ([.process (c == '<') (place.line rest) script], behind)
      else .ok ([.text quoted [c]], '(' :: rest)
    | c, '(' :: behind =>
      if bare && place.patterns && beginsPattern c then do
        let (inside, rest) ← closedBy place '(' ')' behind
        let pieces ← readAll { place with last := place.line rest } fuel inside
        return ([.text false [c], .text false ['(']] ++ pieces ++ [.text false [')']], rest)
      else .ok ([.text quoted [c]], rest)
    | c, rest => .ok ([.text quoted [c]], rest)

/-- Read what stands between quotation marks, behind the first one. -/
def readDouble (place : Place) : (fuel : Nat) → List Char → WordStep
  | 0, chars => .ok ([], chars)
  | fuel + 1, chars =>
    match spanDouble (2 * chars.length + 2) chars with
    | none => .error (.unclosed (place.line chars) "\"")
    | some (_, behind) => do
      let (pieces, rest) ← readPieces (place.within .double) (· == '"') fuel chars
      match rest with
      | _ :: rest => return (quoteMark pieces ++ pieces, rest)
      | [] => return (quoteMark pieces ++ pieces, behind)

/-- Read a value behind its dollar sign. -/
def readValue (place : Place) : (fuel : Nat) → List Char → WordStep
  | 0, chars => .ok ([], chars)
  | fuel + 1, chars =>
    let quoted := place.quoting.isQuoted
    let asScript (rest : List Char) : WordStep := do
      let (script, behind) ← readScript place rest
      return ([.output quoted (place.line rest) script], behind)
    let asExpression (inside behind : List Char) : WordStep := do
      let inner : Place := ⟨place.line behind, .inner, false⟩
      return ([.arithmetic (← readAll inner fuel inside)], behind)
    match chars with
    | '(' :: '(' :: rest =>
      match spanArithmetic? rest with
      | some (inside, behind) => asExpression inside behind
      | none => do
        let (script, behind) ← closedBy place '(' ')' ('(' :: rest)
        return ([.output quoted (place.line rest) script], behind)
    | '(' :: rest => asScript rest
    | '[' :: rest => do
      let (inside, behind) ← closedBy place '[' ']' rest
      asExpression inside behind
    | '\x7b' :: rest => do
      let (inside, behind) ← closedBy place '\x7b' '\x7d' rest
      let piece ← readBraced { place with last := place.line behind } fuel inside
      return ([piece], behind)
    | '\'' :: rest =>
      if place.quoting = .bare then
        match spanEscaped '\'' rest with
        | some (inside, behind) =>
          .ok ([.text true (unquoteEscapes (inside.length + 1) inside)], behind)
        | none => .error (.unclosed (place.line rest) "'")
      else .ok ([.text quoted ['$']], chars)
    | '"' :: rest =>
      if place.quoting = .bare then readDouble place fuel rest
      else .ok ([.text quoted ['$']], chars)
    | _ =>
      match Token.readName chars with
      | some (name, rest) => .ok ([.variable quoted name], rest)
      | none => .ok ([.text quoted ['$']], chars)

/-- Read what stands between braces behind a dollar sign. What is no value there is a fault when
the script runs. -/
def readBraced (place : Place) : (fuel : Nat) → List Char → Except Fault Piece
  | 0, _ => .ok .bad
  | fuel + 1, chars => do
    let quoted := place.quoting.isQuoted
    let source := "$\x7b" ++ String.ofList chars ++ "\x7d"
    let wrong : Piece := .wrong source
    let read (indirect : Bool) (chars : List Char) :
        Except Fault (Option (Subject × Word × List Char)) := do
      match readLongName chars with
      | none => return none
      | some (name, '[' :: rest) =>
        match spanUntil '[' ']' (2 * rest.length + 2) 0 rest with
        | none => return none
        | some (['@'], rest) => return some (⟨name, indirect, .all false⟩, [], rest)
        | some (['*'], rest) => return some (⟨name, indirect, .all true⟩, [], rest)
        | some (index, rest) =>
          let index ← readAll (place.within .bare) fuel index
          return some (⟨name, indirect, .element⟩, index, rest)
      | some (name, rest) =>
        let extent : Extent := if name = "@" then .all false else if name = "*" then .all true
          else .whole
        return some (⟨name, indirect, extent⟩, [], rest)
    let make (subject : Subject) (index : Word) (change : Change) (first second : Word) : Piece :=
      .parameter quoted source subject index change first second
    let finish (found? : Option (Subject × Word × List Char)) : Except Fault Piece := do
      match found? with
      | none => return wrong
      | some (subject, index, []) =>
        if subject.extent = .whole ∧ !subject.indirect then
          return .variable quoted subject.name
        else return make subject index .keep [] []
      | some (subject, index, rest) =>
        match readChange? rest, rest with
        | some (change, instead), _ =>
          let takesText := match change with
            | .modify _ modifier => !modifier.cuts
            | _ => false
          let inside := if quoted && takesText then Quoting.inner else .bare
          let word ← readAll { (place.within inside) with patterns := true } fuel instead
          return make subject index change word []
        | none, '/' :: rest =>
          let (range, rest) := readReplaceRange rest
          let pattern : Place := { (place.within .bare) with patterns := true }
          let (front, rest) ← readPieces pattern (· == '/') fuel rest
          let inside := if quoted then Quoting.inner else .bare
          let word ← readAll (place.within inside) fuel rest.tail
          return make subject index (.replace range) front word
        | none, ':' :: rest =>
          if rest.isEmpty then return wrong
          let (offset, length?) := spanColon 0 0 rest
          let first ← readAll (place.within .inner) fuel offset
          let second ← readAll (place.within .inner) fuel (length?.getD [])
          return make subject index (.slice length?.isSome) first second
        | none, _ => return wrong
    match chars with
    | '#' :: c :: rest =>
      match ← read false (c :: rest) with
      | some (subject, index, []) => return make subject index .size [] []
      | _ => if Token.isNameStart c then return wrong else finish (← read false chars)
    | '!' :: c :: rest =>
      if !beginsName c ∨ (c ≠ '#' ∧ c ≠ '@' ∧ c ≠ '*' ∧ Token.isSpecial c) then
        finish (← read false chars)
      else
        match ← read true (c :: rest) with
        | some (⟨name, _, .all joined⟩, _, []) =>
          if name = "@" ∨ name = "*" then return make ⟨name, true, .all joined⟩ [] .keep [] []
          else return make ⟨name, false, .all joined⟩ [] (.keys joined) [] []
        | some (⟨name, _, .whole⟩, _, ['*']) =>
          return make ⟨name, false, .all true⟩ [] (.names true) [] []
        | some (⟨name, _, .whole⟩, _, ['@']) =>
          return make ⟨name, false, .all false⟩ [] (.names false) [] []
        | found => finish found
    | _ => finish (← read false chars)

end

/-- How deep pieces may be nested in a text. -/
def depthOf (chars : List Char) : Nat := 3 * chars.length + 8

/-- Read a word up to a character that ends it. -/
def readWord (place : Place) (chars : List Char) : WordStep :=
  readPieces place endsWord (depthOf chars) chars

/-- Read all of a text as a word. -/
def wholeWord (place : Place) (chars : List Char) : Except Fault Word :=
  readAll place (depthOf chars) chars

end Runbook.Shell.Extended
