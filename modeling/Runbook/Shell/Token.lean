import Runbook.Shell.Script

/-!
# Tokens of scripts

A script is divided into words, operators and redirections.
-/

namespace Runbook.Shell

/-- A token of a script, with the line on which it ends. -/
inductive Token where
  /-- A word, and the names that were replaced by texts with that word. -/
  | word (line : Nat) (pieces : Word) (replaced : List String)
  | operator (line : Nat) (text : String)
  | redirect (line stream : Nat) (mode : RedirectMode)
  /-- A text between lines that a redirection before it reads from. -/
  | document (body : Word)
  /-- The rest of the script cannot be divided. -/
  | fault (line : Nat) (cause : ScriptError)
  | ending (line : Nat)
deriving Inhabited

/-- What stands around a piece of a word. -/
inductive Quoting where
  | bare
  | double
  /-- Double quotes around braces around the piece. -/
  | inner
  /-- A text between lines, or an expression. -/
  | document
deriving DecidableEq, Repr, Inhabited

/-- Whether a piece is quoted. -/
def Quoting.isQuoted (quoting : Quoting) : Bool := quoting != .bare

/-- The characters that a backslash protects. -/
def Quoting.protects (quoting : Quoting) (c : Char) : Bool :=
  match quoting with
  | .bare => true
  | .double | .inner => "$\x60\"\\".toList.contains c
  | .document => "$\x60\\".toList.contains c

namespace Token

/-- Whether a character may begin a name. -/
def isNameStart (c : Char) : Bool := c.isAlpha || c == '_'

/-- Whether a character may stand in a name. -/
def isNameChar (c : Char) : Bool := c.isAlphanum || c == '_'

/-- Whether a character is a variable of its own. -/
def isSpecial (c : Char) : Bool := "#?$!@*-".toList.contains c

/-- Whether a character ends a word. -/
def endsWord (c : Char) : Bool := " \t\n;&|()<>".toList.contains c

/-- The text in front of a closing character; an opening one has to be closed before it, and
characters between quotation marks out of a list do not count. Without an end there is none. -/
def spanClosed (marks : List Char) (opening closing : Char) :
    (depth : Nat) → (quote : Option Char) → List Char → Option (List Char × List Char)
  | _, _, [] => none
  | depth, quote, '\\' :: c :: rest => do
    let quote := if quote = some '\'' ∧ c = '\'' then none else quote
    let (inside, behind) ← spanClosed marks opening closing depth quote rest
    return ('\\' :: c :: inside, behind)
  | depth, some mark, c :: rest => do
    let (inside, behind) ←
      spanClosed marks opening closing depth (if c = mark then none else some mark) rest
    return (c :: inside, behind)
  | depth, none, c :: rest =>
    if c = closing ∧ depth = 0 then some ([], rest)
    else do
      let depth := if c = closing then depth - 1 else if c = opening then depth + 1 else depth
      let quote := if marks.contains c then some c else none
      let (inside, behind) ← spanClosed marks opening closing depth quote rest
      return (c :: inside, behind)

/-- The expression in front of two parentheses that close it. One that stands alone belongs to the
expression. -/
def spanExpression : (depth : Nat) → List Char → Except ScriptError (List Char × List Char)
  | _, [] => .error .missingParentheses
  | 0, ')' :: ')' :: behind => .ok ([], behind)
  | depth, c :: rest => do
    let depth := if c = '(' then depth + 1 else if c = ')' then depth - 1 else depth
    let (inside, behind) ← spanExpression depth rest
    return (c :: inside, behind)

/-- What is open around a place in a script. -/
inductive Opening where
  | parenthesis
  /-- Cases, of which each has a parenthesis of its own that was not opened. -/
  | cases
deriving DecidableEq, Repr, Inhabited

/-- The words behind which a command begins. -/
def leadingWords : List String :=
  ["if", "then", "else", "elif", "do", "while", "until", "\x7b", "!"]

/-- What is open behind a word where a command may begin, and whether one may begin behind it. -/
def afterWord (opened : List Opening) (word : String) : List Opening × Bool :=
  if word = "case" then (.cases :: opened, false)
  else if word = "esac" ∧ opened.head? = some .cases then (opened.tail, false)
  else (opened, leadingWords.contains word)

mutual

/-- The script in front of the parenthesis that closes it. -/
def spanScript : (fuel : Nat) → (opened : List Opening) → (mayBegin : Bool) → List Char →
    Option (List Char × List Char)
  | 0, _, _, _ => none
  | _ + 1, _, _, [] => none
  | fuel + 1, opened, mayBegin, c :: rest =>
    let goOn (opened : List Opening) (mayBegin : Bool) (front rest : List Char) :
        Option (List Char × List Char) :=
      (spanScript fuel opened mayBegin rest).map fun (inside, behind) => (front ++ inside, behind)
    match c with
    | '\\' => goOn opened false (c :: rest.take 1) (rest.drop 1)
    | '\'' =>
      let (inside, behind) := rest.span (· != '\'')
      goOn opened false (c :: inside ++ behind.take 1) (behind.drop 1)
    | '"' => do
      let (inside, behind) ← spanQuoted fuel rest
      goOn opened false (c :: inside) behind
    | '#' =>
      if mayBegin then
        let (inside, behind) := rest.span (· != '\n')
        goOn opened true (c :: inside) behind
      else goOn opened false [c] rest
    | '(' => goOn (.parenthesis :: opened) true [c] rest
    | ')' =>
      match opened with
      | [] => some ([], rest)
      | .parenthesis :: opened => goOn opened true [c] rest
      | .cases :: _ => goOn opened true [c] rest
    | ';' | '&' | '|' | '\n' => goOn opened true [c] rest
    | ' ' | '\t' => goOn opened mayBegin [c] rest
    | _ =>
      let isPlain (c : Char) : Bool := isNameChar c || c == '\x7b' || c == '!'
      if mayBegin && isPlain c then
        let word := (c :: rest).takeWhile isPlain
        let (opened, mayBegin) := afterWord opened (String.ofList word)
        goOn opened mayBegin word ((c :: rest).drop word.length)
      else goOn opened false [c] rest

/-- The text up to the quotation mark that closes it, with scripts in it that have quotation marks
of their own. -/
def spanQuoted : (fuel : Nat) → List Char → Option (List Char × List Char)
  | 0, _ => none
  | _ + 1, [] => none
  | fuel + 1, c :: rest =>
    let goOn (front rest : List Char) : Option (List Char × List Char) :=
      (spanQuoted fuel rest).map fun (inside, behind) => (front ++ inside, behind)
    match c, rest with
    | '"', _ => some ([c], rest)
    | '\\', _ => goOn (c :: rest.take 1) (rest.drop 1)
    | '$', '(' :: rest => do
      let (inside, behind) ← spanScript fuel [] true rest
      goOn ('$' :: '(' :: inside ++ [')']) behind
    | _, _ => goOn [c] rest

end

/-- The script in front of the parenthesis that closes it. -/
def spanParenthesis (chars : List Char) : Except ScriptError (List Char × List Char) :=
  match spanScript (2 * chars.length + 2) [] true chars with
  | some spanned => .ok spanned
  | none => .error (.unexpected "end of file" (some "\")\""))

/-- The text in front of a brace that closes one that was opened. -/
def spanBrace (quoting : Quoting) (chars : List Char) :
    Except ScriptError (List Char × List Char) :=
  let marks := if quoting.isQuoted then ['"'] else ['\'', '"']
  match spanClosed marks '\x7b' '\x7d' 0 none chars with
  | some spanned => .ok spanned
  | none => .error .missingBrace

/-- The script between backquotes, in which a backslash protects some characters. -/
def spanBackquoted : List Char → Except ScriptError (List Char × List Char)
  | [] => .error .endOfBackquote
  | '\x60' :: rest => .ok ([], rest)
  | '\\' :: c :: rest => do
    let (inside, behind) ← spanBackquoted rest
    return (if c = '\x60' ∨ c = '\\' ∨ c = '$' then c :: inside else '\\' :: c :: inside, behind)
  | c :: rest => do
    let (inside, behind) ← spanBackquoted rest
    return (c :: inside, behind)

/-- Read the name of a variable. -/
def readName (chars : List Char) : Option (String × List Char) :=
  match chars with
  | [] => none
  | c :: rest =>
    if isNameStart c then
      some (String.ofList (chars.takeWhile isNameChar), chars.dropWhile isNameChar)
    else if c.isDigit || isSpecial c then some (String.ofList [c], rest)
    else none

/-- Read the mark that says what to do with a value. -/
def readModifier (chars : List Char) : Option (Bool × Modifier × List Char) :=
  let (orEmpty, rest) := match chars with
    | ':' :: rest => (true, rest)
    | rest => (false, rest)
  match rest with
  | '-' :: instead => some (orEmpty, .default, instead)
  | '=' :: instead => some (orEmpty, .assign, instead)
  | '+' :: instead => some (orEmpty, .alternative, instead)
  | '?' :: instead => some (orEmpty, .required, instead)
  | '%' :: '%' :: instead => some (false, .cutEnd true, instead)
  | '%' :: instead => some (false, .cutEnd false, instead)
  | '#' :: '#' :: instead => some (false, .cutFront true, instead)
  | '#' :: instead => some (false, .cutFront false, instead)
  | _ => none

/-- A mark that quotes make a field, even an empty one, unless all arguments stand between them. -/
def quoteMark (pieces : Word) : Word :=
  let spreads := pieces.any fun piece => match piece with
    | .variable _ "@" => true
    | _ => false
  if spreads then [] else [.text true []]

mutual

/-- Read pieces up to a character that ends them, or to the end of the text. The text ends on the
last line. -/
def readPieces (last : Nat) (quoting : Quoting) (ends : Char → Bool) :
    (fuel : Nat) → List Char → Except ScriptError (Word × List Char)
  | 0, _ => .error .badSubstitution
  | _ + 1, [] => .ok ([], [])
  | fuel + 1, c :: rest =>
    if ends c then .ok ([], c :: rest)
    else do
      let (pieces, rest) ← readPiece last quoting fuel (c :: rest)
      let (later, rest) ← readPieces last quoting ends fuel rest
      return (pieces ++ later, rest)

/-- Read one piece at the front of a text. -/
def readPiece (last : Nat) (quoting : Quoting) :
    (fuel : Nat) → List Char → Except ScriptError (Word × List Char)
  | 0, _ => .error .badSubstitution
  | _ + 1, [] => .ok ([], [])
  | _ + 1, ['\\'] => .ok ([.text quoting.isQuoted ['\\']], [])
  | fuel + 1, c :: rest =>
    if c = '\\' then
      match rest with
      | '\n' :: rest => .ok ([], rest)
      | escaped :: rest =>
        if quoting.protects escaped then .ok ([.text true [escaped]], rest)
        else .ok ([.text true ['\\', escaped]], rest)
      | [] => .ok ([], [])
    else if c = '$' then readValue last quoting fuel rest
    else if c = '\x60' then do
      let (script, rest) ← spanBackquoted rest
      return ([.output quoting.isQuoted 1 script], rest)
    else if c = '\'' ∧ quoting = .bare then
      match rest.span (· != '\'') with
      | (inside, _ :: rest) => .ok ([.text true inside], rest)
      | _ => .error .unterminatedQuote
    else if c = '"' ∧ quoting = .bare then do
      let (pieces, rest) ← readPieces last .double (· == '"') fuel rest
      match rest with
      | _ :: rest => return (quoteMark pieces ++ pieces, rest)
      | [] => throw .unterminatedQuote
    else if c = '"' ∧ quoting = .inner then .ok ([], rest)
    else .ok ([.text quoting.isQuoted [c]], rest)

/-- Read a value behind its dollar sign. -/
def readValue (last : Nat) (quoting : Quoting) :
    (fuel : Nat) → List Char → Except ScriptError (Word × List Char)
  | 0, _ => .error .badSubstitution
  | fuel + 1, chars =>
    match chars with
    | '(' :: '(' :: rest => do
      let (inside, rest) ← spanExpression 0 rest
      let last := last - rest.count '\n'
      let (expression, _) ← readPieces last .document (fun _ => false) fuel inside
      return ([.arithmetic expression], rest)
    | '(' :: rest => do
      let line := last - rest.count '\n'
      let (script, rest) ← spanParenthesis rest
      return ([.output quoting.isQuoted line script], rest)
    | '\x7b' :: rest => do
      let (inside, rest) ← spanBrace quoting rest
      let piece ← readBraced (last - rest.count '\n') quoting fuel inside
      return ([piece], rest)
    | _ =>
      match readName chars with
      | some (name, rest) => .ok ([.variable quoting.isQuoted name], rest)
      | none => .ok ([.text quoting.isQuoted ['$']], chars)

/-- Read what stands between braces behind a dollar sign. What is no value there is a fault when
the script runs. -/
def readBraced (last : Nat) (quoting : Quoting) :
    (fuel : Nat) → List Char → Except ScriptError Piece
  | 0, _ => .error .badSubstitution
  | fuel + 1, chars =>
    match chars with
    | '#' :: c :: rest =>
      match readName (c :: rest) with
      | some (name, []) => .ok (.length name)
      | _ => .ok .bad
    | _ =>
      let digits := chars.takeWhile Char.isDigit
      let named := if digits.isEmpty then readName chars
        else some (String.ofList digits, chars.drop digits.length)
      match named with
      | none => .ok .bad
      | some (name, []) => .ok (.variable quoting.isQuoted name)
      | some (name, rest) =>
        match readModifier rest with
        | none => .ok .bad
        | some (orEmpty, modifier, instead) => do
          let inside := if quoting.isQuoted && !modifier.cuts then Quoting.inner else .bare
          let (pieces, _) ← readPieces last inside (fun _ => false) fuel instead
          return .modified quoting.isQuoted name orEmpty modifier pieces

end

/-- The operators, with the longer ones first. -/
def operators : List String := ["&&", "||", ";;", "\n", ";", "&", "|", "(", ")"]

/-- The marks of redirections, with the longer ones first. -/
def redirects : List (String × Nat × RedirectMode) :=
  [("<<", 0, .document), (">>", 1, .append), (">&", 1, .duplicate), (">|", 1, .force),
    ("<&", 0, .duplicate), ("<>", 0, .read), (">", 1, .write), ("<", 0, .read)]

/-- The text behind some characters, if they stand at its front. -/
def after? (front : String) (chars : List Char) : Option (List Char) :=
  if front.toList.isPrefixOf chars then some (chars.drop front.length) else none

/-- Read the mark of a redirection, which may begin with the number of a stream. -/
def readRedirect? (chars : List Char) : Option (Nat × RedirectMode × List Char) :=
  let marked (stream : Option Nat) (chars : List Char) :
      Option (Nat × RedirectMode × List Char) :=
    redirects.findSome? fun (mark, usual, mode) =>
      (after? mark chars).map fun rest => (stream.getD usual, mode, rest)
  match chars with
  | c :: rest =>
    if c.isDigit then marked (some (c.toNat - 48)) rest else marked none chars
  | [] => none

/-- The line that ends a text between lines. -/
structure Delimiter where
  text : List Char
  /-- Values are not put into the text. -/
  literal : Bool
  /-- Tabs at the front of lines do not belong to the text. -/
  indented : Bool

/-- The delimiter that a word writes. -/
def Delimiter.ofWord (indented : Bool) (word : Word) : Delimiter where
  text := word.flatMap fun piece => match piece with
    | .text _ chars => chars
    | .variable _ name => '$' :: name.toList
    | _ => []
  literal := word.any fun piece => match piece with
    | .text quoted _ => quoted
    | _ => false
  indented := indented

/-- The lines of a text in front of the one that ends it, and what stands behind that. -/
def spanDocument (delimiter : Delimiter) : (fuel : Nat) → List Char → List Char × List Char
  | 0, chars => ([], chars)
  | _ + 1, [] => ([], [])
  | fuel + 1, chars =>
    let (line, rest) := chars.span (· != '\n')
    let line := if delimiter.indented then line.dropWhile (· == '\t') else line
    if line = delimiter.text then ([], rest.tail)
    else
      let (body, behind) := spanDocument delimiter fuel rest.tail
      (line ++ rest.take 1 ++ body, behind)

/-- How many lines end between a text and a rest of it. -/
def linesBetween (chars rest : List Char) : Nat :=
  (chars.take (chars.length - rest.length)).count '\n'

/-- Read texts between lines from a line on, up to the delimiters of all of them. -/
def readDocuments : (line : Nat) → List Delimiter → List Char →
    Except ScriptError (List Word) × List Char
  | _, [], chars => (.ok [], chars)
  | line, delimiter :: delimiters, chars =>
    let (body, rest) := spanDocument delimiter (chars.length + 1) chars
    let (later, behind) := readDocuments (line + linesBetween chars rest) delimiters rest
    let last := line + body.count '\n'
    let word : Except ScriptError Word :=
      if delimiter.literal then .ok [.text true body]
      else (readPieces last .document (fun _ => false) (2 * body.length + 4) body).map (·.1)
    (do return (← word) :: (← later), behind)

/-- Divide a script into tokens, from a line on. Some texts between lines are still to come. -/
def divide : (fuel line : Nat) → (pending : List Delimiter) → List Char → List Token
  | 0, line, _, _ => [.ending line]
  | _ + 1, line, pending, [] => pending.map (fun _ => .document []) ++ [.ending line]
  | fuel + 1, line, pending, c :: rest =>
    if c = ' ' ∨ c = '\t' then divide fuel line pending rest
    else if c = '#' then divide fuel line pending (rest.dropWhile (· != '\n'))
    else if c = '\\' ∧ rest.head? = some '\n' then divide fuel (line + 1) pending rest.tail
    else if c = '\n' then
      let (bodies, behind) := readDocuments (line + 1) pending rest
      match bodies with
      | .ok bodies =>
        .operator line "\n" :: bodies.map .document
          ++ divide fuel (line + 1 + linesBetween rest behind) [] behind
      | .error cause => [.operator line "\n", .fault line cause]
    else
      match readRedirect? (c :: rest) with
      | some (stream, .document, rest) =>
        let indented := rest.head? = some '-'
        let rest := (if indented then rest.tail else rest).dropWhile
          fun c => c == ' ' || c == '\t'
        if rest.head?.all endsWord then
          .redirect line stream .read :: divide fuel line pending rest
        else
          match readPieces line .bare endsWord (2 * rest.length + 4) rest with
          | .ok (pieces, rest) =>
            .redirect line stream .document
              :: divide fuel line (pending ++ [.ofWord indented pieces]) rest
          | .error cause => [.fault line cause]
      | some (stream, mode, rest) => .redirect line stream mode :: divide fuel line pending rest
      | none =>
        match operators.findSome? fun text => (after? text (c :: rest)).map (text, ·) with
        | some (text, rest) => .operator line text :: divide fuel line pending rest
        | none =>
          let last := line + (c :: rest).count '\n'
          match readPieces last .bare endsWord (2 * rest.length + 4) (c :: rest) with
          | .ok (pieces, behind) =>
            let line := line + linesBetween (c :: rest) behind
            .word line pieces [] :: divide fuel line pending behind
          | .error cause => [.fault line cause]

/-- Put texts between lines behind the redirections that read from them. -/
def placeDocuments : (bodies : List Word) → List Token → List Token
  | bodies, .redirect line stream .document :: rest =>
    .redirect line stream .document :: .word line (bodies.headD []) []
      :: placeDocuments bodies.tail rest
  | bodies, .document _ :: rest => placeDocuments bodies rest
  | bodies, token :: rest => token :: placeDocuments bodies rest
  | _, [] => []

/-- The body of a text between lines. -/
def body? : Token → Option Word
  | .document body => some body
  | _ => none

/-- The tokens of a script from a line on. The last one is its end, or a fault. -/
def ofChars (line : Nat) (chars : List Char) : List Token :=
  let tokens := divide (chars.length + 1) line [] chars
  placeDocuments (tokens.filterMap body?) tokens

/-! ## Names for other texts -/

/-- The text of a word without quotes and values. -/
def plain? : Token → Option String
  | .word _ pieces _ => (Word.plain? pieces).map String.ofList
  | _ => none

/-- A token of a text that replaces names. -/
def replacing (names : List String) : Token → Token
  | .word line pieces replaced => .word line pieces (names ++ replaced)
  | token => token

/-- Whether a token is the end of a script. -/
def isEnding : Token → Bool
  | .ending _ => true
  | _ => false

/-- Put the text that a name stands for in the place of the word at the front, if it is such a name
and does not come from its own text. If the text ends with a blank, the next word is looked at,
too. -/
def replaceFront (aliases : List (String × String)) : (fuel : Nat) → List Token →
    Option (List Token)
  | 0, _ => none
  | _ + 1, [] => none
  | fuel + 1, token :: rest =>
    match token with
    | .word line _ replaced =>
      match (plain? token).bind fun name => (aliases.lookup name).map (name, ·) with
      | none => none
      | some (name, text) =>
        if replaced.contains name then none
        else
          let tokens := (ofChars line text.toList).filter (!isEnding ·)
          let goesOn := text.endsWith " " || text.endsWith "\t"
          let rest := if goesOn then (replaceFront aliases fuel rest).getD rest else rest
          some (tokens.map (replacing (name :: replaced)) ++ rest)
    | _ => none

end Token

end Runbook.Shell
