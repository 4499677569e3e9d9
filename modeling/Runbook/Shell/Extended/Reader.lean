import Runbook.Shell.Extended.Word
import Runbook.Shell.Reader

/-!
# Reading scripts of the extended language

Commands are read from the characters of a script, because what a character means depends on the
command around it.
-/

namespace Runbook.Shell.Extended

/-- A place in a script. -/
structure Cursor where
  chars : List Char
  line : Nat
  /-- How many lines are left out behind a line break: those of texts between lines. A line break is
  found by how many characters stand behind it. -/
  jumps : List (Nat × Nat)
  /-- The line on which the script is over. -/
  endLine : Nat
  /-- Whether patterns may stand anywhere that begin with a mark and a parenthesis. -/
  patterns : Bool
deriving Inhabited

/-- A token of a script. -/
inductive Lexeme where
  /-- A word, and the text that writes it. -/
  | word (pieces : Word) (source : String)
  | operator (text : String)
  | redirect (stream? : Option Nat) (mark : String)
  | ending
deriving Inhabited

/-- A step of reading. -/
abbrev Reading := StateT Cursor (Except Fault)

namespace Cursor

/-- The beginning of a script that begins on some line. -/
def ofScript (line : Nat) (patterns : Bool) (chars : List Char) : Cursor where
  chars := chars
  line := line
  jumps := []
  endLine := line + 1 + (if chars.getLast? = some '\n' then chars.dropLast else chars).count '\n'
  patterns := patterns

/-- The place behind some characters. -/
def moveTo (cursor : Cursor) (rest : List Char) : Cursor :=
  { cursor with
    chars := rest
    line := cursor.line + Token.linesBetween cursor.chars rest
      + (cursor.jumps.lookup rest.length).getD 0 }

/-- The place of a word that begins here. -/
def place (cursor : Cursor) : Place where
  last := cursor.line + cursor.chars.count '\n'
  quoting := .bare
  patterns := cursor.patterns

end Cursor

/-- The operators, with the longer ones first. -/
def operators : List String :=
  [";;&", "&&", "||", ";;", ";&", "|&", "\n", ";", "&", "|", "(", ")"]

/-- The marks of redirections, with the longer ones first. -/
def redirectMarks : List String :=
  ["&>>", "<<<", "<<-", "&>", "<<", "<&", "<>", ">>", ">&", ">|", "<", ">"]

/-- The characters behind blanks, broken lines and a comment. -/
def skipBlanks : (fuel : Nat) → List Char → List Char
  | 0, chars => chars
  | fuel + 1, chars =>
    match chars with
    | ' ' :: rest | '\t' :: rest | '\\' :: '\n' :: rest => skipBlanks fuel rest
    | '#' :: rest => rest.dropWhile (· != '\n')
    | chars => chars

/-- Whether a word begins with the path of something that a script writes or reads. -/
def beginsProcess (chars : List Char) : Bool :=
  match chars with
  | '<' :: '(' :: _ | '>' :: '(' :: _ => true
  | _ => false

/-- The next token, and the place behind it. -/
def lex (cursor : Cursor) : Except Fault (Lexeme × Cursor) := do
  let chars := skipBlanks (cursor.chars.length + 1) cursor.chars
  let cursor := cursor.moveTo chars
  if chars.isEmpty then return (.ending, cursor)
  let digits := chars.takeWhile Char.isDigit
  let behind := chars.drop digits.length
  let marked := redirectMarks.find? fun mark => mark.toList.isPrefixOf behind
  let joined := marked.any (·.startsWith "&")
  match marked, digits.isEmpty with
  | some mark, isBare =>
    if (isBare || !joined) && !(isBare && beginsProcess chars) then
      let stream? := if isBare then none
        else some (digits.foldl (fun n c => n * 10 + (c.toNat - 48)) 0)
      return (.redirect stream? mark, cursor.moveTo (behind.drop mark.length))
  | none, _ => pure ()
  match operators.find? fun text => text.toList.isPrefixOf chars with
  | some text => return (.operator text, cursor.moveTo (chars.drop text.length))
  | none =>
    let (pieces, rest) ← readWord cursor.place chars
    let source := String.ofList (chars.take (chars.length - rest.length))
    return (.word pieces source, cursor.moveTo rest)

namespace Reading

/-- The next token. -/
def peek : Reading Lexeme := do return (← lex (← get)).1

/-- Take the next token. -/
def take : Reading Lexeme := do
  let (lexeme, cursor) ← lex (← get)
  set cursor
  return lexeme

/-- The line on which the next token begins. -/
def lineHere : Reading Nat := do
  let cursor ← get
  return (cursor.moveTo (skipBlanks (cursor.chars.length + 1) cursor.chars)).line

/-- Fail at the next token. -/
def fail {α : Type} : Reading α := do
  let line ← lineHere
  match ← peek with
  | .word _ source => throw (.unexpected line source)
  | .operator "\n" => throw (.unexpected line "newline")
  | .operator text => throw (.unexpected line text)
  | .redirect (some stream) _ => throw (.unexpected line (Decimal.digitText stream))
  | .redirect none mark => throw (.unexpected line mark)
  | .ending => throw (.early (← get).endLine)

/-- Fail at the next token, which has to stand on this line, so that the end of the script counts as
the end of a line. -/
def failOnLine {α : Type} : Reading α := do
  match ← peek with
  | .ending => throw (.unexpected (← lineHere) "newline")
  | _ => fail

/-- The text of the next token if it is a word without quotes and values. -/
def plainWord? : Reading (Option String) := do
  match ← peek with
  | .word pieces _ => return (Word.plain? pieces).map String.ofList
  | _ => return none

/-- Whether some word comes next. -/
def isWord (text : String) : Reading Bool := return (← plainWord?) == some text

/-- Whether some operator comes next. -/
def isOperator (text : String) : Reading Bool := do
  match ← peek with
  | .operator other => return other == text
  | _ => return false

/-- Take an operator if it comes next. -/
def accept (text : String) : Reading Bool := do
  if ← isOperator text then
    let _ ← take
    return true
  return false

/-- Take a word if it comes next. -/
def acceptWord (text : String) : Reading Bool := do
  if ← isWord text then
    let _ ← take
    return true
  return false

/-- Take a word that has to come next. -/
def expectWord (text : String) : Reading Unit := do
  if !(← acceptWord text) then fail

/-- Take an operator that has to come next. -/
def expect (text : String) : Reading Unit := do
  if !(← accept text) then fail

/-- Skip line breaks. -/
def skipLines : (fuel : Nat) → Reading Unit
  | 0 => return ()
  | fuel + 1 => do if ← accept "\n" then skipLines fuel

/-- How many tokens are left at most. -/
def left : Reading Nat := return (← get).chars.length + 1

/-- Skip all line breaks that come next. -/
def newlines : Reading Unit := do skipLines (← left)

end Reading

/-! ## Parts of commands -/

/-- The place behind the line break that ends this line, if the line can be read. -/
def behindLine : (fuel : Nat) → Cursor → Option Cursor
  | 0, _ => none
  | fuel + 1, cursor =>
    match lex cursor with
    | .ok (.operator "\n", next) => some next
    | .ok (.ending, _) | .error _ => none
    | .ok (_, next) => behindLine fuel next

/-- Take the text between lines that a word ends, from behind this line. -/
def readDocument (indented : Bool) (pieces : Word) : Reading Word := do
  let cursor ← get
  let delimiter := Token.Delimiter.ofWord indented pieces
  match behindLine (cursor.chars.length + 1) cursor with
  | none => return [.text true []]
  | some next =>
    let (body, rest) := Token.spanDocument delimiter (next.chars.length + 1) next.chars
    let body := if rest.isEmpty && body.getLast?.any (· != '\n') then body ++ ['\n'] else body
    let front := cursor.chars.take (cursor.chars.length - next.chars.length)
    let before := (cursor.jumps.lookup next.chars.length).getD 0
    let jump := (rest.length, before + Token.linesBetween next.chars rest)
    set { cursor with chars := front ++ rest, jumps := jump :: cursor.jumps }
    if delimiter.literal then return [.text true body]
    let place : Place := ⟨next.line + body.count '\n', .document, false⟩
    return (← wholeWord place body)

/-- Read the target of a redirection behind its mark. -/
def readRedirect (stream? : Option Nat) (mark : String) : Reading Redirect := do
  match ← Reading.peek with
  | .word pieces _ =>
    let _ ← Reading.take
    let usual := if mark.startsWith "<" then 0 else 1
    let isStream := match Word.plain? pieces with
      | some ['-'] => true
      | some chars => chars.all fun c => c.isDigit || c == '-'
      | none => true
    let make (mode : RedirectMode) : Redirect := ⟨stream?.getD usual, mode, pieces⟩
    match mark with
    | "<<" | "<<-" =>
      return ⟨stream?.getD 0, .document, ← readDocument (mark == "<<-") pieces⟩
    | "<<<" => return make .line
    | "<&" => return make .duplicate
    | ">&" => return make (if stream?.isNone && !isStream then .both else .duplicate)
    | "&>" => return make .both
    | "&>>" => return make .appendBoth
    | ">>" => return make .append
    | ">|" => return make .force
    | ">" => return make .write
    | _ => return make .read
  | _ => Reading.failOnLine

/-- Read the redirections that come next. -/
def readRedirects : (fuel : Nat) → Reading (List Redirect)
  | 0 => return []
  | fuel + 1 => do
    match ← Reading.peek with
    | .redirect stream? mark =>
      let _ ← Reading.take
      let first ← readRedirect stream? mark
      return first :: (← readRedirects fuel)
    | _ => return []

/-- The name at the front of a text, the index behind it in brackets, and whether a value is put
behind the one that is there or in its place: the front of a word that assigns a value. -/
def spanAssignment? (chars : List Char) :
    Option (String × Option (List Char) × Bool × List Char) := do
  let name := chars.takeWhile Token.isNameChar
  guard (name.head?.any Token.isNameStart)
  let rest := chars.drop name.length
  let (index?, rest) ← match rest with
    | '[' :: rest =>
      (spanUntil '[' ']' (2 * rest.length + 2) 0 rest).map fun (index, rest) => (some index, rest)
    | rest => some (none, rest)
  match rest with
  | '=' :: rest => some (String.ofList name, index?, false, rest)
  | '+' :: '=' :: rest => some (String.ofList name, index?, true, rest)
  | _ => none

/-- Read the elements of an array up to the parenthesis that closes it. -/
def readElements (start : Nat) : (fuel : Nat) → Reading (List (Option Word × Bool × Word))
  | 0 => return []
  | fuel + 1 => do
    let cursor ← get
    let chars := skipBlanks (cursor.chars.length + 1) cursor.chars
    let place := (cursor.moveTo chars).place
    let indexed : Option (List Char × Bool × List Char) := do
      match chars with
      | '[' :: rest =>
        let (index, rest) ← spanUntil '[' ']' (2 * rest.length + 2) 0 rest
        match rest with
        | '=' :: rest => some (index, false, rest)
        | '+' :: '=' :: rest => some (index, true, rest)
        | _ => none
      | _ => none
    match indexed with
    | some (index, appends, rest) =>
      let index ← wholeWord place index
      let (value, rest) ← readWord place rest
      set (cursor.moveTo rest)
      return (some index, appends, value) :: (← readElements start fuel)
    | none =>
      match ← Reading.peek with
      | .ending => throw { Fault.unclosed start ")" with status := 1 }
      | .operator ")" =>
        let _ ← Reading.take
        return []
      | .operator "\n" =>
        let _ ← Reading.take
        readElements start fuel
      | .word pieces _ =>
        let _ ← Reading.take
        return (none, false, pieces) :: (← readElements start fuel)
      | _ => Reading.fail

/-- Read a word that assigns a value, if one comes next. -/
def readAssignment? : Reading (Option Assignment) := do
  let cursor ← get
  let chars := skipBlanks (cursor.chars.length + 1) cursor.chars
  let here := cursor.moveTo chars
  match spanAssignment? chars with
  | none => return none
  | some (name, index?, appends, rest) =>
    let index? ← index?.mapM fun index => (wholeWord here.place index : Reading Word)
    match index?, rest with
    | none, '(' :: rest =>
      set (here.moveTo rest)
      let items ← readElements here.line (rest.length + 1)
      return some ⟨name, none, appends, .elements items⟩
    | index?, rest =>
      let (value, rest) ← readWord here.place rest
      set (here.moveTo rest)
      return some ⟨name, index?, appends, .text value⟩

/-- The commands that declare variables. -/
def declaring : List String := ["declare", "typeset", "local", "export", "readonly"]

/-- The parts of a simple command. -/
structure Parts where
  assignments : List Assignment
  arguments : List Argument
  redirects : List Redirect

/-- The name of a command that declares variables, if it is one. -/
def Parts.declares? (parts : Parts) : Option String :=
  match parts.arguments with
  | .word name :: _ =>
    ((Word.plain? name).map String.ofList).filter declaring.contains
  | _ => none

/-- Read the parts of a simple command. -/
def readParts : (fuel : Nat) → Parts → Reading Parts
  | 0, parts => return parts
  | fuel + 1, parts => do
    let assignment? ← if parts.arguments.isEmpty || parts.declares?.isSome then readAssignment?
      else pure none
    match assignment? with
    | some assignment =>
      if parts.arguments.isEmpty then
        readParts fuel { parts with assignments := parts.assignments ++ [assignment] }
      else
        readParts fuel { parts with arguments := parts.arguments ++ [.assignment assignment] }
    | none =>
      match ← Reading.peek with
      | .word pieces _ =>
        let _ ← Reading.take
        readParts fuel { parts with arguments := parts.arguments ++ [.word pieces] }
      | .redirect stream? mark =>
        let _ ← Reading.take
        let redirect ← readRedirect stream? mark
        readParts fuel { parts with redirects := parts.redirects ++ [redirect] }
      | _ => return parts

/-- The words among arguments. -/
def Parts.words (parts : Parts) : List Word :=
  parts.arguments.filterMap fun argument => match argument with
    | .word word => some word
    | .assignment _ => none

/-- The words that end a list of commands. -/
def closingWords : List String := ["then", "else", "elif", "fi", "do", "done", "esac", "\x7d"]

/-- The words that are special where a command may begin. -/
def specialWords : List String :=
  ["if", "then", "else", "elif", "fi", "case", "esac", "for", "select", "while", "until", "do",
    "done", "in", "function", "time", "\x7b", "\x7d", "!", "[[", "]]", "coproc"]

/-- Whether a list of commands ends here. -/
def atEnd : Reading Bool := do
  match ← Reading.peek with
  | .ending => return true
  | .operator text => return [")", ";;", ";&", ";;&"].contains text
  | .word pieces _ =>
    return closingWords.contains (String.ofList ((Word.plain? pieces).getD []))
  | .redirect _ _ => return false

/-! ## Conditions -/

/-- The operators on one text. -/
def unaryOperators : List String :=
  "abcdefghknoprstuvwxzLNSGOR".toList.map fun c => "-" ++ String.ofList [c]

/-- The operators between two texts. -/
def binaryOperators : List String :=
  ["=", "==", "!=", "=~", "-eq", "-ne", "-lt", "-le", "-gt", "-ge", "-nt", "-ot", "-ef"]

/-- How the next token is shown in complaints about a condition. -/
def shownHere : Reading String := do
  match ← Reading.peek with
  | .word _ source => return source
  | .operator "\n" | .ending => return "newline"
  | .operator text | .redirect _ text => return text

/-- Fail in a condition with what is to be told, near some text. -/
def failNear {α : Type} (complaints : List String) (near : String) : Reading α := do
  let line ← Reading.lineHere
  let all := complaints ++ ["syntax error near " ++ Fault.quoted near]
  throw ⟨line, all.map (line, ·), true, 2⟩

/-- Fail in a condition at the next token, behind what is to be told about some line. At the end of
the script that it is over is told as well. -/
def failBehind {α : Type} (line : Nat) (complaint : String) : Reading α := do
  let here ← Reading.lineHere
  match ← Reading.peek with
  | .ending =>
    throw ((Fault.early (← get).endLine).behind [(line, complaint)])
  | _ =>
    let shown ← shownHere
    let near := String.ofList (shown.toList.drop
      (if [";;", "&&", "||", ";&", "|&"].contains shown then 1 else 0))
    throw ⟨here, [(line, complaint), (here, "syntax error near " ++ Fault.quoted near)], true, 2⟩

/-- How the next token is named in complaints about a condition behind line breaks, unless it is a
word. -/
def namedHere? : Reading (Option String) := do
  match ← Reading.peek with
  | .word _ source => return if source = "]]" then some source else none
  | .ending => return some "EOF"
  | .operator text | .redirect _ text => return some text

/-- Read an expression for texts, in which parentheses and bars belong to it. -/
def readExpression : Reading Word := do
  let cursor ← get
  let chars := skipBlanks (cursor.chars.length + 1) cursor.chars
  let here := cursor.moveTo chars
  let rec span : (fuel depth : Nat) → List Char → Nat × List Char
    | 0, _, rest => (0, rest)
    | _ + 1, depth, [] => (depth, [])
    | fuel + 1, depth, c :: rest =>
      if depth = 0 ∧ (c = ' ' ∨ c = '\t' ∨ c = '\n' ∨ c = ';' ∨ c = '&' ∨ c = '<' ∨ c = '>') then
        (0, c :: rest)
      else if c = '(' then span fuel (depth + 1) rest
      else if c = ')' then if depth = 0 then (0, c :: rest) else span fuel (depth - 1) rest
      else
        match spanPart fuel c rest with
        | some (_, behind) => span fuel depth behind
        | none => (depth, [])
  let (open?, rest) := span (2 * chars.length + 2) 0 chars
  if open? != 0 then
    let complaint := (cursor.endLine, "unexpected argument to conditional binary operator")
    throw { Fault.unclosed here.line ")" with
      complaints := (Fault.unclosed here.line ")").complaints ++ [complaint] }
  set (here.moveTo rest)
  wholeWord here.place (chars.take (chars.length - rest.length))

/-- Read the operand behind an operator of a condition. -/
def readOperand (operator : String) (kind : String) : Reading Word := do
  if operator = "=~" then readExpression
  else
    let cursor ← get
    set { cursor with patterns := true }
    let result ← match ← Reading.peek with
      | .word pieces source =>
        if source = "]]" then pure none
        else do
          let _ ← Reading.take
          pure (some pieces)
      | _ => pure none
    modify fun after => { after with patterns := cursor.patterns }
    match result with
    | some pieces => return pieces
    | none =>
      let shown ← shownHere
      failNear ["unexpected argument " ++ Fault.quoted shown ++ " to conditional " ++ kind
        ++ " operator"] (if shown = "newline" then operator else shown)

mutual

/-- Read a condition of which one part has to hold. -/
def readEither : (fuel : Nat) → Reading Test
  | 0 => Reading.fail
  | fuel + 1 => do
    let first ← readBoth fuel
    Reading.newlines
    if ← Reading.accept "||" then
      Reading.newlines
      return .either first (← readEither fuel)
    return first

/-- Read a condition of which all parts have to hold. -/
def readBoth : (fuel : Nat) → Reading Test
  | 0 => Reading.fail
  | fuel + 1 => do
    let first ← readTerm fuel
    Reading.newlines
    if ← Reading.accept "&&" then
      Reading.newlines
      return .both first (← readBoth fuel)
    return first

/-- Read a condition on one or two words. -/
def readTerm : (fuel : Nat) → Reading Test
  | 0 => Reading.fail
  | fuel + 1 => do
    Reading.newlines
    match ← Reading.peek with
    | .operator "(" =>
      let line ← Reading.lineHere
      let _ ← Reading.take
      let expected := "expected " ++ Fault.quoted ")"
      match readEither fuel (← get) with
      | .error fault => throw (fault.under (line, expected))
      | .ok (inside, cursor) =>
        set cursor
        if !(← Reading.accept ")") then
          match ← namedHere? with
          | some shown =>
            failBehind line ("unexpected token " ++ Fault.quoted shown ++ ", " ++ expected)
          | none => failBehind line expected
        return inside
    | .word pieces source =>
      let plain := (Word.plain? pieces).map String.ofList
      if plain = some "]]" then failNear [] "]]"
      let _ ← Reading.take
      if plain = some "!" then return .negation (← readTerm fuel)
      match plain.filter unaryOperators.contains, ← Reading.peek with
      | some operator, .word _ "]]" | some operator, .operator _ =>
        let operand ← readOperand operator "unary"
        return .unary operator operand
      | some operator, _ => return .unary operator (← readOperand operator "unary")
      | none, .redirect none mark =>
        if mark = "<" ∨ mark = ">" then
          let _ ← Reading.take
          return .binary mark pieces (← readOperand mark "binary")
        else failNear ["conditional binary operator expected"] mark
      | none, .word next nextSource =>
        let operator := String.ofList ((Word.plain? next).getD [])
        if operator = "]]" then return .unary "-n" pieces
        else if binaryOperators.contains operator then
          let _ ← Reading.take
          return .binary operator pieces (← readOperand operator "binary")
        else failNear ["conditional binary operator expected"] nextSource
      | none, .operator text =>
        if ["&&", "||", ")"].contains text then return .unary "-n" pieces
        else
          failNear ["unexpected token " ++ Fault.quoted (← shownHere)
            ++ ", conditional binary operator expected"] (if text = "\n" then source else text)
      | none, .ending =>
        failNear ["unexpected token " ++ Fault.quoted "newline"
          ++ ", conditional binary operator expected"] source
      | none, .redirect (some _) mark =>
        failNear ["conditional binary operator expected"] mark
    | .ending =>
      failBehind (← get).endLine
        ("unexpected token " ++ Fault.quoted "EOF" ++ " in conditional command")
    | _ =>
      failBehind (← Reading.lineHere)
        ("unexpected token " ++ Fault.quoted (← shownHere) ++ " in conditional command")

end

/-- Read a condition behind the brackets that open it on some line. -/
def readCondition (line : Nat) : Reading Test := do
  let test ← readEither (2 * (← Reading.left) + 4)
  if ← Reading.acceptWord "]]" then return test
  match ← Reading.peek with
  | .ending => failBehind line ("unexpected EOF while looking for " ++ Fault.quoted "]]")
  | _ =>
    let about := (← namedHere?).elim "" fun shown => ": unexpected token " ++ Fault.quoted shown
    failBehind line ("syntax error in conditional expression" ++ about)

/-! ## Commands -/

/-- Read the expression behind two parentheses that have been opened, if it is one, and leave it
alone if not. -/
def readArithmetic? : Reading (Option (String × Word)) := do
  let cursor ← get
  match spanArithmetic? cursor.chars with
  | none => return none
  | some (inside, behind) =>
    let place : Place := ⟨cursor.line + inside.count '\n', .inner, false⟩
    set (cursor.moveTo behind)
    return some (String.ofList inside, ← wholeWord place inside)

/-- The parts of the head of a loop that counts, between semicolons. -/
def splitHead : (depth : Nat) → List Char → List (List Char)
  | _, [] => [[]]
  | depth, c :: rest =>
    if c = ';' ∧ depth = 0 then [] :: splitHead depth rest
    else
      let depth := if c = '(' then depth + 1 else if c = ')' then depth - 1 else depth
      match splitHead depth rest with
      | first :: others => (c :: first) :: others
      | [] => [[c]]

/-- The words in front of the end of a line. -/
def readWords : (fuel : Nat) → Reading (List Word)
  | 0 => return []
  | fuel + 1 => do
    match ← Reading.peek with
    | .word pieces _ =>
      let _ ← Reading.take
      return pieces :: (← readWords fuel)
    | _ => return []

/-- Read patterns with bars between them, up to a parenthesis. -/
def readPatterns : (fuel : Nat) → Reading (List Word)
  | 0 => Reading.fail
  | fuel + 1 => do
    match ← Reading.peek with
    | .word pieces _ =>
      let _ ← Reading.take
      if ← Reading.accept "|" then return pieces :: (← readPatterns fuel)
      if !(← Reading.accept ")") then Reading.failOnLine
      return [pieces]
    | _ => Reading.failOnLine

/-- A redirection of the complaints to where the output goes. -/
def complaintsToOutput : Redirect := ⟨2, .duplicate, [.text false ['1']]⟩

/-- A command with redirections, if there are any. -/
def withRedirects (redirects : List Redirect) (command : Command) : Command :=
  if redirects.isEmpty then command else .redirected redirects command

mutual

/-- Read commands up to where a list of them ends. -/
def readList : (fuel : Nat) → (mayBeEmpty : Bool) → Reading Command
  | 0, _ => Reading.fail
  | fuel + 1, mayBeEmpty => do
    Reading.newlines
    if mayBeEmpty && (← atEnd) then return .nothing
    let first ← readChain fuel
    if ← Reading.accept "&" then return .sequence (.background first) (← readList fuel true)
    if (← Reading.accept ";") || (← Reading.accept "\n") then
      return .sequence first (← readList fuel true)
    return first

/-- Read commands of which each depends on the success of those before it. -/
def readChain : (fuel : Nat) → Reading Command
  | 0 => Reading.fail
  | fuel + 1 => do readLinks fuel (← readPipeline fuel)

/-- Read what is linked to a command. -/
def readLinks : (fuel : Nat) → Command → Reading Command
  | 0, first => return first
  | fuel + 1, first => do
    if ← Reading.accept "&&" then
      Reading.newlines
      readLinks fuel (.both first (← readPipeline fuel))
    else if ← Reading.accept "||" then
      Reading.newlines
      readLinks fuel (.either first (← readPipeline fuel))
    else return first

/-- Read commands of which each reads what the one before it writes. -/
def readPipeline : (fuel : Nat) → Reading Command
  | 0 => Reading.fail
  | fuel + 1 => do
    let ends : Reading Bool := do
      match ← Reading.peek with
      | .ending => return true
      | .operator text => return ["\n", ";", "&"].contains text
      | _ => return false
    if ← Reading.acceptWord "!" then
      if ← ends then return .negated .nothing
      return .negated (← readPipeline fuel)
    else if ← Reading.acceptWord "time" then
      let _ ← Reading.acceptWord "-p"
      let _ ← Reading.acceptWord "--"
      if ← ends then return .nothing
      readPipeline fuel
    else readPipes fuel (← readCommand fuel)

/-- Read what a command is piped into. -/
def readPipes : (fuel : Nat) → Command → Reading Command
  | 0, first => return first
  | fuel + 1, first => do
    if ← Reading.accept "|" then
      Reading.newlines
      readPipes fuel (.pipe first (← readCommand fuel))
    else if ← Reading.accept "|&" then
      Reading.newlines
      readPipes fuel (.pipe (.redirected [complaintsToOutput] first) (← readCommand fuel))
    else return first

/-- Read one command and its redirections. -/
def readCommand : (fuel : Nat) → Reading Command
  | 0 => Reading.fail
  | fuel + 1 => do
    let line ← Reading.lineHere
    let compound (command : Command) : Reading Command := do
      return withRedirects (← readRedirects (← Reading.left)) command
    if ← Reading.accept "(" then
      if (← get).chars.head? = some '(' then
        let before ← get
        if (closedBy (before.place) '(' ')' (before.chars.drop 1)).toOption.isNone then
          throw (.unclosed line ")")
        set (before.moveTo (before.chars.drop 1))
        if let some (_, expression) ← readArithmetic? then
          return ← compound (.arithmetic line expression)
        set before
      let body ← readList fuel false
      Reading.expect ")"
      return ← compound (.subshell body)
    match ← Reading.plainWord? with
    | some "\x7b" =>
      let _ ← Reading.take
      let body ← readList fuel false
      Reading.expectWord "\x7d"
      compound body
    | some "if" =>
      let _ ← Reading.take
      compound (← readBranch fuel)
    | some "while" =>
      let _ ← Reading.take
      compound (← readLoop fuel false)
    | some "until" =>
      let _ ← Reading.take
      compound (← readLoop fuel true)
    | some "for" =>
      let _ ← Reading.take
      compound (← readEach fuel line)
    | some "select" =>
      let _ ← Reading.take
      compound (← readMenu fuel)
    | some "case" =>
      let _ ← Reading.take
      compound (← readSelect fuel)
    | some "[[" =>
      let _ ← Reading.take
      compound (.check line (← readCondition line))
    | some "function" =>
      let _ ← Reading.take
      match ← Reading.peek with
      | .word _ source =>
        let _ ← Reading.take
        if ← Reading.accept "(" then Reading.expect ")"
        Reading.newlines
        return .define source (← readBody fuel)
      | _ => Reading.failOnLine
    | found =>
      if found.any specialWords.contains then Reading.fail
      readSimple fuel line

/-- Read a command that is no list of others, or what a function does. -/
def readSimple : (fuel line : Nat) → Reading Command
  | 0, _ => Reading.fail
  | fuel + 1, line => do
    let parts ← readParts (← Reading.left) ⟨[], [], []⟩
    let isAlone := parts.assignments.isEmpty && parts.redirects.isEmpty
    match parts.arguments with
    | [] =>
      if isAlone then Reading.fail
      return .simple line parts.assignments [] parts.redirects
    | [.word name] =>
      if isAlone && (← Reading.isOperator "(") then
        let _ ← Reading.take
        if !(← Reading.accept ")") then Reading.failOnLine
        Reading.newlines
        let source := String.ofList ((Word.plain? name).getD [])
        return .define source (← readBody fuel)
      finish line parts
    | _ => finish line parts
where
  finish (line : Nat) (parts : Parts) : Reading Command := do
    if ← Reading.isOperator "(" then Reading.fail
    match parts.declares? with
    | some name =>
      return .declaration line parts.assignments name (parts.arguments.drop 1) parts.redirects
    | none => return .simple line parts.assignments parts.words parts.redirects

/-- Read what a function does: a command that is a list of others. -/
def readBody : (fuel : Nat) → Reading Command
  | 0 => Reading.fail
  | fuel + 1 => do
    let word := (← Reading.plainWord?).getD ""
    let opens := ["\x7b", "if", "while", "until", "for", "select", "case", "[["].contains word
    if opens || (← Reading.isOperator "(") then readCommand fuel else Reading.fail

/-- Read the condition and the branches behind it. -/
def readBranch : (fuel : Nat) → Reading Command
  | 0 => Reading.fail
  | fuel + 1 => do
    let condition ← readList fuel false
    Reading.expectWord "then"
    let yes ← readList fuel false
    if ← Reading.acceptWord "elif" then return .branch condition yes (← readBranch fuel)
    let no ← if ← Reading.acceptWord "else" then readList fuel false else pure .nothing
    Reading.expectWord "fi"
    return .branch condition yes no

/-- Read the condition and the body of a loop. -/
def readLoop : (fuel : Nat) → (negative : Bool) → Reading Command
  | 0, _ => Reading.fail
  | fuel + 1, negative => do
    let condition ← readList fuel false
    Reading.expectWord "do"
    let body ← readList fuel false
    Reading.expectWord "done"
    return .loop negative condition body

/-- Read the body of a loop, between words or between braces. -/
def readRounds : (fuel : Nat) → Reading Command
  | 0 => Reading.fail
  | fuel + 1 => do
    let braces ← Reading.acceptWord "\x7b"
    if !braces then Reading.expectWord "do"
    let body ← readList fuel false
    Reading.expectWord (if braces then "\x7d" else "done")
    return body

/-- Read the name of a variable and the words that it goes through. -/
def readName : (fuel : Nat) → Reading (String × Option (List Word))
  | 0 => Reading.fail
  | _ + 1 => do
    match ← Reading.peek with
    | .word _ source =>
      let _ ← Reading.take
      Reading.newlines
      if ← Reading.acceptWord "in" then
        let words ← readWords (← Reading.left)
        match ← Reading.peek with
        | .operator ";" | .operator "\n" => let _ ← Reading.take
        | _ => Reading.fail
        Reading.newlines
        return (source, some words)
      else
        let _ ← Reading.accept ";"
        Reading.newlines
        return (source, none)
    | _ => Reading.failOnLine

/-- Read a loop that goes through words or counts. -/
def readEach : (fuel line : Nat) → Reading Command
  | 0, _ => Reading.fail
  | fuel + 1, line => do
    let cursor ← get
    let chars := skipBlanks (cursor.chars.length + 1) cursor.chars
    match chars with
    | '(' :: '(' :: rest =>
      set (cursor.moveTo rest)
      match ← readArithmetic? with
      | none => throw (.unclosed line ")")
      | some (text, _) =>
        let place : Place := ⟨(← get).line, .inner, false⟩
        let parts ← (splitHead 0 text.toList).mapM fun part => (wholeWord place part : Reading Word)
        let _ ← Reading.accept ";"
        Reading.newlines
        let body ← readRounds fuel
        match parts with
        | [start, condition, step] => return .counted line start condition step body
        | parts =>
          let what := if parts.length < 3 then "arithmetic expression required"
            else Fault.quoted ";" ++ " unexpected"
          throw ⟨line, [what, Fault.quoted ("((" ++ text ++ "))")].map fun text =>
            (line, "syntax error: " ++ text), false, 2⟩
    | _ =>
      let (name, words?) ← readName fuel
      return .each name words? (← readRounds fuel)

/-- Read a loop in which what is read chooses among words. -/
def readMenu : (fuel : Nat) → Reading Command
  | 0 => Reading.fail
  | fuel + 1 => do
    let (name, words?) ← readName fuel
    return .menu name words? (← readRounds fuel)

/-- Read a word and the cases that it is compared with. -/
def readSelect : (fuel : Nat) → Reading Command
  | 0 => Reading.fail
  | fuel + 1 => do
    match ← Reading.peek with
    | .word pieces _ =>
      let _ ← Reading.take
      Reading.newlines
      Reading.expectWord "in"
      return .select pieces (← readCases fuel)
    | _ => Reading.failOnLine

/-- Read cases up to the word that ends them. -/
def readCases : (fuel : Nat) → Reading (List (List Word × Command × CaseEnding))
  | 0 => Reading.fail
  | fuel + 1 => do
    Reading.newlines
    if ← Reading.acceptWord "esac" then return []
    if (← Reading.peek) matches .ending then Reading.fail
    let _ ← Reading.accept "("
    let patterns ← readPatterns (← Reading.left)
    let body ← readList fuel true
    let ending? : Option CaseEnding := match ← Reading.peek with
      | .operator ";;" => some .leave
      | .operator ";&" => some .next
      | .operator ";;&" => some .again
      | _ => none
    match ending? with
    | some ending =>
      let _ ← Reading.take
      return (patterns, body, ending) :: (← readCases fuel)
    | none =>
      Reading.expectWord "esac"
      return [(patterns, body, .leave)]

end

/-- Read the commands of one line. -/
def readLine : (fuel : Nat) → (depth : Nat) → Reading Command
  | 0, _ => Reading.fail
  | fuel + 1, depth => do
    let first ← readChain depth
    let isBackground ← Reading.isOperator "&"
    let first := if isBackground then Command.background first else first
    if (← Reading.accept "&") || (← Reading.accept ";") then
      match ← Reading.peek with
      | .operator "\n" =>
        let _ ← Reading.take
        return first
      | .ending => return first
      | _ => return .sequence first (← readLine fuel depth)
    match ← Reading.peek with
    | .operator "\n" =>
      let _ ← Reading.take
      return first
    | .ending => return first
    | _ => Reading.fail

/-- Read the commands of the next line of a script that has any. At the end there are none. -/
def next? (cursor : Cursor) : Option (Except Fault (Command × Cursor)) :=
  match Reading.newlines cursor with
  | .error fault => some (.error fault)
  | .ok ((), cursor) =>
    match lex cursor with
    | .error fault => some (.error fault)
    | .ok (.ending, _) => none
    | .ok _ =>
      let length := cursor.chars.length
      some (readLine (length + 1) (24 * (length + 4)) cursor)

end Runbook.Shell.Extended
