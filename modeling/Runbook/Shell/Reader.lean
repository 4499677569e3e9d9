import Runbook.Instances
import Runbook.Shell.Token

/-!
# Reading scripts

Commands are read from tokens by recursive descent. Some words are special where a command may
begin.
-/

namespace Runbook.Shell

namespace Command

/-- A command and the tokens behind it, or why there is none. -/
abbrev Reading := Except ScriptFault (Command × List Token)

/-- Whether a token is an operator. -/
def isOperator (text : String) : Token → Bool
  | .operator _ other => other == text
  | _ => false

/-- Whether a token is a plain word. -/
def isWord (text : String) (token : Token) : Bool := Token.plain? token == some text

/-- The words that are special where a command may begin. -/
def specialWords : List String :=
  ["if", "then", "else", "elif", "fi", "do", "done", "case", "esac", "while", "until", "for", "in",
    "\x7b", "\x7d", "!"]

/-- A text in quotation marks. -/
def quoted (text : String) : String := "\"" ++ text ++ "\""

/-- The fault of a token that may not stand where it does, and what should stand there. -/
def complainOf (expected : Option String) (token : Token) : ScriptFault :=
  match token with
  | .operator line "\n" => ⟨line + 1, .unexpected "newline" expected⟩
  | .operator line text => ⟨line, .unexpected (quoted text) expected⟩
  | .word line _ _ =>
    let text := (Token.plain? token).getD ""
    ⟨line, .unexpected (if specialWords.contains text then quoted text else "word") expected⟩
  | .redirect line _ _ => ⟨line, .unexpected "redirection" expected⟩
  | .fault line cause => ⟨line, cause⟩
  | .ending line => ⟨line, .unexpected "end of file" expected⟩
  | .document _ => ⟨1, .unexpected "word" expected⟩

/-- The fault of the token at the front. -/
def complain (tokens : List Token) (expected : Option String) : ScriptFault :=
  complainOf expected (tokens.headD (.ending 1))

/-- The line of the token at the front. -/
def lineOf (tokens : List Token) : Nat := (complain tokens none).line

/-- The tokens behind line breaks. -/
def skipLines (tokens : List Token) : List Token := tokens.dropWhile (isOperator "\n")

/-- The words that end a list of commands. -/
def closingWords : List String := ["then", "else", "elif", "fi", "do", "done", "esac", "\x7d"]

/-- Whether a list of commands ends here. -/
def atEnd (tokens : List Token) : Bool :=
  match tokens with
  | [] | .ending _ :: _ => true
  | token :: _ =>
    isOperator ")" token || isOperator ";;" token
      || closingWords.contains ((Token.plain? token).getD "")

/-- The tokens behind a plain word that has to stand here. -/
def expectWord (text : String) (tokens : List Token) : Except ScriptFault (List Token) :=
  match tokens with
  | token :: rest =>
    if isWord text token then .ok rest else .error (complain tokens (some (quoted text)))
  | [] => .error (complain [] (some (quoted text)))

/-- The tokens behind an operator that has to stand here. -/
def expectOperator (text : String) (tokens : List Token) : Except ScriptFault (List Token) :=
  match tokens with
  | token :: rest =>
    if isOperator text token then .ok rest else .error (complain tokens (some (quoted text)))
  | [] => .error (complain [] (some (quoted text)))

/-- The name and the value of a word that assigns a value. -/
def assignment? (word : Word) : Option Assignment :=
  let isEquality : Piece → Bool
    | .text false ['='] => true
    | _ => false
  match word.span (!isEquality ·) with
  | (front, _ :: value) =>
    match Word.plain? front with
    | some (c :: name) =>
      if Token.isNameStart c && name.all Token.isNameChar then
        some ⟨String.ofList (c :: name), none, false, .text value⟩
      else none
    | _ => none
  | _ => none

/-- The parts of a simple command. -/
structure Parts where
  assignments : List Assignment
  words : List Word
  redirects : List Redirect

/-- Read the parts of a simple command. Its first word may be a name for another text. -/
def readParts (aliases : List (String × String)) :
    (fuel : Nat) → (parts : Parts) → List Token → Except ScriptFault (Parts × List Token)
  | 0, parts, tokens => .ok (parts, tokens)
  | fuel + 1, parts, tokens =>
    match (if parts.words.isEmpty then Token.replaceFront aliases fuel tokens else none),
      tokens with
    | some tokens, _ => readParts aliases fuel parts tokens
    | none, .word _ word _ :: rest =>
      match assignment? word with
      | some assignment =>
        if parts.words.isEmpty then
          readParts aliases fuel
            { parts with assignments := parts.assignments ++ [assignment] } rest
        else readParts aliases fuel { parts with words := parts.words ++ [word] } rest
      | none => readParts aliases fuel { parts with words := parts.words ++ [word] } rest
    | none, .redirect _ stream mode :: .word _ target _ :: rest =>
      readParts aliases fuel
        { parts with redirects := parts.redirects ++ [⟨stream, mode, target⟩] } rest
    | none, .redirect _ _ _ :: rest => .error (complain rest none)
    | none, rest => .ok (parts, rest)

/-- Read the redirections behind a command. -/
def readRedirects : List Token → Except ScriptFault (List Redirect × List Token)
  | .redirect _ stream mode :: .word _ target _ :: rest => do
    let (redirects, rest) ← readRedirects rest
    return (⟨stream, mode, target⟩ :: redirects, rest)
  | .redirect _ _ _ :: rest => .error (complain rest none)
  | rest => .ok ([], rest)

/-- A command with redirections, if there are any. -/
def withRedirects (redirects : List Redirect) (command : Command) : Command :=
  if redirects.isEmpty then command else .redirected redirects command

/-- Read the words in front of the end of a line. -/
def readWords : List Token → List Word × List Token
  | .word _ word _ :: rest =>
    let (words, rest) := readWords rest
    (word :: words, rest)
  | rest => ([], rest)

/-- The word that stands for a pattern, which is empty if the token is not a word. -/
def patternOf : Token → Word
  | .word _ word _ => word
  | _ => []

/-- Read patterns with bars between them, up to a parenthesis. No word is special behind one. -/
def readPatterns : List Token → Except ScriptFault (List Word × List Token)
  | token :: .operator _ "|" :: rest => do
    let (patterns, rest) ← readPatterns rest
    return (patternOf token :: patterns, rest)
  | token :: .operator _ ")" :: rest => .ok ([patternOf token], rest)
  | _ :: .word line _ _ :: _ => .error ⟨line, .unexpected "word" (some "\")\"")⟩
  | [token] => .error (complainOf (some "\")\"") token)
  | _ :: rest | rest => .error (complain rest (some "\")\""))

mutual

/-- Read commands up to where a list of them ends. A list that need not be empty has a command. -/
def readList (aliases : List (String × String)) :
    (fuel : Nat) → (mayBeEmpty : Bool) → List Token → Reading
  | 0, _, tokens => .error (complain tokens none)
  | fuel + 1, mayBeEmpty, tokens => do
    let tokens := skipLines tokens
    if Token.isEnding (tokens.headD (.ending 1)) || (mayBeEmpty && atEnd tokens) then
      return (.nothing, tokens)
    let (first, rest) ← readChain aliases fuel tokens
    match rest with
    | .operator _ ";" :: rest | .operator _ "\n" :: rest =>
      let (later, rest) ← readList aliases fuel true rest
      return (.sequence first later, rest)
    | .operator _ "&" :: rest =>
      let (later, rest) ← readList aliases fuel true rest
      return (.sequence (.background first) later, rest)
    | rest => return (first, rest)

/-- Read commands of which each depends on the success of those before it. -/
def readChain (aliases : List (String × String)) : (fuel : Nat) → List Token → Reading
  | 0, tokens => .error (complain tokens none)
  | fuel + 1, tokens => do
    let (first, rest) ← readPipeline aliases fuel tokens
    readLinks aliases fuel first rest

/-- Read what is linked to a command. -/
def readLinks (aliases : List (String × String)) : (fuel : Nat) → Command → List Token → Reading
  | 0, first, rest => .ok (first, rest)
  | fuel + 1, first, rest =>
    match rest with
    | .operator _ "&&" :: rest => do
      let (second, rest) ← readPipeline aliases fuel (skipLines rest)
      readLinks aliases fuel (.both first second) rest
    | .operator _ "||" :: rest => do
      let (second, rest) ← readPipeline aliases fuel (skipLines rest)
      readLinks aliases fuel (.either first second) rest
    | rest => .ok (first, rest)

/-- Read commands of which each reads what the one before it writes. -/
def readPipeline (aliases : List (String × String)) : (fuel : Nat) → List Token → Reading
  | 0, tokens => .error (complain tokens none)
  | fuel + 1, tokens => do
    match tokens with
    | [] => throw (complain [] none)
    | token :: rest =>
      let isNegated := isWord "!" token
      let (first, rest) ← readCommand aliases fuel (if isNegated then rest else tokens)
      let (command, rest) ← readPipes aliases fuel first rest
      return (if isNegated then .negated command else command, rest)

/-- Read what a command is piped into. -/
def readPipes (aliases : List (String × String)) : (fuel : Nat) → Command → List Token → Reading
  | 0, first, rest => .ok (first, rest)
  | fuel + 1, first, rest =>
    match rest with
    | .operator _ "|" :: rest => do
      let (second, rest) ← readCommand aliases fuel (skipLines rest)
      readPipes aliases fuel (.pipe first second) rest
    | rest => .ok (first, rest)

/-- Read one command and its redirections. -/
def readCommand (aliases : List (String × String)) : (fuel : Nat) → List Token → Reading
  | 0, tokens => .error (complain tokens none)
  | fuel + 1, tokens =>
    match tokens with
    | [] => .error (complain [] none)
    | token :: rest =>
      match readCompound aliases fuel token rest, Token.replaceFront aliases fuel tokens with
      | some compound, _ => do
        let (command, rest) ← compound
        let (redirects, rest) ← readRedirects rest
        return (withRedirects redirects command, rest)
      | none, some tokens => readCommand aliases fuel tokens
      | none, none => do
        let (parts, rest) ← readParts aliases fuel ⟨[], [], []⟩ tokens
        let names := parts.assignments.isEmpty && parts.redirects.isEmpty
        match parts.words, rest with
        | [_], .operator _ "(" :: .word line _ _ :: _ =>
          if !names then throw (complain rest none)
          throw ⟨line, .unexpected "word" (some "\")\"")⟩
        | [name], .operator line "(" :: rest => do
          if !names then throw ⟨line, .unexpected (quoted "(") none⟩
          let (body, rest) ← readCommand aliases fuel (skipLines (← expectOperator ")" rest))
          match (Word.plain? name).map String.ofList with
          | some name =>
            if name.toList.all Token.isNameChar then return (.define name body, rest)
            else throw ⟨lineOf tokens, .badFunctionName⟩
          | none => throw ⟨lineOf tokens, .badFunctionName⟩
        | [], _ =>
          if parts.assignments.isEmpty && parts.redirects.isEmpty then
            throw (complain rest none)
          else
            return (.simple (lineOf tokens) parts.assignments [] parts.redirects, rest)
        | words, rest =>
          return (.simple (lineOf tokens) parts.assignments words parts.redirects, rest)

/-- Read a command that begins with a special word, if the token is one. -/
def readCompound (aliases : List (String × String)) :
    (fuel : Nat) → Token → List Token → Option Reading
  | 0, _, _ => none
  | fuel + 1, token, rest =>
    if isOperator "(" token then some do
      let (body, rest) ← readList aliases fuel false rest
      return (.subshell body, ← expectOperator ")" rest)
    else if isWord "\x7b" token then some do
      let (body, rest) ← readList aliases fuel false rest
      return (body, ← expectWord "\x7d" rest)
    else if isWord "if" token then some (readBranch aliases fuel rest)
    else if isWord "while" token then some (readLoop aliases fuel false rest)
    else if isWord "until" token then some (readLoop aliases fuel true rest)
    else if isWord "for" token then some (readEach aliases fuel rest)
    else if isWord "case" token then some (readSelect aliases fuel rest)
    else if specialWords.contains ((Token.plain? token).getD "") then
      some (.error (complainOf none token))
    else none

/-- Read the condition and the branches behind it. -/
def readBranch (aliases : List (String × String)) : (fuel : Nat) → List Token → Reading
  | 0, tokens => .error (complain tokens none)
  | fuel + 1, tokens => do
    let (condition, rest) ← readList aliases fuel false tokens
    let (yes, rest) ← readList aliases fuel false (← expectWord "then" rest)
    match rest with
    | token :: behind =>
      if isWord "elif" token then
        let (no, rest) ← readBranch aliases fuel behind
        return (.branch condition yes no, rest)
      else if isWord "else" token then
        let (no, rest) ← readList aliases fuel false behind
        return (.branch condition yes no, ← expectWord "fi" rest)
      else return (.branch condition yes .nothing, ← expectWord "fi" rest)
    | [] => throw (complain [] (some "\"fi\""))

/-- Read the condition and the body of a loop. -/
def readLoop (aliases : List (String × String)) :
    (fuel : Nat) → (negative : Bool) → List Token → Reading
  | 0, _, tokens => .error (complain tokens none)
  | fuel + 1, negative, tokens => do
    let (condition, rest) ← readList aliases fuel false tokens
    let (body, rest) ← readList aliases fuel false (← expectWord "do" rest)
    return (.loop negative condition body, ← expectWord "done" rest)

/-- Read a variable, the words that it goes through, and the body of the loop. -/
def readEach (aliases : List (String × String)) : (fuel : Nat) → List Token → Reading
  | 0, tokens => .error (complain tokens none)
  | fuel + 1, tokens => do
    match tokens with
    | [] => throw (complain [] none)
    | token :: rest =>
      let name := (Token.plain? token).getD ""
      if !(name.toList.head?.any Token.isNameStart && name.toList.all Token.isNameChar) then
        throw ⟨lineOf tokens, .badVariable⟩
      let rest := skipLines rest
      let (words, rest) ← match rest with
        | second :: behind =>
          if isWord "in" second then
            let (words, rest) := readWords behind
            match rest with
            | .operator _ ";" :: rest | .operator _ "\n" :: rest => pure (some words, rest)
            | rest => throw (complain rest none)
          else if isOperator ";" second then pure (none, behind)
          else pure (none, rest)
        | [] => pure (none, rest)
      let (body, rest) ← readList aliases fuel false (← expectWord "do" (skipLines rest))
      return (.each name words body, ← expectWord "done" rest)

/-- Read a word and the cases that it is compared with. -/
def readSelect (aliases : List (String × String)) : (fuel : Nat) → List Token → Reading
  | 0, tokens => .error (complain tokens none)
  | fuel + 1, tokens =>
    match tokens with
    | .word _ word _ :: rest => do
      let (choices, rest) ← readCases aliases fuel (skipLines (← expectWord "in" (skipLines rest)))
      return (.select word choices, rest)
    | rest => .error (complain rest (some "word"))

/-- Read cases up to the word that ends them. -/
def readCases (aliases : List (String × String)) : (fuel : Nat) → List Token →
    Except ScriptFault (List (List Word × Command × CaseEnding) × List Token)
  | 0, tokens => .error (complain tokens none)
  | fuel + 1, tokens =>
    match tokens with
    | [] => .error (complain [] none)
    | token :: rest =>
      if isWord "esac" token then .ok ([], rest)
      else do
        let (patterns, rest) ← readPatterns (if isOperator "(" token then rest else tokens)
        let (body, rest) ← readList aliases fuel true rest
        match rest with
        | .operator _ ";;" :: rest =>
          let (choices, rest) ← readCases aliases fuel (skipLines rest)
          return ((patterns, body, .leave) :: choices, rest)
        | token :: behind =>
          if isWord "esac" token then return ([(patterns, body, .leave)], behind)
          else throw (complain rest (some "\";;\""))
        | [] => throw (complain [] (some "\";;\""))

end

/-- Read the commands of one line, which may use names for other texts. -/
def readLine (aliases : List (String × String)) : (fuel : Nat) → List Token → Reading
  | 0, tokens => .error (complain tokens none)
  | fuel + 1, tokens => do
    let longest := (aliases.map fun (_, text) => text.length + 1).sum + 1
    let (first, rest) ← readChain aliases (12 * (tokens.length + 2) * longest) tokens
    let (first, rest) : Command × List Token := match rest with
      | .operator _ "&" :: rest => (.background first, .operator 0 ";" :: rest)
      | rest => (first, rest)
    match rest with
    | .operator _ ";" :: rest =>
      match rest with
      | .operator _ "\n" :: _ | .ending _ :: _ | [] => return (first, rest)
      | rest =>
        let (later, rest) ← readLine aliases fuel rest
        return (.sequence first later, rest)
    | .operator _ "\n" :: _ | .ending _ :: _ => return (first, rest)
    | rest => throw (complain rest none)

/-- Read the commands of the next line of a script that has any. At the end there are none. -/
def next? (aliases : List (String × String)) (tokens : List Token) :
    Option (Except ScriptFault (Command × List Token)) :=
  match skipLines tokens with
  | [] | .ending _ :: _ => none
  | tokens => some (readLine aliases tokens.length tokens)

end Command

end Runbook.Shell
