import Runbook.Decimal.Reading
import Runbook.Files

/-!
# Conditions

What the program that tests conditions makes of its arguments. Comparisons are of texts or of whole
numbers, and files are looked up in a tree.
-/

namespace Runbook.Program.Condition

/-- Why a condition is neither true nor false. -/
inductive Fault where
  | noNumber (text : String)
  /-- A text that stands where an operator on one text should be. -/
  | noUnary (text : String)
  /-- A text that stands where an operator between two texts should be. -/
  | noBinary (text : String)
  /-- A text behind a whole condition. -/
  | extra (text : String)
  /-- A text behind which the arguments end too early. -/
  | missingAfter (text : String)
  /-- A parenthesis that is not closed, and what stands in the place of the closing one. -/
  | notClosed (found? : Option String)
  /-- An operator that does not compare lengths. -/
  | noLength (operator : String)
deriving DecidableEq, Repr, Inhabited

/-- A tree of files, and the directory in it from which paths lead. -/
structure Surroundings where
  tree : FileTree
  directory : FilePath
deriving Inhabited

/-- Whether the last name of a path is that of a link. -/
def Surroundings.isLink (around : Surroundings) (text : String) : Bool :=
  match (FileTree.splitPath text).reverse with
  | [] => false
  | name :: names =>
    let front := "/".intercalate (names.reverse ++ ["."])
    match around.tree.find around.directory front with
    | .ok (place, _) =>
      match around.tree.entry? (place ++ [name]) with
      | some (.link _) => true
      | _ => false
    | .error _ => false

/-- Whether something of a kind stands at a path. -/
def Surroundings.has (around : Surroundings) (text : String) (kind : FileEntry → Bool) : Bool :=
  (around.tree.find? around.directory text).any kind

/-- Whether a program may be run, or a directory be searched. -/
def Surroundings.mayEnter (around : Surroundings) (text : String) : Bool :=
  match around.tree.find around.directory text with
  | .ok (_, .directory) => true
  | .ok (_, entry) => entry.isExecutable
  | _ => false

/-- A condition on one text, if the operator is one. -/
def unary? (around : Surroundings) (operator text : String) : Option Bool :=
  let isKind (test : FileEntry → Bool) : Option Bool := some (around.has text test)
  match operator with
  | "-n" => some (text != "")
  | "-z" => some (text == "")
  | "-d" => isKind (· == .directory)
  | "-c" => isKind (· == .device)
  | "-e" | "-r" | "-w" | "-O" | "-G" => isKind fun _ => true
  | "-f" => isKind fun entry => entry != .directory && entry != .device
  | "-s" => isKind fun
    | .file content _ => !content.isEmpty
    | entry => entry != .device
  | "-x" => some (around.mayEnter text)
  | "-h" | "-L" => some (around.isLink text)
  | "-t" | "-p" | "-S" | "-b" | "-u" | "-g" | "-k" => some false
  | _ => none

/-- How old what stands at a path is: files that were written later have higher numbers. -/
def Surroundings.rank? (around : Surroundings) (text : String) : Option Nat :=
  (around.tree.find around.directory text).toOption.map fun (place, _) =>
    (around.tree.findIdx? (·.1 == place)).elim 0 (· + 1)

/-- Whether a file was written later than another one. If `orMissing` is set, a file is also newer
than one that does not exist. -/
def Surroundings.isNewer (around : Surroundings) (orMissing : Bool) (text other : String) : Bool :=
  match around.rank? text, around.rank? other with
  | some n, some m => m < n
  | some _, none => orMissing
  | none, _ => false

/-- Whether two paths lead to the same place. -/
def Surroundings.isSame (around : Surroundings) (text other : String) : Bool :=
  match around.tree.find around.directory text, around.tree.find around.directory other with
  | .ok (place, _), .ok (otherPlace, _) => place == otherPlace
  | _, _ => false

/-- How conditions are read: by the program, or by a shell. -/
inductive Reader where
  | program
  | shell
deriving DecidableEq, Repr, Inhabited

/-- Whether a character may stand around a number. -/
def Reader.isBlank (reader : Reader) (c : Char) : Bool :=
  c == ' ' || c == '\t' || (reader == .shell && '\t' ≤ c && c ≤ '\r')

/-- Read a whole number with blanks around it. Numbers of a shell have 64 bits. -/
def Reader.number (reader : Reader) (text : String) : Except Fault Int :=
  let chars := text.toList.dropWhile reader.isBlank
  let (negative, chars) := match chars with
    | '-' :: rest => (true, rest)
    | '+' :: rest => (false, rest)
    | rest => (false, rest)
  let digits := chars.takeWhile Char.isDigit
  let rest := (chars.drop digits.length).dropWhile reader.isBlank
  let most : Nat := if reader = .program then 10 ^ digits.length
    else if negative then 2 ^ 63 else 2 ^ 63 - 1
  match Decimal.readNatural most digits with
  | some n => if rest.isEmpty then .ok (if negative then -n else n) else .error (.noNumber text)
  | none => .error (.noNumber text)

/-- A comparison of numbers, if the operator is one. -/
def compare? (operator : String) : Option (Int → Int → Bool) :=
  ([("-eq", fun a b => a == b), ("-ne", fun a b => a != b), ("-lt", fun a b => a < b),
    ("-le", fun a b => a ≤ b), ("-gt", fun a b => b < a), ("-ge", fun a b => b ≤ a)] :
    List (String × (Int → Int → Bool))).lookup operator

/-- A comparison of files, if the operator is one. A shell takes no file for newer than one that
does not exist. -/
def compareFiles? (reader : Reader) (around : Surroundings) (operator : String) :
    Option (String → String → Bool) :=
  let newer := around.isNewer (reader == .program)
  ([("-ef", around.isSame), ("-nt", newer), ("-ot", fun a b => newer b a)] :
    List (String × (String → String → Bool))).lookup operator

/-- A comparison of texts, if the operator is one. Only a shell puts texts in order. -/
def compareTexts? (reader : Reader) (operator : String) : Option (String → String → Bool) :=
  ([("=", fun a b => a == b), ("==", fun a b => a == b), ("!=", fun a b => a != b)]
    ++ (if reader = .shell then [("<", fun a b => decide (a < b)), (">", fun a b => decide (b < a))]
      else []) : List (String × (String → String → Bool))).lookup operator

/-- A condition on two texts, if the operator is one. -/
def binary? (reader : Reader) (around : Surroundings) (left operator right : String) :
    Option (Except Fault Bool) :=
  match compareTexts? reader operator, compareFiles? reader around operator, compare? operator with
  | some test, _, _ | none, some test, _ => some (.ok (test left right))
  | none, none, some test => some (do return test (← reader.number left) (← reader.number right))
  | none, none, none => none

/-- Whether a text is an operator between two texts. -/
def isBinary (reader : Reader) (text : String) : Bool :=
  (binary? reader ⟨[], []⟩ "" text "").isSome

/-- A truth value and the arguments behind a condition, or a fault. -/
abbrev Outcome := Except Fault (Bool × List String)

/-! ## Conditions by the number of arguments

The program looks at the number of its arguments first. Up to four of them can be told apart without
a grammar. -/

/-- The last of some arguments. -/
def lastOf (arguments : List String) : String := arguments.getLastD ""

/-- Whether a text looks like an operator on one text. -/
def looksUnary (text : String) : Bool :=
  match text.toList with
  | ['-', _] => true
  | _ => false

/-- A condition on the text behind an operator. -/
def unary (around : Surroundings) (operator : String) (rest : List String) : Outcome :=
  match unary? around operator "", rest with
  | none, _ => .error (.noUnary operator)
  | some _, [] => .error (.missingAfter operator)
  | some _, text :: rest => .ok ((unary? around operator text).getD false, rest)

/-- A condition out of two arguments. -/
def ofTwo (around : Surroundings) (first second : String) : Except Fault Bool :=
  if first = "!" then .ok (second == "")
  else if looksUnary first then (unary around first [second]).map (·.1)
  else .error (.missingAfter second)

/-- A text of a comparison at the front of the arguments, which a mark takes by its length: the
mark, its number, the text, and the arguments behind it. -/
def side (fault : String) : List String → Bool × Except Fault Int × String × List String
  | "-l" :: text :: rest => (true, .ok text.length, text, rest)
  | text :: rest => (false, Reader.program.number text, text, rest)
  | [] => (false, .error (.missingAfter fault), "", [])

/-- A comparison that the program knows at the front of the arguments. -/
def comparison? (around : Surroundings) (arguments : List String) : Option Outcome :=
  let isOperator := isBinary .program
  let left? : Option (Bool × Except Fault Int × String × List String) := match arguments with
    | "-l" :: _ :: operator :: _ :: _ =>
      if isOperator operator then some (side "" arguments) else none
    | _ => none
  let left? := left?.orElse fun () => match arguments with
    | text :: operator :: _ :: _ =>
      if isOperator operator then
        some (false, Reader.program.number text, text, arguments.tail)
      else none
    | _ => none
  match left? with
  | some (counted, number, text, operator :: rest) =>
    let (otherCounted, other, right, behind) :=
      if rest.length < 2 then (false, Reader.program.number (rest.headD ""), rest.headD "",
        rest.tail)
      else side operator rest
    match compare? operator with
    | some test => some (do return (test (← number) (← other), behind))
    | none =>
      if (counted || otherCounted) && (compareFiles? .program around operator).isSome then
        some (.error (.noLength operator))
      else
        (binary? .program around text operator right).map fun answer => answer.map (·, behind)
  | _ => none

/-- A condition out of three arguments, unless it takes a grammar. -/
def ofThree? (around : Surroundings) (first second third : String) : Option (Except Fault Bool) :=
  match comparison? around [first, second, third] with
  | some answer => some (answer.map (·.1))
  | none =>
    if first = "!" then some ((ofTwo around second third).map (!·))
    else if first = "(" ∧ third = ")" then some (.ok (second != ""))
    else if second = "-a" ∨ second = "-o" then none
    else some (.error (.noBinary second))

/-- A condition out of a few arguments, unless it takes a grammar. -/
def ofFew? (around : Surroundings) (arguments : List String) : Option (Except Fault Bool) :=
  match arguments with
  | [] => some (.ok false)
  | [text] => some (.ok (text != ""))
  | [first, second] => some (ofTwo around first second)
  | [first, second, third] => ofThree? around first second third
  | [first, second, third, fourth] =>
    if first = "!" then (ofThree? around second third fourth).map fun answer => answer.map (!·)
    else if first = "(" ∧ fourth = ")" then some (ofTwo around second third)
    else none
  | _ => none

/-- How many arguments stand in front of a closing parenthesis, at least one; all count if there is
none among the first few. -/
def enclosedCount (arguments : List String) : Nat :=
  match (arguments.drop 1).take 4 |>.idxOf? ")" with
  | some index => index + 1
  | none => arguments.length

mutual

/-- Conditions of which one has to hold. -/
def disjunction (around : Surroundings) : (fuel : Nat) → List String → Outcome
  | 0, _ => .error (.notClosed none)
  | fuel + 1, arguments => do
    let (first, rest) ← conjunction around fuel arguments
    match rest with
    | "-o" :: rest =>
      let (later, rest) ← disjunction around fuel rest
      return (first || later, rest)
    | rest => return (first, rest)

/-- Conditions of which all have to hold. -/
def conjunction (around : Surroundings) : (fuel : Nat) → List String → Outcome
  | 0, _ => .error (.notClosed none)
  | fuel + 1, arguments => do
    let (first, rest) ← term around fuel "-o" arguments
    match rest with
    | "-a" :: rest =>
      let (later, rest) ←
        if rest.isEmpty then .error (.missingAfter "-a") else conjunction around fuel rest
      return (first && later, rest)
    | rest => return (first, rest)

/-- One condition. -/
def term (around : Surroundings) : (fuel : Nat) → (previous : String) → List String → Outcome
  | 0, _, _ => .error (.notClosed none)
  | fuel + 1, previous, arguments =>
    match arguments with
    | [] => .error (.missingAfter previous)
    | "!" :: rest => (term around fuel "!" rest).map fun (value, rest) => (!value, rest)
    | "(" :: rest =>
      if rest.isEmpty then .error (.missingAfter "(")
      else do
        let inside := rest.take (enclosedCount rest)
        let (value, behind) ← match ofFew? around inside with
          | some answer => answer.map (·, rest.drop inside.length)
          | none => disjunction around fuel rest
        match behind with
        | ")" :: rest => return (value, rest)
        | behind => throw (.notClosed behind.head?)
    | text :: rest =>
      match comparison? around (text :: rest) with
      | some answer => answer
      | none => if looksUnary text then unary around text rest else .ok (text != "", rest)

end

/-- Whether the condition in some arguments holds, for the program. -/
def holds (around : Surroundings) (arguments : List String) : Except Fault Bool :=
  match ofFew? around arguments with
  | some answer => answer
  | none =>
    match disjunction around (4 * arguments.length + 4) arguments with
    | .ok (value, []) => .ok value
    | .ok (_, text :: _) => .error (.extra text)
    | .error fault => .error fault

/-! ## Conditions by grammar

A shell reads a condition from left to right and complains about the last argument that it has
taken. -/

/-- Where a shell is in its arguments: the last one that it has taken, and those that are left. -/
structure Position where
  last : String
  rest : List String
deriving DecidableEq, Repr, Inhabited

/-- Whether a shell knows an operator between two texts. -/
def isShellBinary (text : String) : Bool := isBinary .shell text && text != "=="

/-- Whether an operator on one text stands at the front, and not a text. -/
def startsUnary (around : Surroundings) (operator : String) (rest : List String) : Bool :=
  (unary? around operator "").isSome && match rest with
    | [] => false
    | [_] => true
    | second :: _ => !isShellBinary second

mutual

/-- Conditions of which one has to hold. -/
def shellDisjunction (around : Surroundings) :
    (fuel : Nat) → Position → Except Fault (Bool × Position)
  | 0, _ => .error (.notClosed none)
  | fuel + 1, position => do
    let (first, position) ← shellConjunction around fuel position
    match position.rest with
    | "-o" :: rest =>
      let (later, position) ← shellDisjunction around fuel ⟨"-o", rest⟩
      return (first || later, position)
    | _ => return (first, position)

/-- Conditions of which all have to hold. -/
def shellConjunction (around : Surroundings) :
    (fuel : Nat) → Position → Except Fault (Bool × Position)
  | 0, _ => .error (.notClosed none)
  | fuel + 1, position => do
    let (first, position) ← shellTerm around fuel position
    match position.rest with
    | "-a" :: rest =>
      let (later, position) ← shellConjunction around fuel ⟨"-a", rest⟩
      return (first && later, position)
    | _ => return (first, position)

/-- One condition. -/
def shellTerm (around : Surroundings) :
    (fuel : Nat) → Position → Except Fault (Bool × Position)
  | 0, _ => .error (.notClosed none)
  | fuel + 1, position =>
    match position.rest with
    | [] => .ok (false, position)
    | "!" :: rest =>
      (shellTerm around fuel ⟨"!", rest⟩).map fun (value, position) => (!value, position)
    | first :: rest =>
      if first = "(" ∧ !rest.isEmpty then
        match rest with
        | ")" :: behind => .ok (false, ⟨")", behind⟩)
        | _ => do
          let (value, position) ← shellDisjunction around fuel ⟨"(", rest⟩
          match position.rest with
          | ")" :: behind => return (value, ⟨")", behind⟩)
          | behind => throw (.notClosed behind.head?)
      else if startsUnary around first rest then
        let text := rest.headD ""
        .ok ((unary? around first text).getD false, ⟨text, rest.tail⟩)
      else
        match rest with
        | operator :: behind =>
          if isShellBinary operator then
            match behind with
            | [] => .error (.missingAfter operator)
            | right :: behind =>
              ((binary? .shell around first operator right).getD (.ok false)).map
                (·, ⟨right, behind⟩)
          else .ok (first != "", ⟨first, rest⟩)
        | [] => .ok (first != "", ⟨first, []⟩)

end

/-- A comparison that stands alone, for a shell. -/
def shellComparison? (around : Surroundings) (arguments : List String) :
    Option (Except Fault Bool) :=
  match arguments with
  | [left, operator, right] =>
    if operator = "==" then none else binary? .shell around left operator right
  | _ => none

/-- Whether the condition in some arguments holds, for a shell. -/
def holdsInShell (around : Surroundings) (arguments : List String) : Except Fault Bool :=
  match shellComparison? around arguments with
  | some answer => answer
  | none =>
    match shellDisjunction around (4 * arguments.length + 4) ⟨"", arguments⟩ with
    | .ok (value, ⟨_, []⟩) => .ok value
    | .ok (_, ⟨last, _⟩) => .error (.extra last)
    | .error fault => .error fault

end Runbook.Program.Condition
