import Runbook.Shell.Extended.Value
import Runbook.Shell.LineInput
import Runbook.Shell.OwnOption

/-!
# Input of the extended language

Texts that are read up to some character, or up to some length, into variables and arrays.
-/

namespace Runbook.Shell

namespace Session

open Extended

/-- How far a text is read. -/
structure Bound where
  delimiter : UInt8
  /-- How many characters are read at most. -/
  most? : Option Nat
  /-- The delimiter ends nothing. -/
  exact : Bool
  /-- Backslashes protect nothing. -/
  raw : Bool
deriving Repr, Inhabited

/-- The characters of the input up to a bound, whether it was reached, and what stands behind. -/
def readBounded (bound : Bound) : (most? : Option Nat) → List UInt8 →
    List LineChar × Bool × List UInt8
  | most?, [] => ([], most? == some 0, [])
  | most?, 92 :: next :: rest =>
    if most? = some 0 then ([], true, 92 :: next :: rest)
    else if bound.delimiter = 92 ∧ !bound.exact then ([], true, next :: rest)
    else if bound.raw then
      let (line, behind) := readBounded bound (most?.map (· - 1)) (next :: rest)
      ((false, '\\') :: line, behind)
    else if next = 10 then readBounded bound most? rest
    else
      let (line, behind) := readBounded bound (most?.map (· - 1)) rest
      ((true, Text.Octets.char next) :: line, behind)
  | most?, byte :: rest =>
    if most? = some 0 then ([], true, byte :: rest)
    else if byte = bound.delimiter ∧ !bound.exact then ([], true, rest)
    else if byte = 0 then readBounded bound most? rest
    else if byte = 92 ∧ !bound.raw then ([], false, [])
    else
      let (line, behind) := readBounded bound (most?.map (· - 1)) rest
      ((false, Text.Octets.char byte) :: line, behind)

/-- What can be read from a stream. -/
def inputOf? (session : Session) (stream : Nat) : Option Program.Input :=
  if stream = 0 then some session.input
  else
    match session.inputs.lookup stream with
    | some input => some input
    | none => (session.streams.lookup stream).map fun _ => .none

/-- Put back what was not read from a stream. -/
def returnInput (session : Session) (stream : Nat) (bytes : List UInt8) : Session :=
  if stream = 0 then { session with input := { session.input with bytes := bytes } }
  else
    { session with inputs := session.inputs.map fun (other, input) =>
        (other, if other = stream then { input with bytes := bytes } else input) }

/-- The text of the characters of a line. -/
def lineText (line : List LineChar) : String := String.ofList (line.map (·.2))

/-- The fields of a line. -/
def lineFields (separators : List Char) : (fuel : Nat) → List LineChar → List String
  | 0, _ => []
  | fuel + 1, line =>
    if line.isEmpty then []
    else
      let (field, rest) := firstField separators line
      lineText field :: lineFields separators fuel rest

/-- The parts of a name with an index in brackets, if it is the name of a variable. -/
def target? (text : String) : Option (String × Option String) :=
  let (name, index?) := Calculation.splitElement text
  if isName name && (index?.isNone || text.endsWith "]") then
    some (name, index?.map Calculation.unquoted)
  else none

/-- Give a text to what a name with an index means. -/
def offerTo (session : Session) (text value : String) : Session :=
  match target? text with
  | some (name, index?) =>
    let done := session.offer name index? value
    if done.status = 0 then { done with status := session.status } else done
  | none => session

/-- Give the fields of a line to variables; the last one takes all that is left. -/
def offerFields (separators : List Char) (session : Session) :
    (names : List String) → (line : List LineChar) → Session
  | [], _ => session
  | [name], line => session.offerTo name (lineText (lastField separators line))
  | name :: names, line =>
    let (field, rest) := firstField separators line
    offerFields separators (session.offerTo name (lineText field)) names rest

/-- Give values to an array in place of those that it has. -/
def offerTable (session : Session) (name : String) (values : List String) : Session :=
  let name := session.meant name
  if session.fixed.contains name then
    (session.complain (name ++ ": readonly variable")).finish 1
  else session.putTable name (.ofValues values)

/-- Whether a text tells a time. -/
def isTime (text : String) : Bool :=
  let (whole, behind) := text.toList.span Char.isDigit
  match behind with
  | [] => !whole.isEmpty
  | '.' :: digits => digits.all Char.isDigit && !(whole.isEmpty && digits.isEmpty)
  | _ => false

/-- The byte that ends a text, for a delimiter as it is written. -/
def delimiterOf (text? : Option String) : UInt8 :=
  match text? with
  | none => 10
  | some text => text.toList.head?.elim 0 Text.Octets.byte

/-- Read a text from the input into variables. -/
def readText (session : Session) (arguments : List String) : Session :=
  session.withChoices "read" "ers" "adinNptu" arguments fun options =>
    let array? := options.last? 'a'
    let names := options.operands
    let stream? := (options.last? 'u').elim (some 0) fun text =>
      Decimal.readNatural (2 ^ 31) text.toList
    let count? (letter : Char) : Option (Option Nat) :=
      (options.last? letter).map fun text => Decimal.readNatural (2 ^ 31) text.toList
    let count := (count? 'N').or (count? 'n')
    let badName? := (names ++ array?.toList).find? fun name => (target? name).isNone
    match stream?, (options.last? 't').filter (!isTime ·), count, badName? with
    | none, _, _, _ =>
      session.dispute "read"
        ((options.last? 'u').getD "" ++ ": invalid file descriptor specification")
    | _, some time, _, _ => session.dispute "read" (time ++ ": invalid timeout specification")
    | _, _, some none, _ =>
      session.dispute "read"
        (((options.last? 'N').or (options.last? 'n')).getD "" ++ ": invalid number")
    | _, _, _, some name => session.disputeName "read" name
    | some stream, none, count, none =>
      match session.inputOf? stream with
      | none =>
        session.dispute "read"
          (Decimal.digitText stream ++ ": invalid file descriptor: Bad file descriptor")
      | some input =>
        if (options.last? 't').any fun time => time.toList.all fun c => c == '0' || c == '.' then
          session.finish 0
        else
          let exact := options.has 'N'
          let bound : Bound :=
            ⟨delimiterOf (options.last? 'd'), count.bind id, exact, options.has 'r'⟩
          let (line, reached, behind) := readBounded bound bound.most? input.bytes
          let separators := session.separators
          let session := (session.returnInput stream behind).finish (if reached then 0 else 1)
          let trimmed := line.dropWhile (separatesAsSpace separators)
          match array?, names with
          | some array, _ =>
            session.offerTable array (lineFields separators (line.length + 1) trimmed)
          | none, [] => session.offerTo "REPLY" (lineText line)
          | none, name :: others =>
            if exact then
              session.eachOf ((name, lineText line) :: others.map fun name => (name, ""))
                fun session (name, value) => session.offerTo name value
            else session.offerFields separators names trimmed

/-- Pieces of bytes up to a delimiter each, with the delimiter if it is kept. -/
def splitBytes (delimiter : UInt8) : List UInt8 → List (List UInt8)
  | [] => []
  | byte :: rest =>
    if byte = delimiter then [byte] :: splitBytes delimiter rest
    else
      match splitBytes delimiter rest, rest with
      | first :: others, _ :: _ => (byte :: first) :: others
      | pieces, _ => [byte] :: pieces

/-- Read lines from the input into an array. -/
def readLines (session : Session) (name : String) (arguments : List String) : Session :=
  session.withChoices name "t" "dnOsuCc" arguments fun options =>
    let number (letter : Char) (usual : Nat) : Option Nat :=
      (options.last? letter).elim (some usual) fun text => Decimal.readNatural (2 ^ 31) text.toList
    let array := options.operands.headD "MAPFILE"
    let wrong (letter : Char) (what : String) : Session :=
      session.dispute name ((options.last? letter).getD "" ++ ": invalid " ++ what)
    match number 'n' 0, number 'O' 0, number 's' 0, number 'u' 0 with
    | none, _, _, _ => wrong 'n' "line count"
    | _, none, _, _ => wrong 'O' "array origin"
    | _, _, none, _ => wrong 's' "line count"
    | _, _, _, none => wrong 'u' "file descriptor specification"
    | some most, some origin, some skipped, some stream =>
      if array = "" then (session.dispute name "empty array variable name").finish 2
      else if !isName array then session.disputeName name array
      else
        let array := session.meant array
        match session.inputOf? stream, session.tables.lookup array with
        | none, _ =>
          session.dispute name
            (Decimal.digitText stream ++ ": invalid file descriptor: Bad file descriptor")
        | _, some (.keyed _) => session.dispute name (array ++ ": not an indexed array")
        | some input, table? =>
          if session.fixed.contains array then
            (session.complain (array ++ ": readonly variable")).finish 1
          else
            let delimiter := delimiterOf (options.last? 'd')
            let pieces := (splitBytes delimiter input.bytes).drop skipped
            let (taken, left) := if most = 0 then (pieces, []) else pieces.splitAt most
            let text (piece : List UInt8) : String :=
              let piece := if options.has 't' && piece.getLast? == some delimiter then
                piece.dropLast else piece
              Text.Octets.ofBytes (piece.filter (· != 0))
            let old := match table?, options.has 'O' with
              | some (.indexed elements), true => elements
              | _, _ => []
            let elements := (taken.map text).zipIdx.foldl (fun elements (value, n) =>
              Table.putAt (origin + n) value elements) old
            ((session.returnInput stream left.flatten).putTable array (.indexed elements)).finish 0

end Session

end Runbook.Shell
