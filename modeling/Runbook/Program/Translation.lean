import Runbook.Program.Escape
import Runbook.Program.Lines

/-!
# Translations

The program that puts bytes in the place of others, takes them out, or keeps one of each row of
equal ones.
-/

namespace Runbook.Program.Tool

/-- A part of a set of bytes as it is written. -/
inductive SetPart where
  | bytes (bytes : List UInt8)
  /-- The bytes of a class. -/
  | named (name : String) (bytes : List UInt8)
  /-- A byte as often as it takes to make two sets equally long. -/
  | filling (byte : UInt8)
deriving DecidableEq, Repr, Inhabited

namespace SetPart

/-- The classes of bytes by their names. -/
def classes : List (String × (UInt8 → Bool)) :=
  let isUpper (b : UInt8) : Bool := 65 ≤ b && b ≤ 90
  let isLower (b : UInt8) : Bool := 97 ≤ b && b ≤ 122
  let isDigit (b : UInt8) : Bool := 48 ≤ b && b ≤ 57
  let isAlnum (b : UInt8) : Bool := isUpper b || isLower b || isDigit b
  [("alnum", isAlnum), ("alpha", fun b => isUpper b || isLower b),
    ("blank", fun b => b == 32 || b == 9), ("cntrl", fun b => b < 32 || b == 127),
    ("digit", isDigit), ("graph", fun b => 32 < b && b < 127), ("lower", isLower),
    ("print", fun b => 32 ≤ b && b < 127),
    ("punct", fun b => 32 < b && b < 127 && !isAlnum b), ("space", isWhite),
    ("upper", isUpper),
    ("xdigit", fun b => isDigit b || (65 ≤ b && b ≤ 70) || (97 ≤ b && b ≤ 102))]

/-- All bytes. -/
def allBytes : List UInt8 := (List.range 256).map Nat.toUInt8

/-- A byte as a complaint shows it. -/
def shown (byte : UInt8) : String :=
  if 32 ≤ byte && byte < 127 then String.ofList [Text.Octets.char byte]
  else "\\" ++ fillFront '0' 3 (String.ofList (Nat.toDigits 8 byte.toNat))

/-- The bytes behind a backslash, and the rest. -/
def readEscaped (chars : List Char) : UInt8 × List Char :=
  match chars with
  | [] => (92, [])
  | c :: rest =>
    match readDigits octalDigit? 8 3 none chars with
    | (some value, behind) =>
      if value < 256 then (value.toUInt8, behind)
      else ((value / 8).toUInt8, chars.drop 2)
    | (none, _) =>
      let letters : List (Char × UInt8) :=
        [('a', 7), ('b', 8), ('f', 12), ('n', 10), ('r', 13), ('t', 9), ('v', 11)]
      ((letters.lookup c).getD (Text.Octets.byte c), rest)

/-- The bytes of a set as they are written, and whether each was protected by a backslash. -/
def unescaped : (fuel : Nat) → List Char → List (Bool × UInt8)
  | 0, _ => []
  | _ + 1, [] => []
  | fuel + 1, c :: rest =>
    if c = '\\' then
      let (byte, behind) := readEscaped rest
      (true, byte) :: unescaped fuel behind
    else (false, Text.Octets.byte c) :: unescaped fuel rest

/-- The text of some bytes. -/
def textOf (bytes : List (Bool × UInt8)) : String := Text.Octets.ofBytes (bytes.map (·.2))

/-- Read what stands between brackets and marks, and the text behind them. -/
def spanMarked (mark : UInt8) : List (Bool × UInt8) →
    Option (List (Bool × UInt8) × List (Bool × UInt8))
  | [] => none
  | byte :: rest =>
    match byte, rest with
    | (false, b), (false, 93) :: behind =>
      if b == mark then some ([], behind)
      else (spanMarked mark rest).map fun (inside, behind) => (byte :: inside, behind)
    | _, _ => (spanMarked mark rest).map fun (inside, behind) => (byte :: inside, behind)

/-- Read a repetition behind its bracket: a byte, an asterisk, and a number up to a bracket. A
number that begins with zero is one in base 8. -/
def readRepetition? (bytes : List (Bool × UInt8)) :
    Option (Except String SetPart × List (Bool × UInt8)) :=
  match bytes with
  | (_, byte) :: (false, 42) :: rest =>
    match rest.span fun b => b.2 != 93 with
    | (digits, (false, _) :: behind) =>
      let text := (textOf digits).toList
      let count? := if text.head? = some '0' then
          match readDigits octalDigit? 8 text.length none text with
          | (some n, []) => some n
          | _ => none
        else Decimal.readNatural (2 ^ 32) text
      if text.isEmpty ∨ count? = some 0 then some (.ok (.filling byte), behind)
      else
        match count? with
        | some n => some (.ok (.bytes (List.replicate n byte)), behind)
        | none =>
          some (.error ("invalid repeat count " ++ Mention.marked (textOf digits)
            ++ " in [c*n] construct"), behind)
    | _ => none
  | _ => none

/-- Read the parts of a set. -/
def readAll : (fuel : Nat) → List (Bool × UInt8) → Except String (List SetPart)
  | 0, _ => .ok []
  | _ + 1, [] => .ok []
  | fuel + 1, (quoted, byte) :: rest => do
    let single (_ : Unit) : Except String (List SetPart) :=
      match rest with
      | (false, 45) :: (_, last) :: behind => do
        if last < byte then
          throw ("range-endpoints of '" ++ shown byte ++ "-" ++ shown last
            ++ "' are in reverse collating sequence order")
        let range := (List.range (last.toNat + 1 - byte.toNat)).map fun n => byte + n.toUInt8
        return .bytes range :: (← readAll fuel behind)
      | _ => do return .bytes [byte] :: (← readAll fuel rest)
    if quoted ∨ byte ≠ 91 then single ()
    else
      match rest with
      | (false, 58) :: inside =>
        match spanMarked 58 inside with
        | some (name, behind) =>
          let name := textOf name
          match classes.lookup name with
          | some test =>
            return .named name (allBytes.filter test) :: (← readAll fuel behind)
          | none =>
            if name = "" then throw "missing character class name '[::]'"
            match readRepetition? rest with
            | some (part, behind) => return (← part) :: (← readAll fuel behind)
            | none => throw ("invalid character class " ++ Mention.marked name)
        | none => single ()
      | (false, 61) :: inside =>
        match spanMarked 61 inside with
        | some ([(_, byte)], behind) => return .bytes [byte] :: (← readAll fuel behind)
        | some ([], _) => throw "missing equivalence class character '[==]'"
        | some (name, _) =>
          match readRepetition? rest with
          | some (part, behind) => return (← part) :: (← readAll fuel behind)
          | none =>
            throw (textOf name ++ ": equivalence class operand must be a single character")
        | none => single ()
      | rest =>
        match readRepetition? rest with
        | some (part, behind) => return (← part) :: (← readAll fuel behind)
        | none => single ()

/-- Read a set. -/
def read (text : String) : Except String (List SetPart) :=
  readAll (text.length + 1) (unescaped (text.length + 1) text.toList)

/-- How long a set is without what fills it. -/
def size (parts : List SetPart) : Nat :=
  (parts.map fun part => match part with
    | .bytes list | .named _ list => list.length
    | .filling _ => 0).sum

/-- The bytes of a set; what fills it makes it as long as asked for. -/
def bytesOf (length : Nat) (parts : List SetPart) : List UInt8 :=
  let missing := length - size parts
  parts.flatMap fun part => match part with
    | .bytes list | .named _ list => list
    | .filling byte => List.replicate missing byte

end SetPart

/-- One byte in the place of a row of equal ones out of a set. -/
def squeeze (set : List UInt8) : (last? : Option UInt8) → List UInt8 → List UInt8
  | _, [] => []
  | last?, byte :: rest =>
    if last? == some byte && set.contains byte then squeeze set last? rest
    else byte :: squeeze set (some byte) rest

/-- The bytes that stand in the place of some others, by their places. The last one stands for all
that are left. Letters of one case stand for those of the other one. -/
def translationOf (old new : List SetPart) (inverted truncated : Bool) : UInt8 → UInt8 :=
  let listed := SetPart.bytesOf 0 old
  let source := if inverted then SetPart.allBytes.filter (!listed.contains ·) else listed
  let target := SetPart.bytesOf source.length new
  let source := if truncated then source.take target.length else source
  let last := target.getLast?
  let pairs := source.zipIdx.map fun (byte, index) =>
    (byte, (target[index]?).getD (last.getD byte))
  let table : Array UInt8 := (pairs.foldl (fun (table : Array UInt8) (byte, image) =>
    table.setIfInBounds byte.toNat image) SetPart.allBytes.toArray)
  fun byte => table.getD byte.toNat byte

/-- What is wrong with two sets that are to be translated. -/
def translationFault? (old new : List SetPart) (inverted truncated : Bool) : Option String :=
  let fills (parts : List SetPart) : Nat := parts.countP fun part => match part with
    | .filling _ => true
    | _ => false
  let isCase (name : String) : Bool := name == "upper" || name == "lower"
  let classNames (parts : List SetPart) : List String := parts.filterMap fun part =>
    match part with
    | .named name _ => some name
    | _ => none
  if 0 < fills old then some "the [c*] repeat construct may not appear in string1"
  else if 1 < fills new then
    some "only one [c*] repeat construct may appear in string2"
  else if new.isEmpty ∧ !truncated ∧ !old.isEmpty then
    some "when not truncating set1, string2 must be non-empty"
  else if (classNames new).any (!isCase ·) then
    some ("when translating, the only character classes that may appear in\n"
      ++ "string2 are 'upper' and 'lower'")
  else if inverted ∧ (classNames old).length ≠ 0 ∧
      (SetPart.bytesOf 256 new).eraseDups.length ≠ 1 then
    some ("when translating with complemented character classes,\n"
      ++ "string2 must map all characters in the domain to one")
  else if (classNames new).length ≠ 0 ∧ !(classNames old).any isCase then
    some "misaligned [:upper:] and/or [:lower:] construct"
  else none

/-- Put other bytes in the place of some, take them out, or keep one of each row of them. -/
def tr : Tool := fun arguments supply =>
  let table := "c|complement C d|delete s|squeeze-repeats t|truncate-set1"
  withOptionsBy ⟨1, table, Options.isOperand⟩ supply.name arguments fun options =>
    let inverted := options.has "c" || options.has "C"
    let (deletes, squeezes) := (options.has "d", options.has "s")
    let operands := options.operands
    let needed := if deletes == squeezes then 2 else 1
    let most := if deletes && !squeezes then 1 else 2
    if operands.isEmpty then refuse supply.name "missing operand"
    else if operands.length < needed then
      let why := if squeezes
        then "Two strings must be given when both deleting and squeezing repeats."
        else "Two strings must be given when translating."
      fail 1 [] [supply.name ++ ": missing operand after "
          ++ Mention.marked (operands.getLastD ""), why,
        helpHint supply.name]
    else if most < operands.length then
      let hint := if operands.length = 2
        then ["Only one string may be given when deleting without squeezing repeats."] else []
      fail 1 [] ((supply.name ++ ": " ++ extraOperand (operands.getD most "")) :: hint
        ++ [helpHint supply.name])
    else
      match SetPart.read (operands.headD ""), SetPart.read (operands.getD 1 "") with
      | .error text, _ | _, .error text => fail 1 [] [supply.name ++ ": " ++ text]
      | .ok first, .ok second =>
        let input := supply.input.bytes
        let listed := SetPart.bytesOf 0 first
        let inFirst (byte : UInt8) : Bool := listed.contains byte != inverted
        let firstSet := SetPart.allBytes.filter inFirst
        let secondSet := SetPart.bytesOf 0 second
        if deletes then
          let kept := input.filter (!inFirst ·)
          succeed (if squeezes then squeeze secondSet none kept else kept)
        else if operands.length = 1 then succeed (squeeze firstSet none input)
        else
          match translationFault? first second inverted (options.has "t") with
          | some text => fail 1 [] [supply.name ++ ": " ++ text]
          | none =>
            let translated := input.map (translationOf first second inverted (options.has "t"))
            let target := SetPart.bytesOf firstSet.length second
            succeed (if squeezes then squeeze target none translated else translated)

end Runbook.Program.Tool
