import Runbook.Program.Numeral
import Runbook.Program.Options
import Runbook.Program.Tool

/-!
# Formats

A format is a text with conversions. It is used again while arguments are left. Other programs write
their arguments as they are, or again and again.
-/

namespace Runbook.Program.Printf

/-- What formats may hold. -/
structure Style where
  /-- The escapes in a format, and those in an argument that is written with its escapes. -/
  format : EscapeRules
  argument : EscapeRules
  /-- The numbers that need not be whole. -/
  precision : Numeral.Precision
  /-- Whether letters that say how wide a number is may stand in front of a kind, and flags rule out
  kinds. -/
  formal : Bool

/-- The formats of the program. -/
def programStyle : Style where
  format := ⟨false, true, true, true⟩
  argument := ⟨true, true, false, true⟩
  precision := ⟨64, 16384, -16445⟩
  formal := true

/-- The formats of a shell. -/
def shellStyle : Style where
  format := ⟨false, false, true, false⟩
  argument := ⟨true, false, true, false⟩
  precision := ⟨53, 1024, -1074⟩
  formal := false

/-- A conversion of one argument. -/
structure Conversion where
  leftAligned : Bool
  zeroPadded : Bool
  signed : Bool
  spaced : Bool
  alternate : Bool
  grouped : Bool
  width : Nat
  precision : Option Nat
  kind : Char
deriving DecidableEq, Repr, Inhabited

/-- A text that is not the number that it should be. -/
structure Complaint where
  text : String
  fault : NumeralFault
deriving DecidableEq, Repr, Inhabited

/-- Why a format is not written to its end. -/
inductive Fault where
  | unknownConversion (text : String)
  | badEscape (fault : EscapeFault)
deriving DecidableEq, Repr, Inhabited

/-- What is written, or a complaint in between. -/
inductive Piece where
  | bytes (bytes : List UInt8)
  | complaint (complaint : Complaint)
deriving Inhabited

/-- What was written, and how that ended. -/
structure Written where
  pieces : List Piece
  /-- Whether writing goes on. -/
  goesOn : Bool
  /-- What ended the writing too early. -/
  fault? : Option Fault
deriving Inhabited

/-- Bytes that are written without a complaint. -/
def Written.ofBytes (bytes : List UInt8) : Written := ⟨[.bytes bytes], true, none⟩

/-- The bytes without the complaints. -/
def Written.bytes (written : Written) : List UInt8 :=
  written.pieces.flatMap fun
    | .bytes bytes => bytes
    | .complaint _ => []

/-- The complaints without the bytes. -/
def Written.complaints (written : Written) : List Complaint :=
  written.pieces.filterMap fun
    | .bytes _ => none
    | .complaint complaint => some complaint

/-- A text filled up to a width. -/
def pad (conversion : Conversion) (bytes : List UInt8) : List UInt8 :=
  let fill := List.replicate (conversion.width - bytes.length) 32
  if conversion.leftAligned then bytes ++ fill else fill ++ bytes

/-- The digits of a number with a sign or a mark in front of them. Zeros fill them up to a number of
digits, if one is given, or else to the width, if it is filled with zeros. -/
def layNumber (conversion : Conversion) (least : Option Nat) (front digits : String) :
    List UInt8 :=
  let count := least.getD
    (if conversion.zeroPadded && !conversion.leftAligned then conversion.width - front.length
    else 0)
  pad conversion (Text.Octets.toBytes (front ++ Decimal.zeros (count - digits.length) ++ digits))

/-- The sign of a number. -/
def signText (conversion : Conversion) (negative : Bool) : String :=
  if negative then "-" else if conversion.signed then "+" else if conversion.spaced then " " else ""

/-- A whole number in the form that a conversion asks for. -/
def writeInteger (conversion : Conversion) (n : Int) : List UInt8 :=
  let digits (base : Nat) : String :=
    if n = 0 ∧ conversion.precision = some 0 then "" else
      String.ofList (Nat.toDigits base n.natAbs)
  let front (mark : String) : String := if conversion.alternate && n != 0 then mark else ""
  let lay (front digits : String) : List UInt8 :=
    layNumber conversion conversion.precision front digits
  match conversion.kind with
  | 'o' =>
    let text := digits 8
    lay "" (if conversion.alternate && !text.startsWith "0" then "0" ++ text else text)
  | 'x' => lay (front "0x") (digits 16)
  | 'X' => lay (front "0X") (digits 16).toUpper
  | 'u' => lay "" (digits 10)
  | _ => lay (signText conversion (n < 0)) (digits 10)

/-- A number in the form that a conversion asks for. -/
def writeReal (style : Style) (conversion : Conversion) (x : Numeral.Real) : List UInt8 :=
  let cased (text : String) : String := if conversion.kind.isUpper then text.toUpper else text
  let word (negative : Bool) (text : String) : List UInt8 :=
    pad conversion (Text.Octets.toBytes (signText conversion negative ++ cased text))
  match x with
  | .infinite negative => word negative "inf"
  | .notANumber negative => word negative "nan"
  | .finite negative x =>
    let places := conversion.precision.getD 6
    let text := match conversion.kind.toLower with
      | 'f' => x.fixedText conversion.alternate places
      | 'e' => x.scientificText conversion.alternate places
      | 'g' => x.generalText conversion.alternate places
      | _ => x.hexText style.precision.bits conversion.alternate conversion.precision
    let sign := signText conversion negative
    if conversion.kind.toLower = 'a' then
      layNumber conversion none (sign ++ cased "0x") (cased (String.ofList (text.toList.drop 2)))
    else layNumber conversion none sign (cased text)

/-- The kinds of conversions of numbers that need not be whole. -/
def realKinds : List Char := "aAeEfFgG".toList

/-- The kinds of conversions of whole numbers. -/
def integerKinds : List Char := "dioxXu".toList

/-- What the reading of a number is written as. -/
def writtenReading {α : Type} (text : String) (reading : Reading α) (bytes : α → List UInt8) :
    Written :=
  let complaints := reading.fault?.toList.map fun fault => Piece.complaint ⟨text, fault⟩
  ⟨complaints ++ [.bytes (bytes reading.value)], true, none⟩

/-- Convert an argument. One that is missing counts as empty. -/
def convert (style : Style) (conversion : Conversion) (argument : Option String) : Written :=
  let text := argument.getD ""
  let cut (bytes : List UInt8) : List UInt8 :=
    match conversion.precision with
    | some most => bytes.take most
    | none => bytes
  if conversion.kind = 's' then .ofBytes (pad conversion (cut (Text.Octets.toBytes text)))
  else if conversion.kind = 'c' then
    .ofBytes (pad conversion [(Text.Octets.toBytes text).headD 0])
  else if conversion.kind = 'b' then
    let (bytes, ending) := unescapeText style.argument text
    let fault? := match ending with
      | .broken fault => some (.badEscape fault)
      | _ => none
    ⟨[.bytes (pad conversion (cut bytes))], ending.goesOn, fault?⟩
  else if conversion.kind = 'q' then .ofBytes (Text.Octets.toBytes (Mention.shellWord text))
  else if realKinds.contains conversion.kind then
    writtenReading text (Numeral.readReal style.precision text) (writeReal style conversion)
  else if conversion.kind = 'd' ∨ conversion.kind = 'i' then
    writtenReading text (Numeral.readSigned text) (writeInteger conversion)
  else writtenReading text (Numeral.readUnsigned text) (writeInteger conversion)

/-- Read the flags of a conversion. -/
def readFlags (style : Style) (conversion : Conversion) : List Char → Conversion × List Char
  | [] => (conversion, [])
  | c :: rest =>
    match c with
    | '-' => readFlags style { conversion with leftAligned := true } rest
    | '0' => readFlags style { conversion with zeroPadded := true } rest
    | '+' => readFlags style { conversion with signed := true } rest
    | ' ' => readFlags style { conversion with spaced := true } rest
    | '#' => readFlags style { conversion with alternate := true } rest
    | '\'' =>
      if style.formal then readFlags style { conversion with grouped := true } rest
      else (conversion, c :: rest)
    | _ => (conversion, c :: rest)

/-- Read a number of characters, which may be an argument. -/
def readCount (chars : List Char) (arguments : List String) :
    Option Int × List Char × List String :=
  match chars with
  | '*' :: rest =>
    (some (arguments.head?.elim 0 fun text => (Numeral.readSigned text).value), rest,
      arguments.tail)
  | _ =>
    match Numeral.readRun Decimal.digit? 10 chars with
    | some (n, _, rest) => (some n, rest, arguments)
    | none => (none, chars, arguments)

/-- Whether flags, or a precision, rule out the kind of a conversion. -/
def Conversion.ruledOut (conversion : Conversion) : Bool :=
  (conversion.alternate && "cdisu".toList.contains conversion.kind)
    || (conversion.zeroPadded && "cs".toList.contains conversion.kind)
    || (conversion.grouped && "aAceEosxX".toList.contains conversion.kind)
    || (conversion.precision.isSome && conversion.kind == 'c')

/-- Whether a conversion is one of a style; `plain` says that its kind follows the percent sign. -/
def Conversion.isKnown (style : Style) (plain : Bool) (conversion : Conversion) : Bool :=
  let kind := conversion.kind
  if kind == 'b' then plain || !style.formal
  else if kind == 'q' then plain && style.formal
  else
    (kind == 's' || kind == 'c' || integerKinds.contains kind || realKinds.contains kind)
      && !(style.formal && conversion.ruledOut)

/-- A conversion, what stands behind it, and the arguments that are left for it. -/
structure Opened where
  conversion : Conversion
  rest : List Char
  arguments : List String

/-- Read a conversion behind its percent sign, unless it is none; then its text is the result. -/
def readConversion (style : Style) (chars : List Char) (arguments : List String) :
    Except String Opened :=
  let (conversion, rest) :=
    readFlags style ⟨false, false, false, false, false, false, 0, none, 's'⟩ chars
  let (width, rest, arguments) := readCount rest arguments
  let (precision, rest, arguments) : Option Int × List Char × List String :=
    match rest with
    | '.' :: rest =>
      let (count, rest, arguments) := readCount rest arguments
      (some (count.getD 0), rest, arguments)
    | rest => (none, rest, arguments)
  let rest := if style.formal then rest.dropWhile "hlLjtz".toList.contains else rest
  let width := width.getD 0
  let conversion :=
    { conversion with
      leftAligned := conversion.leftAligned || width < 0
      width := width.natAbs
      precision := (precision.filter (0 ≤ ·)).map Int.toNat }
  let text (behind : List Char) : String :=
    String.ofList ('%' :: chars.take (chars.length - behind.length))
  match rest with
  | kind :: behind =>
    let conversion := { conversion with kind := kind }
    if conversion.isKnown style (rest.length == chars.length) then
      .ok ⟨conversion, behind, arguments⟩
    else .error (text behind)
  | [] => .error (text [])

/-- The state of writing. What was written stands with its last piece first. -/
structure State where
  written : Written
  arguments : List String
  /-- Whether the format has conversions. -/
  converts : Bool

/-- Add what was written. -/
def State.add (state : State) (more : Written) : State :=
  { state with
    written :=
      { more with pieces := more.pieces.reverse ++ state.written.pieces } }

/-- End the writing. -/
def State.finish (state : State) (fault? : Option Fault) : State :=
  state.add ⟨[], false, fault?⟩

/-- Write a format once. -/
def writeOnce (style : Style) : (fuel : Nat) → List Char → State → State
  | 0, _, state => state
  | _ + 1, [], state => state
  | fuel + 1, '%' :: '%' :: rest, state =>
    writeOnce style fuel rest (state.add (.ofBytes [37]))
  | fuel + 1, '%' :: rest, state =>
    match readConversion style rest state.arguments with
    | .error text => state.finish (some (.unknownConversion text))
    | .ok opened =>
      let state :=
        { state.add (convert style opened.conversion opened.arguments.head?) with
          arguments := opened.arguments.tail
          converts := true }
      if state.written.goesOn then writeOnce style fuel opened.rest state else state
  | fuel + 1, '\\' :: rest, state =>
    match readEscape style.format rest with
    | .stop => state.finish none
    | .broken fault => state.finish (some (.badEscape fault))
    | .bytes bytes rest => writeOnce style fuel rest (state.add (.ofBytes bytes))
  | fuel + 1, c :: rest, state =>
    writeOnce style fuel rest (state.add (.ofBytes ([Text.Octets.byte c])))

/-- Write a format again while it uses up arguments. -/
def writeAll (style : Style) (format : List Char) : (fuel : Nat) → State → State
  | 0, state => state
  | fuel + 1, state =>
    let state := writeOnce style (format.length + 1) format state
    if state.arguments.isEmpty || !state.converts || !state.written.goesOn then state
    else writeAll style format fuel state

/-- Write arguments in a format: what was written, and the arguments that are left because nothing
in the format asks for them. -/
def write (style : Style) (format : String) (arguments : List String) : Written × List String :=
  let state := writeAll style format.toList (arguments.length + 1) ⟨.ofBytes [], arguments, false⟩
  ({ state.written with pieces := state.written.pieces.reverse },
    if state.written.goesOn then state.arguments else [])

end Runbook.Program.Printf

/-! ## Echoes -/

namespace Runbook.Program.Tool

/-- Whether an argument holds nothing but letters of options behind a dash. -/
def isFlags (letters : List Char) (argument : String) : Bool :=
  match argument.toList with
  | '-' :: c :: rest => (c :: rest).all letters.contains
  | _ => false

/-- Write the arguments with blanks between them. -/
def echo : Tool := fun arguments _ =>
  let (flags, words) := arguments.span (isFlags ['n', 'e', 'E'])
  let letters := flags.flatMap fun flag => flag.toList
  let escapes := (letters.filter fun c => c == 'e' || c == 'E').getLast? == some 'e'
  let text := " ".intercalate words
  let (bytes, ending) :=
    if escapes then unescapeText ⟨true, true, false, false⟩ text
    else (Text.Octets.toBytes text, .whole)
  succeed (if letters.contains 'n' || !ending.goesOn then bytes else bytes ++ [10])

/-- The wording of a complaint about a number in a format. -/
def complaintText (complaint : Printf.Complaint) : String :=
  Mention.marked complaint.text ++ ": " ++ match complaint.fault with
    | .notNumeric => "expected a numeric value"
    | .notComplete => "value not completely converted"
    | .outOfRange => "Numerical result out of range"

/-- The wording of what ends the writing of a format. -/
def formatFaultText : Printf.Fault → String
  | .unknownConversion text => text ++ ": invalid conversion specification"
  | .badEscape fault => fault.message

/-- Write the arguments in a format. -/
def printf : Tool := fun arguments supply =>
  match (if arguments.head? = some "--" then arguments.tail else arguments) with
  | [] => refuse supply.name "missing operand"
  | format :: arguments =>
    let (written, excess) := Printf.write Printf.programStyle format arguments
    let complain (text : String) : Channel × List UInt8 := told (supply.name ++ ": " ++ text)
    let pieces := written.pieces.map fun
      | .bytes bytes => shown bytes
      | .complaint complaint => complain (complaintText complaint)
    let fault := written.fault?.toList.map fun fault => complain (formatFaultText fault)
    let run := concludeWith 1 (pieces ++ fault)
    let warning := excess.head?.toList.map fun text =>
      complain ("warning: ignoring excess arguments, starting with " ++ Mention.shellQuoted text)
    { run with written := run.written ++ warning }

/-- How many bytes of an output without an end are looked at. -/
def endlessLength : Nat := 2 ^ 22

/-- A program that writes some bytes again and again. -/
def endless (bytes : List UInt8) : Run :=
  { succeed (List.replicate (endlessLength / (bytes.length + 1) + 1) bytes).flatten with
    milliseconds := none }

/-- Write a word again and again. -/
def yes : Tool := fun arguments supply =>
  withOptions supply.name "" arguments fun options =>
    let words := options.operands
    endless (Text.Octets.toBytes (if words.isEmpty then "y" else " ".intercalate words) ++ [10])

end Runbook.Program.Tool
