import Runbook.Program.Date.Format
import Runbook.Program.Printf
import Runbook.Shell.Extended.Quotation

/-!
# Formats of the extended language
-/

namespace Runbook.Shell.Extended.Printf

open Program (readDigits octalDigit? Numeral.readReal Numeral.readSigned Numeral.readUnsigned)
open Program.Printf

/-- The formats, where numbers are concerned. -/
def style : Style := { shellStyle with precision := ⟨64, 16384, -16445⟩ }

/-- Where escapes stand: in a format, in an argument that is written with its escapes, or in what
the shell echoes. -/
inductive EscapePlace where
  | format
  | argument
  | echo
deriving DecidableEq, Repr, Inhabited

/-- Read the escape behind a backslash: what it stands for, or `none` if nothing more is to be
written, and the text behind it. -/
def readEscape (place : EscapePlace) (chars : List Char) : Option (List Char) × List Char :=
  match chars with
  | [] => (some ['\\'], [])
  | 'c' :: rest => if place = .format then (some ['\\', 'c'], rest) else (none, [])
  | c :: rest =>
    if c = '\'' ∨ c = '"' ∨ c = '?' then
      if place = .format then (some [c], rest)
      else if place = .argument ∧ c ≠ '?' then (some [c], rest)
      else (some ['\\', c], rest)
    else if c = '0' ∧ place ≠ .format then
      match readDigits octalDigit? 8 3 none rest with
      | (some n, behind) => (some [Char.ofNat (n % 256)], behind)
      | (none, _) => (some ['\x00'], rest)
    else if (octalDigit? c).isSome ∧ place = .echo then (some ['\\', c], rest)
    else
      let (chars, behind) := readQuotedEscape (c :: rest)
      (some chars, behind)

/-- A text with its escapes taken, and whether writing goes on behind it. -/
def unescape (place : EscapePlace) : (fuel : Nat) → List Char → List Char × Bool
  | 0, _ | _ + 1, [] => ([], true)
  | fuel + 1, '\\' :: rest =>
    match readEscape place rest with
    | (none, _) => ([], false)
    | (some chars, behind) =>
      let (later, goesOn) := unescape place fuel behind
      (chars ++ later, goesOn)
  | fuel + 1, c :: rest =>
    let (later, goesOn) := unescape place fuel rest
    (c :: later, goesOn)

/-- What was written so far. -/
structure Page where
  bytes : List UInt8
  complaints : List String
  arguments : List String
  /-- Whether a conversion has been written. -/
  converts : Bool
  goesOn : Bool

/-- Take an argument. One that is missing is empty. -/
def Page.take (page : Page) : String × Page :=
  (page.arguments.headD "", { page with arguments := page.arguments.tail, converts := true })

/-- Write bytes. -/
def Page.write (page : Page) (bytes : List UInt8) : Page :=
  { page with bytes := page.bytes ++ bytes }

/-- Tell what is wrong with a number. -/
def Page.judge {α : Type} (page : Page) (text : String) (reading : Program.Reading α) : Page :=
  match reading.fault? with
  | none => page
  | some .outOfRange =>
    { page with complaints := page.complaints ++ [text ++ ": Numerical result out of range"] }
  | some _ => { page with complaints := page.complaints ++ [text ++ ": invalid number"] }

/-- A width or a precision, which may be an argument. -/
def readCount (chars : List Char) (page : Page) : Option Int × List Char × Page :=
  match chars with
  | '*' :: rest =>
    let (text, page) := page.take
    let reading := Numeral.readSigned text
    (some reading.value, rest, page.judge text reading)
  | chars =>
    match Program.Numeral.readRun Decimal.digit? 10 chars with
    | some (n, _, rest) => (some n, rest, page)
    | none => (none, chars, page)

/-- Write an argument by a conversion. -/
def convert (now : Int) (conversion : Conversion) (page : Page) : Page :=
  let (text, after) := page.take
  let bytes := Text.Octets.toBytes text
  let cut (bytes : List UInt8) : List UInt8 :=
    match conversion.precision with
    | some most => bytes.take most
    | none => bytes
  match conversion.kind with
  | 's' => after.write (pad conversion (cut bytes))
  | 'c' => after.write (pad conversion (bytes.take 1))
  | 'b' =>
    let (chars, goesOn) := unescape .argument (text.length + 1) text.toList
    { after.write (pad conversion (cut (Text.Octets.toBytes (String.ofList chars)))) with
      goesOn := goesOn }
  | 'q' => after.write (pad conversion (cut (Text.Octets.toBytes (Quotation.short text))))
  | 'Q' => after.write (pad conversion (Text.Octets.toBytes (Quotation.short
      (String.ofList (Text.Octets.chars (cut bytes))))))
  | 'd' | 'i' =>
    let reading := Numeral.readSigned text
    (after.write (writeInteger conversion reading.value)).judge text reading
  | 'o' | 'x' | 'X' | 'u' =>
    let reading := Numeral.readUnsigned text
    (after.write (writeInteger conversion reading.value)).judge text reading
  | 'T' =>
    let reading := Numeral.readSigned text
    let seconds := if page.arguments.isEmpty ∨ reading.value < 0 then now else reading.value
    after.write (pad conversion (Text.Octets.toBytes (toString seconds)))
  | _ =>
    let reading := Numeral.readReal style.precision text
    (after.write (writeReal style conversion reading.value)).judge text reading

/-- The kinds of conversions. -/
def kinds : List Char := "diouxXfFeEgGaAscbqQ".toList

/-- Write a format once. -/
def writeOnce (now : Int) (dateText : (format : String) → (seconds : Int) → String) :
    (fuel : Nat) → List Char → Page → Page
  | 0, _, page | _ + 1, [], page => page
  | fuel + 1, '%' :: '%' :: rest, page => writeOnce now dateText fuel rest (page.write [37])
  | fuel + 1, '%' :: rest, page =>
    let stop (page : Page) (complaint : String) : Page :=
      { page with complaints := page.complaints ++ [complaint], goesOn := false, arguments := [] }
    let (conversion, behind) := readFlags { style with formal := true }
      ⟨false, false, false, false, false, false, 0, none, 's'⟩ rest
    let (width?, behind, page) := readCount behind page
    let (precision?, behind, page) : Option Int × List Char × Page := match behind with
      | '.' :: behind =>
        let (count?, behind, page) := readCount behind page
        (some (count?.getD 0), behind, page)
      | behind => (none, behind, page)
    let behind := behind.dropWhile "hlLjtz".toList.contains
    let width := width?.getD 0
    let conversion := { conversion with
      leftAligned := conversion.leftAligned || width < 0
      width := width.natAbs
      precision := (precision?.filter (0 ≤ ·)).map Int.toNat }
    match behind with
    | [] =>
      stop page ("\x60%" ++ String.ofList rest ++ "': missing format character")
    | '(' :: inside =>
      let (format, behind) := inside.span (· != ')')
      match behind with
      | ')' :: 'T' :: behind =>
        let (text, after) := page.take
        let reading := Numeral.readSigned text
        let seconds := if page.arguments.isEmpty ∨ reading.value < 0 then now else reading.value
        let shown := dateText (String.ofList format) seconds
        writeOnce now dateText fuel behind
          ((after.write (pad conversion (Text.Octets.toBytes shown))).judge text
            (if page.arguments.isEmpty then ⟨(0 : Int), none⟩ else reading))
      | _ => stop page ("\x60(': invalid format character")
    | kind :: behind =>
      if !kinds.contains kind then
        stop page ("\x60" ++ String.ofList [kind] ++ "': invalid format character")
      else
        let page := convert now { conversion with kind := kind } page
        if page.goesOn then writeOnce now dateText fuel behind page else page
  | fuel + 1, '\\' :: rest, page =>
    let (chars?, behind) := readEscape .format rest
    let bytes := Text.Octets.toBytes (String.ofList (chars?.getD []))
    writeOnce now dateText fuel behind (page.write bytes)
  | fuel + 1, c :: rest, page =>
    writeOnce now dateText fuel rest (page.write [Text.Octets.byte c])

/-- Write a format again while it uses up arguments. -/
def writeAll (now : Int) (dateText : String → Int → String) (format : List Char) :
    (fuel : Nat) → Page → Page
  | 0, page => page
  | fuel + 1, page =>
    let page := writeOnce now dateText (format.length + 1) format { page with converts := false }
    if page.arguments.isEmpty || !page.converts || !page.goesOn then page
    else writeAll now dateText format fuel page

/-- Write arguments in a format. -/
def write (now : Int) (dateText : String → Int → String) (format : String)
    (arguments : List String) : Page :=
  writeAll now dateText format.toList (arguments.length + 1) ⟨[], [], arguments, false, true⟩

end Runbook.Shell.Extended.Printf
