import Runbook.Dictionary
import Runbook.Text.Blank
import Runbook.Text.Utf8

/-!
# Header fields and character sets

The fields of outgoing requests and of responses. A name may stand several times, and its case does
not matter, so names are kept in lower case. For the text of a response body, a mark at its front
tells the encoding, or else the type of the body does; UTF-8 is taken where neither names one that
is known.
-/

namespace Runbook.Http

/-- Fields in the order in which they were added. -/
abbrev Headers := List (String × String)

namespace Headers

/-- The values of a name, in order. -/
def values (headers : Headers) (name : String) : List String :=
  headers.filterMap fun field => if field.1 = name then some field.2 else none

/-- Whether a name has a value. -/
def has (headers : Headers) (name : String) : Bool := headers.any (·.1 == name)

/-- The fields of all other names. -/
def without (headers : Headers) (name : String) : Headers := headers.filter (·.1 ≠ name)

/-- Give a name a single value. -/
def set (headers : Headers) (name value : String) : Headers :=
  headers.without name ++ [(name, value)]

/-- Give a name a value if it has none. -/
def setDefault (headers : Headers) (name value : String) : Headers :=
  if headers.has name then headers else headers ++ [(name, value)]

end Headers

namespace Header

/-- Whether a character may stand in a name. -/
def isNameChar (c : Char) : Bool :=
  c.isAlphanum || "!#$%&'*+-.^_\x60|~".toList.contains c

/-- The length of the longest name. -/
def longestName : Nat := 65535

/-- Read a name, and bring it into lower case. -/
def readName (text : String) : Option String :=
  let chars := text.toList
  if chars.isEmpty || longestName < chars.length || !chars.all isNameChar then none
  else some (String.ofList (chars.map Char.toLower))

/-- Whether a character may stand in a value: no control character but the tab. -/
def isValueChar (c : Char) : Bool := (0x20 ≤ c.toNat && c.toNat != 0x7F) || c == '\t'

/-- Read a value. -/
def readValue (text : String) : Option String :=
  if text.toList.all isValueChar then some text else none

/-- Read a field. -/
def read (name value : String) : Option (String × String) := do
  return (← readName name, ← readValue value)

end Header

/-- The fields of a response, whose values are bytes. -/
abbrev ResponseHeaders := List (String × List UInt8)

namespace ResponseHeaders

/-- Whether a byte is a visible character, a space or a tab. -/
def isVisible (byte : UInt8) : Bool := (32 ≤ byte && byte < 127) || byte == 9

/-- The text of a value. A value that has other than visible characters counts as empty. -/
def valueText (bytes : List UInt8) : String :=
  if bytes.all isVisible then Text.Utf8.decodeLossy bytes else ""

/-- The first value of a name. -/
def first? (headers : ResponseHeaders) (name : String) : Option (List UInt8) :=
  headers.lookup name

/-- Enter one field into collected ones. -/
def collectField (collected : Dictionary String) (field : String × List UInt8) :
    Dictionary String :=
  let text := valueText field.2
  match collected.get? field.1 with
  | some earlier => collected.insert field.1 (earlier ++ ", " ++ text)
  | none => collected.insert field.1 text

/-- The fields as one text for each name. The values of a name that stands several times are
joined by commas. -/
def collect (headers : ResponseHeaders) : Dictionary String :=
  headers.foldl collectField []

end ResponseHeaders

/-! ## Character sets -/

/-- The encodings of text. -/
inductive Charset where
  | utf8
  /-- Two bytes for each unit, the high one first if `high` is set. -/
  | utf16 (high : Bool)
  /-- One byte for each character of the western alphabet. -/
  | western
deriving DecidableEq, Repr, Inhabited

namespace Charset

/-- The names of the encodings. -/
def names : List (String × Charset) :=
  ["utf-8", "utf8", "unicode-1-1-utf-8", "x-unicode20utf8"].map (·, utf8)
    ++ ["utf-16", "utf-16le", "unicode", "ucs-2", "iso-10646-ucs-2", "csunicode"].map
      (·, utf16 false)
    ++ ["utf-16be", "unicodefffe"].map (·, utf16 true)
    ++ ["iso-8859-1", "iso8859-1", "iso88591", "iso_8859-1", "latin1", "l1", "us-ascii", "ascii",
      "windows-1252", "cp1252", "x-cp1252", "cp819", "ibm819"].map (·, western)

/-- The encoding of a name. -/
def ofName? (name : String) : Option Charset :=
  names.lookup (String.ofList ((Text.trimChars name.toList).map Char.toLower))

/-- A text without quotes around it. -/
def unquoted (chars : List Char) : List Char :=
  match chars with
  | '"' :: rest => rest.takeWhile (· != '"')
  | _ => chars

/-- The encoding that the type of a body names. -/
def ofContentType? (type : String) : Option Charset :=
  (type.toList.splitOn ';').tail.findSome? fun parameter =>
    let key := Text.trimChars (parameter.takeWhile (· != '='))
    if key.map Char.toLower = "charset".toList then
      ofName? (String.ofList
        (unquoted (Text.trimChars ((parameter.dropWhile (· != '=')).drop 1))))
    else none

/-- The characters of the bytes 128 to 159 in the western alphabet. -/
def westernMarks : List Nat :=
  [0x20AC, 0x81, 0x201A, 0x192, 0x201E, 0x2026, 0x2020, 0x2021, 0x2C6, 0x2030, 0x160, 0x2039,
    0x152, 0x8D, 0x17D, 0x8F, 0x90, 0x2018, 0x2019, 0x201C, 0x201D, 0x2022, 0x2013, 0x2014, 0x2DC,
    0x2122, 0x161, 0x203A, 0x153, 0x9D, 0x17E, 0x178]

/-- The character of a byte in the western alphabet. -/
def westernChar (byte : UInt8) : Char :=
  if 128 ≤ byte ∧ byte < 160 then Char.ofNat (westernMarks.getD (byte.toNat - 128) 0)
  else Char.ofNat byte.toNat

/-- The units of two bytes. A byte that is left over at the end makes no whole unit. -/
def units (high : Bool) : List UInt8 → List (Option Nat)
  | [] => []
  | [_] => [none]
  | a :: b :: rest =>
    some (if high then a.toNat * 256 + b.toNat else b.toNat * 256 + a.toNat) :: units high rest

/-- The character of a unit that stands alone, which a surrogate has none of. -/
def unitChar (unit : Option Nat) : Char :=
  match unit with
  | some code => if code < 0xD800 ∨ 0xE000 ≤ code then Char.ofNat code else Text.Utf8.replacement
  | none => Text.Utf8.replacement

/-- The character of two units, if they are a pair of surrogates. -/
def pairChar? (high low : Option Nat) : Option Char := do
  let high ← high
  let low ← low
  if 0xD800 ≤ high ∧ high < 0xDC00 ∧ 0xDC00 ≤ low ∧ low < 0xE000 then
    return Char.ofNat (0x10000 + (high - 0xD800) * 1024 + (low - 0xDC00))
  else none

/-- The characters of units. -/
def unitChars : List (Option Nat) → List Char
  | [] => []
  | [unit] => [unitChar unit]
  | first :: second :: rest =>
    match pairChar? first second with
    | some c => c :: unitChars rest
    | none => unitChar first :: unitChars (second :: rest)

/-- The text of bytes in an encoding. -/
def decode : Charset → List UInt8 → String
  | .utf8, bytes => Text.Utf8.decodeLossy bytes
  | .utf16 high, bytes => String.ofList (unitChars (units high bytes))
  | .western, bytes => String.ofList (bytes.map westernChar)

/-- The text of a body, given the type of the body. -/
def bodyText (type : Option String) (bytes : List UInt8) : String :=
  match bytes with
  | 0xEF :: 0xBB :: 0xBF :: rest => decode .utf8 rest
  | 0xFE :: 0xFF :: rest => decode (.utf16 true) rest
  | 0xFF :: 0xFE :: rest => decode (.utf16 false) rest
  | _ => decode ((type.bind ofContentType?).getD .utf8) bytes

end Charset

end Runbook.Http
