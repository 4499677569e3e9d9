import Runbook.Text.Utf8
import Runbook.Yaml.Block
import Runbook.Yaml.Quoted

/-!
# Anchors, tags and directives

What may stand in front of a node or of a document.
-/

namespace Runbook.Yaml

/-- Read the name of an anchor or an alias. -/
def scanName (chars : List Char) : Option (List Char × List Char) :=
  let name := chars.takeWhile isNameChar
  let rest := chars.dropWhile isNameChar
  let ended := atWordEnd rest
    || rest.head?.any fun c => c == '?' || c == ':' || c == ',' || c == ']' || c == '\x7d'
      || c == '%' || c == '@' || c == '\x60'
  if !name.isEmpty && ended then some (name, rest) else none

/-- The characters of a tag. Brackets and commas belong to it only between angle brackets. -/
def isUriChar (verbatim : Bool) (c : Char) : Bool :=
  isNameChar c || c == ';' || c == '/' || c == '?' || c == ':' || c == '@' || c == '&' || c == '='
    || c == '+' || c == '$' || c == '.' || c == '!' || c == '~' || c == '*' || c == '\''
    || c == '(' || c == ')' || (verbatim && (c == ',' || c == '[' || c == ']'))

/-- The number of bytes of a character that begins with a given byte. -/
def octetCount (lead : Nat) : Option Nat :=
  if lead < 0x80 then some 1
  else if lead < 0xC0 then none
  else if lead < 0xE0 then some 2
  else if lead < 0xF0 then some 3
  else if lead < 0xF8 then some 4
  else none

/-- The byte that a percent sign and two digits write. -/
def octet (high low : Char) : Option Nat := do
  return (← hexValue high) * 16 + (← hexValue low)

/-- Read the bytes of a tag, newest first in `read`; `more` bytes are missing to a character that is
written by its bytes. -/
def scanUri (verbatim : Bool) :
    (more : Nat) → (read : List UInt8) → List Char → Option (List UInt8 × List Char)
  | 0, read, '%' :: high :: low :: rest =>
    match octet high low with
    | none => none
    | some byte =>
      match octetCount byte with
      | none => none
      | some count => scanUri verbatim (count - 1) (byte.toUInt8 :: read) rest
  | 0, _, '%' :: _ => none
  | 0, read, c :: rest =>
    if isUriChar verbatim c then
      scanUri verbatim 0 ((Text.Utf8.encodeChar c).reverse ++ read) rest
    else some (read.reverse, c :: rest)
  | 0, read, [] => some (read.reverse, [])
  | more + 1, read, '%' :: high :: low :: rest =>
    match octet high low with
    | none => none
    | some byte =>
      if 0x80 ≤ byte ∧ byte < 0xC0 then scanUri verbatim more (byte.toUInt8 :: read) rest else none
  | _ + 1, _, _ => none

/-- Read a tag handle: an exclamation mark, a name, and perhaps another exclamation mark. -/
def scanTagHandle : List Char → Option (List Char × List Char)
  | '!' :: rest =>
    let name := rest.takeWhile isNameChar
    match rest.dropWhile isNameChar with
    | '!' :: behind => some ('!' :: (name ++ ['!']), behind)
    | behind => some ('!' :: name, behind)
  | _ => none

/-- Whether a handle is closed by an exclamation mark of its own. -/
def isClosedHandle (handle : List Char) : Bool :=
  1 < handle.length && handle.getLast? == some '!'

/-- The bytes of a tag that count: those in front of the first zero byte. -/
def untilZero (bytes : List UInt8) : List UInt8 := bytes.takeWhile (· != 0)

/-- Read a tag behind an exclamation mark and an angle bracket. -/
def scanVerbatimTag (chars : List Char) : Option (WrittenTag × List Char) := do
  match ← scanUri true 0 [] chars with
  | ([], _) => none
  | (suffix, '>' :: rest) => return (⟨[], untilZero suffix⟩, rest)
  | _ => none

/-- Read a tag that begins with a handle. What looks like a handle that is not closed belongs to
the rest of the tag, and a lone exclamation mark is a tag of its own. -/
def scanShortTag (chars : List Char) : Option (WrittenTag × List Char) := do
  let (handle, rest) ← scanTagHandle chars
  let (suffix, rest) ← scanUri false 0 [] rest
  if isClosedHandle handle then
    if suffix.isEmpty then none else return (⟨handle, untilZero suffix⟩, rest)
  else
    match untilZero (handle.tail.flatMap Text.Utf8.encodeChar ++ suffix) with
    | [] => return (⟨[], Text.Utf8.encodeChar '!'⟩, rest)
    | suffix => return (⟨['!'], suffix⟩, rest)

/-- Read a tag, up to the blank or the comma behind it. -/
def scanTag (inFlow : Bool) (chars : List Char) : Option (WrittenTag × List Char) := do
  let (tag, rest) ← match chars with
    | '!' :: '<' :: rest => scanVerbatimTag rest
    | _ => scanShortTag chars
  if atWordEnd rest || (inFlow && rest.head? == some ',') then return (tag, rest) else none

/-- Read a number of up to nine digits. -/
def scanVersionNumber (chars : List Char) : Option (Nat × List Char) :=
  let isDigit (c : Char) : Bool := '0' ≤ c && c ≤ '9'
  let digits := chars.takeWhile isDigit
  if digits.isEmpty || 9 < digits.length then none
  else
    some (digits.foldl (fun value digit => value * 10 + (digit.toNat - 48)) 0,
      chars.dropWhile isDigit)

/-- Read the version of the format. -/
def scanVersion (chars : List Char) : Option (Token × List Char) := do
  match ← scanVersionNumber (chars.dropWhile isBlank) with
  | (major, '.' :: rest) =>
    let (minor, rest) ← scanVersionNumber rest
    return (.version major minor, rest)
  | _ => none

/-- Read what a tag handle stands for. -/
def scanTagMeaning (chars : List Char) : Option (Token × List Char) := do
  let (handle, rest) ← scanTagHandle (chars.dropWhile isBlank)
  if !(isClosedHandle handle || handle == ['!']) then none
  if !(rest.head?.any isBlank) then none
  let (meaning, rest) ← scanUri true 0 [] (rest.dropWhile isBlank)
  if meaning.isEmpty || !atWordEnd rest then none
  return (.tagHandle handle (untilZero meaning), rest)

/-- Read a directive behind its percent sign, up to the end of its line. -/
def scanDirective (chars : List Char) : Option (Token × List Char) := do
  let name := chars.takeWhile isNameChar
  let rest := chars.dropWhile isNameChar
  if !atWordEnd rest then none
  let (directive, rest) ← match name with
    | ['Y', 'A', 'M', 'L'] => scanVersion rest
    | ['T', 'A', 'G'] => scanTagMeaning rest
    | _ => none
  return (directive, ← skipToLineEnd rest)

end Runbook.Yaml
