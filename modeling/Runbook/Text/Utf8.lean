/-!
# UTF-8

Text as bytes. `decode` accepts exactly the well-formed byte strings, and `decodeLossy` puts one
replacement character in the place of each maximal ill-formed part.
-/

namespace Runbook.Text.Utf8

/-- The bytes that encode one character. -/
def encodeChar (c : Char) : List UInt8 :=
  let code := c.toNat
  if code < 0x80 then
    [code.toUInt8]
  else if code < 0x800 then
    [(0xC0 + code / 64).toUInt8, (0x80 + code % 64).toUInt8]
  else if code < 0x10000 then
    [(0xE0 + code / 4096).toUInt8, (0x80 + code / 64 % 64).toUInt8, (0x80 + code % 64).toUInt8]
  else
    [(0xF0 + code / 262144).toUInt8, (0x80 + code / 4096 % 64).toUInt8,
      (0x80 + code / 64 % 64).toUInt8, (0x80 + code % 64).toUInt8]

/-- The bytes of a text. -/
def encode (text : String) : List UInt8 :=
  text.toList.flatMap encodeChar

/-- The number of bytes that encode one character. -/
def width (c : Char) : Nat :=
  (encodeChar c).length

/-- What stands at the front of a byte string. -/
inductive Front where
  /-- Nothing is left. -/
  | done
  /-- A character and the bytes behind it. -/
  | char (c : Char) (rest : List UInt8)
  /-- An ill-formed part, and the bytes behind it. -/
  | illFormed (rest : List UInt8)

/-- Read the continuation bytes of a character, each of which carries six bits.

The first of them lies between `low` and `high`, the later ones between 0x80 and 0xBF. -/
def continuation : (count code low high : Nat) → List UInt8 → Front
  | 0, code, _, _, rest => .char (Char.ofNat code) rest
  | _ + 1, _, _, _, [] => .illFormed []
  | count + 1, code, low, high, byte :: rest =>
    if low ≤ byte.toNat ∧ byte.toNat ≤ high then
      continuation count (code * 64 + (byte.toNat - 0x80)) 0x80 0xBF rest
    else
      .illFormed (byte :: rest)

/-- Read the character at the front of a byte string.

The range of the second byte depends on the first: it leaves out longer encodings than needed, the
surrogates, and the codes above the last character. -/
def front : List UInt8 → Front
  | [] => .done
  | first :: rest =>
    let lead := first.toNat
    if lead < 0x80 then continuation 0 lead 0x80 0xBF rest
    else if lead < 0xC2 then .illFormed rest
    else if lead < 0xE0 then continuation 1 (lead - 0xC0) 0x80 0xBF rest
    else if lead = 0xE0 then continuation 2 0 0xA0 0xBF rest
    else if lead = 0xED then continuation 2 (lead - 0xE0) 0x80 0x9F rest
    else if lead < 0xF0 then continuation 2 (lead - 0xE0) 0x80 0xBF rest
    else if lead = 0xF0 then continuation 3 0 0x90 0xBF rest
    else if lead < 0xF4 then continuation 3 (lead - 0xF0) 0x80 0xBF rest
    else if lead = 0xF4 then continuation 3 (lead - 0xF0) 0x80 0x8F rest
    else .illFormed rest

/-- The bytes left behind the front, if anything stood there. -/
def Front.rest? : Front → Option (List UInt8)
  | .done => none
  | .char _ rest => some rest
  | .illFormed rest => some rest

/-- Continuation bytes are only taken away. -/
theorem continuation_rest_le {count code low high : Nat} {bytes rest : List UInt8}
    (left : (continuation count code low high bytes).rest? = some rest) :
    rest.length ≤ bytes.length := by
  fun_induction continuation count code low high bytes with
  | case1 => simp_all [Front.rest?]
  | case2 => simp_all [Front.rest?]
  | case3 _ _ _ _ _ _ _ shorter => simpa using Nat.le_succ_of_le (shorter left)
  | case4 => simp_all [Front.rest?]

/-- Reading the front uses up at least one byte. -/
theorem front_rest_lt {bytes rest : List UInt8} (left : (front bytes).rest? = some rest) :
    rest.length < bytes.length := by
  cases bytes with
  | nil => simp [front, Front.rest?] at left
  | cons first behind =>
    simp only [List.length_cons, Nat.lt_succ_iff]
    simp only [front] at left
    repeat' split at left
    all_goals first
      | exact continuation_rest_le left
      | (simp only [Front.rest?, Option.some.injEq] at left; simp [left])

/-- Read a whole byte string, or fail at the first ill-formed part. -/
def decodeChars (bytes : List UInt8) : Option (List Char) :=
  match found : front bytes with
  | .done => some []
  | .char c rest =>
    have : rest.length < bytes.length := front_rest_lt (by rw [found]; rfl)
    (decodeChars rest).map (c :: ·)
  | .illFormed _ => none
termination_by bytes.length

/-- The text of a well-formed byte string. -/
def decode (bytes : List UInt8) : Option String :=
  (decodeChars bytes).map String.ofList

/-- The character that stands for an ill-formed part. -/
def replacement : Char := '\uFFFD'

/-- Read a whole byte string, with a replacement character for each ill-formed part. -/
def decodeLossyChars (bytes : List UInt8) : List Char :=
  match found : front bytes with
  | .done => []
  | .char c rest =>
    have : rest.length < bytes.length := front_rest_lt (by rw [found]; rfl)
    c :: decodeLossyChars rest
  | .illFormed rest =>
    have : rest.length < bytes.length := front_rest_lt (by rw [found]; rfl)
    replacement :: decodeLossyChars rest
termination_by bytes.length

/-- The text of any byte string. -/
def decodeLossy (bytes : List UInt8) : String :=
  String.ofList (decodeLossyChars bytes)

end Runbook.Text.Utf8

/-! ## Cutting texts at bytes -/

namespace Runbook.Text.Utf8

/-- Whether a byte goes on with a character. -/
def isContinuation (byte : UInt8) : Bool := 0x80 ≤ byte && byte < 0xC0

/-- Whether an index is at the front or the end of a text, or in front of one of its characters. -/
def isBoundary (bytes : List UInt8) (index : Nat) : Bool :=
  index == 0 ||
    match bytes[index]? with
    | some byte => !isContinuation byte
    | none => index == bytes.length

/-- The last boundary up to an index. The search goes back byte by byte, and finds nothing if it
comes to the front without a boundary. -/
def boundaryUpTo? (bytes : List UInt8) : (index : Nat) → Option Nat
  | 0 => if isBoundary bytes 0 then some 0 else none
  | index + 1 =>
    if isBoundary bytes (index + 1) then some (index + 1) else boundaryUpTo? bytes index

/-- The text in front of an index, which must not split a character. -/
def textBefore? (bytes : List UInt8) (index : Nat) : Option String :=
  if isBoundary bytes index then decode (bytes.take index) else none

end Runbook.Text.Utf8

/-! ## Texts whose characters stand for bytes -/

namespace Runbook.Text.Octets

/-- The character that stands for a byte. -/
def char (byte : UInt8) : Char := Char.ofNat byte.toNat

/-- The byte that a character stands for. -/
def byte (c : Char) : UInt8 := c.toNat.toUInt8

/-- The characters that stand for bytes. -/
def chars (bytes : List UInt8) : List Char := bytes.map char

/-- The text that stands for bytes. -/
def ofBytes (bytes : List UInt8) : String := String.ofList (chars bytes)

/-- The bytes that a text stands for. -/
def toBytes (text : String) : List UInt8 := text.toList.map byte

/-- The text that stands for the bytes which encode another text. -/
def ofText (text : String) : String := ofBytes (Utf8.encode text)

/-- The character of a byte stands for that byte. -/
@[simp]
theorem byte_char (b : UInt8) : byte (char b) = b := by
  have small : b.toNat < 256 := b.toNat_lt
  have valid : b.toNat.isValidChar := Or.inl (by omega)
  have code : (Char.ofNat b.toNat).toNat = b.toNat := by
    rw [Char.ofNat, dif_pos valid]
    rfl
  rw [byte, char, code]
  exact UInt8.ofNat_toNat

/-- Bytes are brought back from the text that stands for them. -/
@[simp]
theorem toBytes_ofBytes (bytes : List UInt8) : toBytes (ofBytes bytes) = bytes := by
  simp [toBytes, ofBytes, chars, Function.comp_def]

end Runbook.Text.Octets
