import Runbook.Json.Numeral

/-!
# Reading JSON text

The text of a document is divided into tokens, from which a value is assembled.
-/

namespace Runbook

/-! ## JSON tokens

The text of a JSON document as a list of brackets, separators, words, numbers and strings. -/

namespace Json

/-- The pieces that a JSON text is made of. -/
inductive Token where
  | openArray
  | closeArray
  | openObject
  | closeObject
  | comma
  | colon
  | null
  | bool (value : Bool)
  | number (value : Number)
  | string (value : String)
deriving DecidableEq, Repr, Inhabited

/-- The characters that may stand between tokens. -/
def isSpace (c : Char) : Bool := c == ' ' || c == '\n' || c == '\t' || c == '\r'

/-- The value of a hexadecimal digit of either case. -/
def hexValue (c : Char) : Option Nat :=
  let code := c.toNat
  if 48 ≤ code ∧ code ≤ 57 then some (code - 48)
  else if 65 ≤ code ∧ code ≤ 70 then some (code - 55)
  else if 97 ≤ code ∧ code ≤ 102 then some (code - 87)
  else none

/-- The value of four hexadecimal digits. -/
def hexQuad (a b c d : Char) : Option Nat := do
  return ((← hexValue a) * 16 + (← hexValue b)) * 256 + (← hexValue c) * 16 + (← hexValue d)

/-- The character that a letter behind a backslash stands for. -/
def escaped : Char → Option Char
  | '"' => some '"'
  | '\\' => some '\\'
  | '/' => some '/'
  | 'b' => some '\x08'
  | 'f' => some '\x0c'
  | 'n' => some '\n'
  | 'r' => some '\r'
  | 't' => some '\t'
  | _ => none

/-- The character of a surrogate pair. -/
def pairedChar (high low : Nat) : Char :=
  Char.ofNat (0x10000 + (high - 0xD800) * 0x400 + (low - 0xDC00))

/-- Read the lower half of a surrogate pair, which is written as an escape of its own. -/
def lowerHalf (high : Nat) : List Char → Option (Char × List Char)
  | '\\' :: 'u' :: a :: b :: c :: d :: rest =>
    match hexQuad a b c d with
    | none => none
    | some low =>
      if 0xDC00 ≤ low ∧ low < 0xE000 then some (pairedChar high low, rest) else none
  | _ => none

/-- Read what stands behind a backslash: the character meant, and the text that follows.

A code from the surrogate ranges is accepted only as half of a pair. -/
def escape : List Char → Option (Char × List Char)
  | 'u' :: a :: b :: c :: d :: rest =>
    match hexQuad a b c d with
    | none => none
    | some code =>
      if 0xD800 ≤ code ∧ code < 0xDC00 then lowerHalf code rest
      else if 0xDC00 ≤ code ∧ code < 0xE000 then none
      else some (Char.ofNat code, rest)
  | letter :: rest => (escaped letter).map (fun c => (c, rest))
  | [] => none

/-- The lower half of a pair is at least six characters long. -/
theorem lowerHalf_rest_lt {high : Nat} {chars rest : List Char} {c : Char}
    (read : lowerHalf high chars = some (c, rest)) : rest.length < chars.length := by
  unfold lowerHalf at read
  repeat' split at read
  all_goals simp_all
  omega

/-- An escape is at least one character long. -/
theorem escape_rest_lt {chars rest : List Char} {c : Char}
    (read : escape chars = some (c, rest)) : rest.length < chars.length := by
  unfold escape at read
  split at read
  · split at read
    · simp at read
    · repeat' split at read
      · have := lowerHalf_rest_lt read
        simp only [List.length_cons]
        omega
      · simp at read
      · simp only [Option.some.injEq, Prod.mk.injEq] at read
        simp only [← read.2, List.length_cons]
        omega
  · simp only [Option.map_eq_some_iff, Prod.mk.injEq] at read
    obtain ⟨_, _, _, same⟩ := read
    simp [same]
  · simp at read

/-- Read a string up to its closing quote: its characters, and the text behind the quote.
Control characters are accepted only in escaped form. -/
def stringBody (chars : List Char) : Option (List Char × List Char) :=
  match chars with
  | [] => none
  | '"' :: rest => some ([], rest)
  | '\\' :: rest =>
    match found : escape rest with
    | none => none
    | some (c, behind) =>
      have : behind.length < rest.length := escape_rest_lt found
      (stringBody behind).map (fun (body, rest) => (c :: body, rest))
  | c :: rest =>
    if c.toNat < 0x20 then none
    else (stringBody rest).map (fun (body, rest) => (c :: body, rest))
termination_by chars.length

/-- Reading a string uses up its closing quote. -/
theorem stringBody_rest_lt {chars body rest : List Char}
    (read : stringBody chars = some (body, rest)) : rest.length < chars.length := by
  fun_induction stringBody chars generalizing body with
  | case1 => simp at read
  | case2 => simp_all
  | case3 => simp at read
  | case4 _ _ _ _ less shorter =>
    simp only [Option.map_eq_some_iff, Prod.mk.injEq] at read
    obtain ⟨⟨_, _⟩, found, _, rfl⟩ := read
    have : _ < _ := shorter found
    simp only [List.length_cons] at this ⊢
    omega
  | case5 => simp at read
  | case6 _ _ _ _ _ shorter =>
    simp only [Option.map_eq_some_iff, Prod.mk.injEq] at read
    obtain ⟨⟨_, _⟩, found, _, rfl⟩ := read
    have : _ < _ := shorter found
    simp only [List.length_cons] at this ⊢
    omega

/-- The decimal digits. -/
def isDigit (c : Char) : Bool := '0' ≤ c && c ≤ '9'

/-- Whether a run of digits may stand before the point: a zero stands there alone. -/
def isWhole : List Char → Bool
  | [] => false
  | [_] => true
  | first :: _ => first != '0'

/-- Read a fraction part, which needs a digit. -/
def fractionPart : List Char → Option (Option (List Char) × List Char)
  | '.' :: rest =>
    match rest.takeWhile isDigit with
    | [] => none
    | digits => some (some digits, rest.dropWhile isDigit)
  | rest => some (none, rest)

/-- Read a sign, which may be left out: whether it is a minus, and the text behind it. -/
def sign : List Char → Bool × List Char
  | '+' :: rest => (false, rest)
  | '-' :: rest => (true, rest)
  | rest => (false, rest)

/-- Read the sign and the digits of an exponent. -/
def signedDigits (chars : List Char) : Option (Bool × List Char × List Char) :=
  match (sign chars).2.takeWhile isDigit with
  | [] => none
  | digits => some ((sign chars).1, digits, (sign chars).2.dropWhile isDigit)

/-- Read an exponent part, which needs a digit. -/
def exponentPart : List Char → Option (Option (Bool × List Char) × List Char)
  | 'e' :: rest | 'E' :: rest =>
    (signedDigits rest).map (fun (negative, digits, rest) => (some (negative, digits), rest))
  | rest => some (none, rest)

/-- Read a number, a minus sign in front of it included. -/
def numeral (negative : Bool) (chars : List Char) : Option (Numeral × List Char) :=
  let whole := chars.takeWhile isDigit
  if isWhole whole then do
    let (fraction, rest) ← fractionPart (chars.dropWhile isDigit)
    let (exponent, rest) ← exponentPart rest
    return (⟨negative, whole, fraction, exponent⟩, rest)
  else none

/-- Dropping characters at the front leaves no more of them. -/
theorem length_dropWhile_le (test : Char → Bool) (chars : List Char) :
    (chars.dropWhile test).length ≤ chars.length :=
  (List.dropWhile_suffix test).length_le

theorem fractionPart_rest_le {chars rest : List Char} {digits : Option (List Char)}
    (read : fractionPart chars = some (digits, rest)) : rest.length ≤ chars.length := by
  unfold fractionPart at read
  split at read
  · split at read
    · simp at read
    · simp only [Option.some.injEq, Prod.mk.injEq] at read
      rw [← read.2]
      exact Nat.le_succ_of_le (length_dropWhile_le _ _)
  · simp_all

theorem sign_rest_le (chars : List Char) : (sign chars).2.length ≤ chars.length := by
  unfold sign
  split <;> simp

theorem signedDigits_rest_le {chars digits rest : List Char} {negative : Bool}
    (read : signedDigits chars = some (negative, digits, rest)) :
    rest.length ≤ chars.length := by
  unfold signedDigits at read
  split at read
  · simp at read
  · simp only [Option.some.injEq, Prod.mk.injEq] at read
    rw [← read.2.2]
    exact Nat.le_trans (length_dropWhile_le _ _) (sign_rest_le chars)

theorem exponentPart_rest_le {chars rest : List Char} {exponent : Option (Bool × List Char)}
    (read : exponentPart chars = some (exponent, rest)) : rest.length ≤ chars.length := by
  unfold exponentPart at read
  split at read
  · simp only [Option.map_eq_some_iff, Prod.mk.injEq] at read
    obtain ⟨⟨_, _, _⟩, found, _, rfl⟩ := read
    exact Nat.le_succ_of_le (signedDigits_rest_le found)
  · simp only [Option.map_eq_some_iff, Prod.mk.injEq] at read
    obtain ⟨⟨_, _, _⟩, found, _, rfl⟩ := read
    exact Nat.le_succ_of_le (signedDigits_rest_le found)
  · simp_all

/-- A number has at least one digit. -/
theorem numeral_rest_lt {negative : Bool} {chars rest : List Char} {read : Numeral}
    (found : numeral negative chars = some (read, rest)) : rest.length < chars.length := by
  simp only [numeral] at found
  split at found
  next whole =>
    simp only [Option.bind_eq_bind, Option.bind_eq_some_iff, Prod.exists, Option.pure_def,
      Option.some.injEq, Prod.mk.injEq] at found
    obtain ⟨_, afterFraction, fraction, _, afterExponent, exponent, _, rfl⟩ := found
    have := fractionPart_rest_le fraction
    have := exponentPart_rest_le exponent
    have : (chars.dropWhile isDigit).length < chars.length := by
      cases chars with
      | nil => simp [isWhole] at whole
      | cons first chars =>
        cases digit : isDigit first
        · simp [digit, isWhole] at whole
        · simpa [List.dropWhile_cons, digit, Nat.lt_succ_iff] using length_dropWhile_le _ chars
    omega
  next => simp at found

/-- Read a word, a number, a bracket or a separator. -/
def token : List Char → Option (Token × List Char)
  | '[' :: rest => some (.openArray, rest)
  | ']' :: rest => some (.closeArray, rest)
  | '\x7b' :: rest => some (.openObject, rest)
  | '\x7d' :: rest => some (.closeObject, rest)
  | ',' :: rest => some (.comma, rest)
  | ':' :: rest => some (.colon, rest)
  | 'n' :: 'u' :: 'l' :: 'l' :: rest => some (.null, rest)
  | 't' :: 'r' :: 'u' :: 'e' :: rest => some (.bool true, rest)
  | 'f' :: 'a' :: 'l' :: 's' :: 'e' :: rest => some (.bool false, rest)
  | '"' :: rest => do
    let (body, rest) ← stringBody rest
    return (.string (String.ofList body), rest)
  | '-' :: rest => do
    let (read, rest) ← numeral true rest
    return (.number (← read.value), rest)
  | rest => do
    let (read, rest) ← numeral false rest
    return (.number (← read.value), rest)

/-- A token is at least one character long. -/
theorem token_rest_lt {chars rest : List Char} {read : Token}
    (found : token chars = some (read, rest)) : rest.length < chars.length := by
  unfold token at found
  split at found
  all_goals try simp only [Option.some.injEq, Prod.mk.injEq] at found
  all_goals try simp only [← found.2, List.length_cons]; omega
  · simp only [Option.bind_eq_bind, Option.bind_eq_some_iff, Prod.exists, Option.pure_def,
      Option.some.injEq, Prod.mk.injEq] at found
    obtain ⟨_, _, body, _, rfl⟩ := found
    exact Nat.lt_succ_of_lt (stringBody_rest_lt body)
  · simp only [Option.bind_eq_bind, Option.bind_eq_some_iff, Prod.exists, Option.pure_def,
      Option.some.injEq, Prod.mk.injEq] at found
    obtain ⟨_, _, digits, _, _, _, rfl⟩ := found
    exact Nat.lt_succ_of_lt (numeral_rest_lt digits)
  · simp only [Option.bind_eq_bind, Option.bind_eq_some_iff, Prod.exists, Option.pure_def,
      Option.some.injEq, Prod.mk.injEq] at found
    obtain ⟨_, _, digits, _, _, _, rfl⟩ := found
    exact numeral_rest_lt digits

/-- The tokens of a text, unless some part of it is none. -/
def tokens (chars : List Char) : Option (List Token) :=
  match chars with
  | [] => some []
  | c :: rest =>
    if isSpace c then tokens rest
    else
      match found : token (c :: rest) with
      | none => none
      | some (first, behind) =>
        have : behind.length < (c :: rest).length := token_rest_lt found
        (tokens behind).map (first :: ·)
termination_by chars.length
decreasing_by all_goals first | assumption | simp

end Json

/-! ## Values

A value is assembled while its tokens are read from left to right. Containers that are still open
are kept on a stack, innermost first. -/

namespace Json

/-- A container that is still open. -/
inductive Frame where
  /-- An array and its items so far, newest first. -/
  | array (items : List Json)
  /-- An object, its members so far, and the name of the member being read. -/
  | object (members : Dictionary Json) (name : String)
deriving Repr, Inhabited

/-- What may come next. -/
inductive Progress where
  /-- A value. -/
  | awaitValue (opened : List Frame)
  /-- The first item of an array, or its end. -/
  | awaitItem (opened : List Frame)
  /-- The first name of an object, or its end. -/
  | awaitMember (opened : List Frame)
  /-- Another name. -/
  | awaitName (opened : List Frame) (members : Dictionary Json)
  /-- The colon behind a name. -/
  | awaitColon (opened : List Frame) (members : Dictionary Json) (name : String)
  /-- Whatever follows a value that is complete. -/
  | complete (opened : List Frame) (value : Json)
deriving Repr, Inhabited

/-- How deeply containers may be nested. -/
def deepest : Nat := 127

/-- Begin a value. -/
def Progress.begin (opened : List Frame) : Token → Option Progress
  | .null => some (.complete opened .null)
  | .bool b => some (.complete opened (.bool b))
  | .number n => some (.complete opened (.number n))
  | .string s => some (.complete opened (.string s))
  | .openArray => if opened.length < deepest then some (.awaitItem opened) else none
  | .openObject => if opened.length < deepest then some (.awaitMember opened) else none
  | _ => none

/-- Go on behind a complete value. -/
def Progress.extend (opened : List Frame) (value : Json) (next : Token) : Option Progress :=
  match opened, next with
  | .array items :: outer, .comma => some (.awaitValue (.array (value :: items) :: outer))
  | .array items :: outer, .closeArray =>
    some (.complete outer (.array (value :: items).reverse))
  | .object members name :: outer, .comma => some (.awaitName outer (members.insert name value))
  | .object members name :: outer, .closeObject =>
    some (.complete outer (.object (members.insert name value)))
  | _, _ => none

/-- Read one token. -/
def Progress.step : Progress → Token → Option Progress
  | .awaitValue opened, next => Progress.begin opened next
  | .awaitItem opened, .closeArray => some (.complete opened (.array []))
  | .awaitItem opened, next => Progress.begin (.array [] :: opened) next
  | .awaitMember opened, .closeObject => some (.complete opened (.object []))
  | .awaitMember opened, .string name => some (.awaitColon opened [] name)
  | .awaitMember _, _ => none
  | .awaitName opened members, .string name => some (.awaitColon opened members name)
  | .awaitName _ _, _ => none
  | .awaitColon opened members name, .colon => some (.awaitValue (.object members name :: opened))
  | .awaitColon _ _ _, _ => none
  | .complete opened value, next => Progress.extend opened value next

/-- The value that has been read, once nothing is left open. -/
def Progress.result : Progress → Option Json
  | .complete [] value => some value
  | _ => none

/-- The value of a list of tokens. -/
def ofTokens (tokens : List Token) : Option Json :=
  (tokens.foldlM Progress.step (.awaitValue [])).bind Progress.result

/-- The value that a text writes. Of several members of one name the last one counts. -/
def ofChars (chars : List Char) : Option Json :=
  (tokens chars).bind ofTokens

/-- The value that a text writes. -/
def read (text : String) : Option Json := ofChars text.toList

end Json

end Runbook
