import Runbook.Yaml.Token

/-!
# Quoted scalars

Scalars between single quotes, where a quote is written twice, and between double quotes, where a
backslash begins an escape.
-/

namespace Runbook.Yaml

/-- The value of a hexadecimal digit of either case. -/
def hexValue (c : Char) : Option Nat :=
  if '0' ≤ c ∧ c ≤ '9' then some (c.toNat - 48)
  else if 'A' ≤ c ∧ c ≤ 'F' then some (c.toNat - 55)
  else if 'a' ≤ c ∧ c ≤ 'f' then some (c.toNat - 87)
  else none

/-- The number that some hexadecimal digits write. -/
def hexNumber (digits : List Char) : Option Nat :=
  digits.foldlM (fun value digit => (hexValue digit).map (value * 16 + ·)) 0

/-- The character that a letter behind a backslash stands for. -/
def simpleEscape : Char → Option Char
  | '0' => some '\x00'
  | 'a' => some '\x07'
  | 'b' => some '\x08'
  | 't' => some '\t'
  | '\t' => some '\t'
  | 'n' => some '\n'
  | 'v' => some '\x0b'
  | 'f' => some '\x0c'
  | 'r' => some '\r'
  | 'e' => some '\x1b'
  | ' ' => some ' '
  | '"' => some '"'
  | '/' => some '/'
  | '\\' => some '\\'
  | 'N' => some '\u0085'
  | '_' => some '\u00a0'
  | 'L' => some '\u2028'
  | 'P' => some '\u2029'
  | _ => none

/-- How many hexadecimal digits follow a letter behind a backslash. -/
def codeLength : Char → Option Nat
  | 'x' => some 2
  | 'u' => some 4
  | 'U' => some 8
  | _ => none

/-- The character of a code, unless it is a surrogate or above the last character. -/
def charOfCode (code : Nat) : Option Char :=
  if (0xD800 ≤ code ∧ code ≤ 0xDFFF) ∨ 0x10FFFF < code then none else some (Char.ofNat code)

/-- The character that a letter behind a backslash means, together with the digits behind it, and
how many digits these are. -/
def escapeCode (letter : Char) (behind : List Char) : Option (Char × Nat) :=
  match codeLength letter with
  | none => (simpleEscape letter).map (fun c => (c, 0))
  | some count =>
    if behind.length < count then none
    else do return (← charOfCode (← hexNumber (behind.take count)), count)

/-- Read the rest of a scalar between single quotes. -/
def scanSingleQuoted :
    (written : List Char) → Gap → Place → List Char → Option (Scanned (List Char))
  | _, _, _, [] => none
  | written, gap, place, c :: rest =>
    if place.column == 0 && atDocumentMark (c :: rest) then none
    else if isBlank c then scanSingleQuoted written (gap.addBlank c) (place.next c) rest
    else if isBreak c then scanSingleQuoted written (gap.addBreak c) place.nextLine rest
    else if c == '\'' then
      match rest with
      | '\'' :: rest =>
        scanSingleQuoted ('\'' :: (gap.folded ++ written)) .none (place.skip 2) rest
      | rest => some ⟨(gap.folded ++ written).reverse, place.next c, rest⟩
    else scanSingleQuoted (c :: (gap.folded ++ written)) .none (place.next c) rest

/-- Read the rest of a scalar between double quotes. A line break behind a backslash is dropped,
together with the blanks that follow it. -/
def scanDoubleQuoted (written : List Char) (gap : Gap) (place : Place) (chars : List Char) :
    Option (Scanned (List Char)) :=
  match chars with
  | [] => none
  | c :: rest =>
    if place.column == 0 && atDocumentMark (c :: rest) then none
    else if isBlank c then scanDoubleQuoted written (gap.addBlank c) (place.next c) rest
    else if isBreak c then scanDoubleQuoted written (gap.addBreak c) place.nextLine rest
    else if c == '"' then some ⟨(gap.folded ++ written).reverse, place.next c, rest⟩
    else if c == '\\' then
      match _ : rest with
      | [] => none
      | letter :: behind =>
        if isBreak letter then
          scanDoubleQuoted (gap.folded ++ written) (.breaks none []) place.nextLine behind
        else
          match escapeCode letter behind with
          | none => none
          | some (meant, digits) =>
            scanDoubleQuoted (meant :: (gap.folded ++ written)) .none (place.skip (digits + 2))
              (behind.drop digits)
    else scanDoubleQuoted (c :: (gap.folded ++ written)) .none (place.next c) rest
termination_by chars.length
decreasing_by all_goals simp_all [List.length_drop]; try omega

end Runbook.Yaml
