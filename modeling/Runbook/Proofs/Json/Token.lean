import Mathlib.Data.List.Induction
import Runbook.Json.Printer
import Runbook.Json.Reader

/-!
# Tokens that are read back

Each token of a compact text is read back as it was written: strings with all their escapes
(`Json.token_quote`), and integers that fit in 64 bits (`Json.token_intChars`), which have to be
followed by something that does not go on with them.
-/

namespace Runbook.Json

/-! ## Strings -/

/-- The letters that stand behind a backslash for a character, and these characters. -/
def letterEscapes : List (Char × Char) :=
  [('"', '"'), ('\\', '\\'), ('b', '\x08'), ('f', '\x0c'), ('n', '\n'), ('r', '\r'), ('t', '\t')]

/-- A character stands for itself, or it is escaped by a letter or, if it is a control character, by
its code. -/
theorem escapeChar_cases (c : Char) :
    (escapeChar c = [c] ∧ c ≠ '"' ∧ c ≠ '\\' ∧ ¬ c.toNat < 0x20) ∨
      (∃ letter, (letter, c) ∈ letterEscapes ∧ escapeChar c = ['\\', letter]) ∨
      (c.toNat < 0x20 ∧ escapeChar c = '\\' :: 'u' :: '0' :: '0' :: hexPair c.toNat) := by
  unfold escapeChar
  split_ifs with quote backslash backspace feed line carriage tab control
  · exact Or.inr (Or.inl ⟨'"', by rw [quote]; decide, rfl⟩)
  · exact Or.inr (Or.inl ⟨'\\', by rw [backslash]; decide, rfl⟩)
  · exact Or.inr (Or.inl ⟨'b', by rw [backspace]; decide, rfl⟩)
  · exact Or.inr (Or.inl ⟨'f', by rw [feed]; decide, rfl⟩)
  · exact Or.inr (Or.inl ⟨'n', by rw [line]; decide, rfl⟩)
  · exact Or.inr (Or.inl ⟨'r', by rw [carriage]; decide, rfl⟩)
  · exact Or.inr (Or.inl ⟨'t', by rw [tab]; decide, rfl⟩)
  · exact Or.inr (Or.inr ⟨control, rfl⟩)
  · exact Or.inl ⟨rfl, quote, backslash, control⟩

/-- The two digits of a control character are its code. -/
theorem hexQuad_hexPair {code : Nat} (control : code < 0x20) :
    ∃ high low, hexPair code = [high, low] ∧ hexQuad '0' '0' high low = some code := by
  have all : ∀ code < 0x20, hexQuad '0' '0' ((hexPair code).head!) ((hexPair code).getLast!) =
      some code := by
    decide
  exact ⟨_, _, rfl, all code control⟩

theorem escape_letter {letter c : Char} (listed : (letter, c) ∈ letterEscapes)
    (rest : List Char) : escape (letter :: rest) = some (c, rest) := by
  simp only [letterEscapes, List.mem_cons, List.not_mem_nil, or_false, Prod.mk.injEq] at listed
  rcases listed with ⟨rfl, rfl⟩ | ⟨rfl, rfl⟩ | ⟨rfl, rfl⟩ | ⟨rfl, rfl⟩ | ⟨rfl, rfl⟩ | ⟨rfl, rfl⟩ |
    ⟨rfl, rfl⟩ <;> rfl

theorem escape_hexPair {c : Char} (control : c.toNat < 0x20) (rest : List Char) :
    escape ('u' :: '0' :: '0' :: (hexPair c.toNat ++ rest)) = some (c, rest) := by
  obtain ⟨high, low, written, read⟩ := hexQuad_hexPair control
  have notHigh : ¬ (0xD800 ≤ c.toNat ∧ c.toNat < 0xDC00) := by omega
  have notLow : ¬ (0xDC00 ≤ c.toNat ∧ c.toNat < 0xE000) := by omega
  simp only [written, List.cons_append, List.nil_append, escape, read, notHigh, notLow,
    ↓reduceIte, Char.ofNat_toNat]

/-- An escape in a string stands for its character. -/
theorem stringBody_escape {code more : List Char} {c : Char}
    (escapes : escape code = some (c, more)) :
    stringBody ('\\' :: code) = (stringBody more).map fun (body, rest) => (c :: body, rest) := by
  rw [stringBody]
  split
  · rename_i failed
    rw [escapes] at failed
    cases failed
  · rename_i found
    rw [escapes] at found
    cases found
    rfl

/-- Each character of a string is read back. -/
theorem stringBody_escapeChar_append (c : Char) (more : List Char) :
    stringBody (escapeChar c ++ more) =
      (stringBody more).map fun (body, rest) => (c :: body, rest) := by
  rcases escapeChar_cases c with
    ⟨same, notQuote, notBackslash, printable⟩ | ⟨letter, listed, written⟩ | ⟨control, written⟩
  · rw [same, List.singleton_append, stringBody]
    · exact if_neg printable
    · exact notQuote
    · exact notBackslash
  · rw [written]
    exact stringBody_escape (escape_letter listed more)
  · rw [written]
    exact stringBody_escape (escape_hexPair control more)

/-- A string is read up to its closing quote. -/
theorem stringBody_flatMap_escapeChar (body rest : List Char) :
    stringBody (body.flatMap escapeChar ++ '"' :: rest) = some (body, rest) := by
  induction body with
  | nil => rw [List.flatMap_nil, List.nil_append, stringBody]
  | cons c body ih =>
      rw [List.flatMap_cons, List.append_assoc, stringBody_escapeChar_append, ih]
      rfl

/-- A text between quotes is read back. -/
theorem token_quote (text : String) (rest : List Char) :
    token (quote text ++ rest) = some (.string text, rest) := by
  have body := stringBody_flatMap_escapeChar text.toList rest
  have behind : quote text ++ rest =
      '"' :: (text.toList.flatMap escapeChar ++ '"' :: rest) := by
    rw [quote, List.cons_append, List.append_assoc, List.singleton_append]
  rw [behind, token, body]
  exact congrArg (fun found => some (Token.string found, rest)) String.ofList_toList

/-! ## Integers -/

/-- The text ends, or goes on with what stands behind a value of an array or an object. -/
inductive Delimited : List Char → Prop
  | nil : Delimited []
  | comma (rest : List Char) : Delimited (',' :: rest)
  | closeArray (rest : List Char) : Delimited (']' :: rest)
  | closeObject (rest : List Char) : Delimited ('\x7d' :: rest)

section Delimited

variable {rest : List Char}

theorem Delimited.takeWhile_isDigit (delimited : Delimited rest) : rest.takeWhile isDigit = [] := by
  cases delimited <;> rfl

theorem Delimited.dropWhile_isDigit (delimited : Delimited rest) :
    rest.dropWhile isDigit = rest := by
  cases delimited <;> rfl

theorem Delimited.fractionPart (delimited : Delimited rest) :
    fractionPart rest = some (none, rest) := by
  cases delimited <;> rfl

theorem Delimited.exponentPart (delimited : Delimited rest) :
    exponentPart rest = some (none, rest) := by
  cases delimited <;> rfl

end Delimited

theorem isDigit_of_mem_toDigits {n : Nat} {c : Char} (member : c ∈ Nat.toDigits 10 n) :
    isDigit c = true := by
  have digit := Nat.isDigit_of_mem_toDigits (by decide) (by decide) member
  simpa [isDigit, Char.isDigit, Char.le_def] using digit

/-- No number but zero is written with a zero in front. -/
theorem head?_toDigits_ne {n : Nat} (positive : 0 < n) : (Nat.toDigits 10 n).head? ≠ some '0' := by
  induction n using Nat.strongRecOn with
  | ind n ih =>
      rw [Nat.toDigits_eq_if (by decide)]
      split_ifs with single
      · have digits : ∀ digit < 10, 0 < digit → [Nat.digitChar digit].head? ≠ some '0' := by
          decide
        exact digits n single positive
      · have leading := ih (n / 10) (by omega) (by omega)
        cases digits : Nat.toDigits 10 (n / 10) with
        | nil => exact (Nat.toDigits_ne_nil digits).elim
        | cons first others => rwa [digits] at leading

theorem isWhole_toDigits (n : Nat) : isWhole (Nat.toDigits 10 n) = true := by
  rcases Nat.eq_zero_or_pos n with rfl | positive
  · rfl
  · have leading := head?_toDigits_ne positive
    cases digits : Nat.toDigits 10 n with
    | nil => exact (Nat.toDigits_ne_nil digits).elim
    | cons first others =>
        rw [digits, List.head?_cons] at leading
        cases others with
        | nil => rfl
        | cons => exact bne_iff_ne.mpr fun zero => leading (congrArg some zero)

/-- A natural number is read up to its last digit. -/
theorem numeral_toDigits (negative : Bool) (n : Nat) {rest : List Char}
    (delimited : Delimited rest) :
    numeral negative (Nat.toDigits 10 n ++ rest) =
      some (⟨negative, Nat.toDigits 10 n, none, none⟩, rest) := by
  have digits : ∀ c ∈ Nat.toDigits 10 n, isDigit c = true := fun _ => isDigit_of_mem_toDigits
  rw [numeral, List.takeWhile_append_of_pos digits, List.dropWhile_append_of_pos digits,
    delimited.takeWhile_isDigit, delimited.dropWhile_isDigit, List.append_nil,
    if_pos (isWhole_toDigits n), delimited.fractionPart]
  simp only [Option.bind_eq_bind, Option.bind_some, delimited.exponentPart, Option.pure_def]

/-- Digits make a number longer. -/
theorem le_ofDigitChars (digits : List Char) (significand : Nat) :
    significand ≤ Nat.ofDigitChars 10 digits significand := by
  induction digits generalizing significand with
  | nil => exact Nat.le_refl _
  | cons digit digits ih =>
      rw [Nat.ofDigitChars_cons]
      refine Nat.le_trans ?_ (ih _)
      omega

/-- Digits that fit in 64 bits are all taken. -/
theorem appendDigits_eq {digits : List Char} {significand value : Nat}
    (whole : Nat.ofDigitChars 10 digits significand = value) (fits : value < 2 ^ 64) :
    Numeral.appendDigits significand digits = (value, digits.length) := by
  induction digits generalizing significand with
  | nil =>
      subst whole
      rfl
  | cons digit digits ih =>
      have longer : significand * 10 + Numeral.digitValue digit =
          10 * significand + (digit.toNat - '0'.toNat) := by
        rw [Nat.mul_comm]
        rfl
      rw [Nat.ofDigitChars_cons] at whole
      have below := Nat.lt_of_le_of_lt (le_ofDigitChars digits _) (whole ▸ fits)
      rw [Numeral.appendDigits, longer]
      simp only [below, ↓reduceIte, ih whole, List.length_cons]

/-- A numeral without a fraction and an exponent has the value of its digits. -/
theorem value_toDigits (negative : Bool) {n : Nat} (fits : n < 2 ^ 64) :
    Numeral.value ⟨negative, Nat.toDigits 10 n, none, none⟩ = Numeral.wholeValue negative n := by
  rw [Numeral.value]
  simp only [appendDigits_eq Nat.ofDigitChars_ten_toDigits fits, Nat.sub_self]

/-- Behind its sign a number is read digit by digit. -/
theorem token_of_isDigit {c : Char} (digit : isDigit c = true) (rest : List Char) :
    token (c :: rest) = (do
      let (read, rest) ← numeral false (c :: rest)
      return (.number (← read.value), rest)) := by
  have other : ∀ first behind, c :: rest = first :: behind → isDigit first = true := by
    intro first behind same
    rwa [← (List.cons.inj same).1]
  unfold token
  split
  all_goals first | rfl | exact absurd (other _ _ ‹_›) (by decide)

/-- An integer is read back. -/
theorem token_intChars {n : Int} (least : Number.leastInt ≤ n) (greatest : n ≤ Number.greatestInt)
    {rest : List Char} (delimited : Delimited rest) :
    token (intChars n ++ rest) = some (.number (.int n), rest) := by
  unfold Number.leastInt at least
  unfold Number.greatestInt at greatest
  have fits : n.natAbs < 2 ^ 64 := by omega
  rw [intChars]
  split_ifs with negative
  · rw [List.cons_append, token, numeral_toDigits true _ delimited]
    simp only [Option.bind_eq_bind, Option.bind_some, value_toDigits _ fits, Numeral.wholeValue,
      ↓reduceIte]
    have inside : 0 < n.natAbs ∧ n.natAbs ≤ 2 ^ 63 := by omega
    have same : -(n.natAbs : Int) = n := by omega
    rw [if_pos inside, same]
    rfl
  · have same : (n.natAbs : Int) = n := by omega
    cases digits : Nat.toDigits 10 n.natAbs with
    | nil => exact (Nat.toDigits_ne_nil digits).elim
    | cons first others =>
        have digit := isDigit_of_mem_toDigits (digits ▸ List.mem_cons_self)
        rw [List.cons_append, token_of_isDigit digit, ← List.cons_append, ← digits,
          numeral_toDigits false _ delimited]
        simp only [Option.bind_eq_bind, Option.bind_some, value_toDigits _ fits,
          Numeral.wholeValue, Bool.false_eq_true, ↓reduceIte, same]
        rfl

end Runbook.Json
