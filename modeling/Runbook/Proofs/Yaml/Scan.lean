import Runbook.Json.Printer
import Runbook.Proofs.Json.Token
import Runbook.Yaml.Lexer

/-!
# Scalars of compact JSON text

A string of characters up to the tilde, quoted as compact JSON text, is a scalar between double
quotes of the same text (`Yaml.scanDoubleQuoted_flatMap`), and the words of compact JSON text are
plain scalars in flow collections (`Yaml.scanPlain_append`).
-/

namespace Runbook.Yaml

open Json (Delimited escapeChar hexPair letterEscapes)

/-- The characters from the blank to the tilde. -/
def isPrintable (c : Char) : Bool := 0x20 ≤ c.toNat && c.toNat ≤ 0x7E

theorem isPrintable_iff {c : Char} : isPrintable c = true ↔ 0x20 ≤ c.toNat ∧ c.toNat ≤ 0x7E := by
  simp [isPrintable]

/-! ## Places -/

section Places

variable (place : Place)

theorem Place.skip_skip (first second : Nat) :
    (place.skip first).skip second = place.skip (first + second) := by
  simp only [skip, Nat.add_assoc]

/-- A character up to the tilde takes one byte. -/
theorem Place.next_eq_skip {c : Char} (ascii : c.toNat ≤ 0x7E) : place.next c = place.skip 1 := by
  have size : c.utf8Size = 1 := Char.utf8Size_eq_one_iff.mpr (Nat.le_trans ascii (by decide))
  rw [next, skip, size]

end Places

/-! ## Strings -/

theorem escapeCode_letter {letter c : Char} (listed : (letter, c) ∈ letterEscapes)
    (rest : List Char) : isBreak letter = false ∧ escapeCode letter rest = some (c, 0) := by
  simp only [letterEscapes, List.mem_cons, List.not_mem_nil, or_false, Prod.mk.injEq] at listed
  rcases listed with ⟨rfl, rfl⟩ | ⟨rfl, rfl⟩ | ⟨rfl, rfl⟩ | ⟨rfl, rfl⟩ | ⟨rfl, rfl⟩ | ⟨rfl, rfl⟩ |
    ⟨rfl, rfl⟩ <;> exact ⟨rfl, rfl⟩

/-- The digits of a control character are its code. -/
theorem hexNumber_hexPair {code : Nat} (control : code < 0x20) :
    hexNumber ('0' :: '0' :: hexPair code) = some code := by
  have all : ∀ code < 0x20, hexNumber ('0' :: '0' :: hexPair code) = some code := by decide
  exact all code control

theorem escapeCode_hexPair {c : Char} (control : c.toNat < 0x20) (rest : List Char) :
    escapeCode 'u' ('0' :: '0' :: hexPair c.toNat ++ rest) = some (c, 4) := by
  have valid : ¬ ((0xD800 ≤ c.toNat ∧ c.toNat ≤ 0xDFFF) ∨ 0x10FFFF < c.toNat) := by omega
  have char : charOfCode c.toNat = some c := by
    rw [charOfCode, if_neg valid, Char.ofNat_toNat]
  have digits : ('0' :: '0' :: (hexPair c.toNat ++ rest)).take 4 = '0' :: '0' :: hexPair c.toNat :=
    rfl
  have enough : ¬ ('0' :: '0' :: (hexPair c.toNat ++ rest)).length < 4 := by
    simp [hexPair]
  rw [escapeCode, codeLength, List.cons_append, List.cons_append]
  dsimp only
  rw [if_neg enough, digits, hexNumber_hexPair control, Option.bind_eq_bind, Option.bind_some, char]
  rfl

/-- A character stands for itself, or it is escaped so that it can be read back. -/
theorem escapeChar_self_or_escapes (c : Char) :
    (escapeChar c = [c] ∧ c ≠ '"' ∧ c ≠ '\\' ∧ ¬ c.toNat < 0x20) ∨
      ∃ letter code, escapeChar c = '\\' :: letter :: code ∧ isBreak letter = false ∧
        ∀ rest, escapeCode letter (code ++ rest) = some (c, code.length) := by
  rcases Json.escapeChar_cases c with self | ⟨letter, listed, written⟩ | ⟨control, written⟩
  · exact Or.inl self
  · exact Or.inr ⟨letter, [], written, (escapeCode_letter listed []).1,
      fun rest => (escapeCode_letter listed rest).2⟩
  · exact Or.inr ⟨'u', '0' :: '0' :: hexPair c.toNat, written, rfl, escapeCode_hexPair control⟩

section DoubleQuoted

variable {written rest : List Char} {gap : Gap} {place : Place}

/-- A character that is no indicator between double quotes is taken as it is. -/
theorem scanDoubleQuoted_cons (inside : 0 < place.column) {c : Char} (ink : isBlank c = false)
    (inLine : isBreak c = false) (notQuote : c ≠ '"') (notBackslash : c ≠ '\\') :
    scanDoubleQuoted written gap place (c :: rest) =
      scanDoubleQuoted (c :: (gap.folded ++ written)) .none (place.next c) rest := by
  have column : place.column ≠ 0 := Nat.ne_of_gt inside
  conv_lhs => unfold scanDoubleQuoted
  simp [column, ink, inLine, notQuote, notBackslash]

/-- A blank counts if no line ends behind it. -/
theorem scanDoubleQuoted_blank (inside : 0 < place.column) {c : Char} (blank : isBlank c = true) :
    scanDoubleQuoted written gap place (c :: rest) =
      scanDoubleQuoted written (gap.addBlank c) (place.next c) rest := by
  have column : place.column ≠ 0 := Nat.ne_of_gt inside
  conv_lhs => unfold scanDoubleQuoted
  simp [column, blank]

/-- An escape stands for its character. -/
theorem scanDoubleQuoted_escape (inside : 0 < place.column) {letter c : Char} {code : List Char}
    (inLine : isBreak letter = false)
    (escapes : escapeCode letter (code ++ rest) = some (c, code.length)) :
    scanDoubleQuoted written gap place ('\\' :: letter :: (code ++ rest)) =
      scanDoubleQuoted (c :: (gap.folded ++ written)) .none (place.skip (code.length + 2))
        rest := by
  have column : place.column ≠ 0 := Nat.ne_of_gt inside
  have ink : isBlank '\\' = false := rfl
  have inLine' : isBreak '\\' = false := rfl
  have behind : (code ++ rest).drop code.length = rest := List.drop_left
  conv_lhs => unfold scanDoubleQuoted
  simp [column, ink, inLine', inLine, escapes, behind]

/-- The quote at the end ends the scalar. -/
theorem scanDoubleQuoted_quote (inside : 0 < place.column) :
    scanDoubleQuoted written gap place ('"' :: rest) =
      some ⟨(gap.folded ++ written).reverse, place.skip 1, rest⟩ := by
  have column : place.column ≠ 0 := Nat.ne_of_gt inside
  rw [← place.next_eq_skip (show '"'.toNat ≤ 0x7E by decide)]
  unfold scanDoubleQuoted
  simp [column, isBlank, isBreak]

/-- A quoted text is read up to its closing quote, as the text it is. -/
theorem scanDoubleQuoted_flatMap {body : List Char} (ascii : ∀ c ∈ body, c.toNat ≤ 0x7E)
    (inside : 0 < place.column) (written blanks : List Char) :
    scanDoubleQuoted written (.blanks blanks) place (body.flatMap escapeChar ++ '"' :: rest) =
      some ⟨(blanks ++ written).reverse ++ body,
        place.skip ((body.flatMap escapeChar).length + 1), rest⟩ := by
  -- What has been read is kept in two parts, of which only the whole matters in the end.
  induction body generalizing written blanks place with
  | nil =>
      rw [List.flatMap_nil, List.nil_append, scanDoubleQuoted_quote inside, List.append_nil]
      rfl
  | cons c body ih =>
      obtain ⟨first, later⟩ := List.forall_mem_cons.mp ascii
      have further (count : Nat) : 0 < (place.skip count).column := Nat.lt_add_right _ inside
      rw [List.flatMap_cons, List.append_assoc, List.length_append]
      rcases escapeChar_self_or_escapes c with
        ⟨same, notQuote, notBackslash, printable⟩ | ⟨letter, code, same, inLine, escapes⟩
      · rw [same, List.singleton_append]
        have inLine : isBreak c = false := by
          cases broken : isBreak c with
          | false => rfl
          | true =>
              simp only [isBreak, Bool.or_eq_true, beq_iff_eq] at broken
              rcases broken with (rfl | rfl) | rfl
              · exact absurd (by decide) printable
              · exact absurd first (by decide)
              · exact absurd first (by decide)
        by_cases blank : isBlank c = true
        · rw [scanDoubleQuoted_blank inside blank, Gap.addBlank, place.next_eq_skip first,
            ih later (further 1), Place.skip_skip]
          simp [Nat.add_comm]
        · rw [scanDoubleQuoted_cons inside (Bool.eq_false_iff.mpr blank) inLine notQuote
            notBackslash, place.next_eq_skip first, Gap.none, ih later (further 1),
            Place.skip_skip]
          simp [Gap.folded, Nat.add_comm]
      · rw [same, List.cons_append, List.cons_append,
          scanDoubleQuoted_escape inside inLine (escapes _), Gap.none, ih later (further _),
          Place.skip_skip, ← Nat.add_assoc]
        simp [Gap.folded]

end DoubleQuoted

/-! ## Words -/

/-- A character that may stand in a name is none that may not. -/
theorem ne_of_isNameChar {c : Char} (name : isNameChar c = true) {others : List Char}
    (structural : others.all (fun other => !isNameChar other) = true) :
    ∀ other ∈ others, c ≠ other := by
  rintro other listed rfl
  have structural := List.all_eq_true.mp structural c listed
  rw [name] at structural
  cases structural

/-- The characters of names tell nothing about the structure of a stream. -/
theorem plain_of_isNameChar {c : Char} (name : isNameChar c = true) :
    isBlank c = false ∧ isBreak c = false ∧ isFlowIndicator c = false ∧ c ≠ ':' := by
  have other : ∀ other ∈ [' ', '\t', '\n', '\u2028', '\u2029', ',', '[', ']', '\x7b', '\x7d', ':'],
      c ≠ other := ne_of_isNameChar name rfl
  simp only [List.forall_mem_cons] at other
  simp [isBlank, isBreak, isFlowIndicator, other]

theorem isPrintable_of_isNameChar {c : Char} (name : isNameChar c = true) :
    isPrintable c = true := by
  refine isPrintable_iff.mpr ?_
  simp only [isNameChar, Bool.or_eq_true, Bool.and_eq_true, decide_eq_true_eq, beq_iff_eq,
    Char.le_def] at name
  rcases name with (((⟨above, below⟩ | ⟨above, below⟩) | ⟨above, below⟩) | rfl) | rfl
  · exact ⟨Nat.le_trans (by decide) above, Nat.le_trans below (by decide)⟩
  · exact ⟨Nat.le_trans (by decide) above, Nat.le_trans below (by decide)⟩
  · exact ⟨Nat.le_trans (by decide) above, Nat.le_trans below (by decide)⟩
  · decide
  · decide

/-- A plain scalar in a flow collection goes on with the characters of names, up to a comma or the
end of the collection. -/
theorem scanPlain_append {word rest : List Char} (names : ∀ c ∈ word, isNameChar c = true)
    (delimited : Delimited rest) (indent : Int) (written : List Char) (place : Place) :
    scanPlain true indent written .none place (word ++ rest) =
      some ⟨⟨written.reverse ++ word, false⟩, place.skip word.length, rest⟩ := by
  induction word generalizing written place with
  | nil =>
      rw [List.nil_append, List.append_nil]
      cases delimited <;> rfl
  | cons c word ih =>
      obtain ⟨name, names⟩ := List.forall_mem_cons.mp names
      obtain ⟨ink, inLine, plain, notColon⟩ := plain_of_isNameChar name
      have going : scanPlain true indent written .none place (c :: (word ++ rest)) =
          scanPlain true indent (c :: written) .none (place.next c) (word ++ rest) := by
        rw [scanPlain]
        simp [ink, inLine, plain, notColon, plainEndsBehindGap, atForbiddenColon, atPlainEnd,
          Gap.none, Gap.isNone, Gap.folded]
      have ascii : c.toNat ≤ 0x7E := (isPrintable_iff.mp (isPrintable_of_isNameChar name)).2
      rw [List.cons_append, going, ih names, place.next_eq_skip ascii, Place.skip_skip]
      simp [Nat.add_comm]

end Runbook.Yaml
