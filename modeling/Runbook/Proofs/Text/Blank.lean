import Mathlib.Data.List.DropRight
import Runbook.Text.Blank

/-!
# Laws of trimming

Trimming takes characters away at the two ends only, and leaves a text as it is that neither begins
nor ends with a blank (`Text.trimChars_eq_self`). Blanks behind a text do not change what is left of
it (`Text.trimChars_append_of_all`).
-/

namespace Runbook.Text

variable {test : Char → Bool} {chars : List Char}

theorem dropEndWhile_eq_rdropWhile (test : Char → Bool) (chars : List Char) :
    dropEndWhile test chars = chars.rdropWhile test := rfl

/-- Characters at the end that satisfy the test do not change what is left. -/
theorem dropEndWhile_append_of_all {tail : List Char} (all : ∀ c ∈ tail, test c = true) :
    dropEndWhile test (chars ++ tail) = dropEndWhile test chars := by
  have dropped : ∀ c ∈ tail.reverse, test c = true := fun c member =>
    all c (List.mem_reverse.mp member)
  rw [dropEndWhile, dropEndWhile, List.reverse_append, List.dropWhile_append_of_pos dropped]

/-- What is left does not end with a character that satisfies the test. -/
theorem not_test_of_dropEndWhile_getLast? {c : Char}
    (last : (dropEndWhile test chars).getLast? = some c) : test c = false := by
  rw [dropEndWhile, List.getLast?_reverse] at last
  have kept := List.head?_dropWhile_not test chars.reverse
  rw [last] at kept
  exact kept

theorem dropEndWhile_eq_self (last : ∀ c, chars.getLast? = some c → test c = false) :
    dropEndWhile test chars = chars := by
  rw [dropEndWhile_eq_rdropWhile, List.rdropWhile_eq_self_iff]
  intro nonempty satisfied
  rw [last _ (List.getLast?_eq_some_getLast nonempty)] at satisfied
  cases satisfied

theorem mem_of_mem_trimChars {c : Char} (member : c ∈ trimChars chars) : c ∈ chars :=
  (List.dropWhile_sublist isBlank).subset ((List.rdropWhile_prefix isBlank _).subset member)

/-- A text that neither begins nor ends with a blank is trimmed already. -/
theorem trimChars_eq_self (first : ∀ c, chars.head? = some c → isBlank c = false)
    (last : ∀ c, chars.getLast? = some c → isBlank c = false) : trimChars chars = chars := by
  have begins : chars.dropWhile isBlank = chars := by
    cases chars with
    | nil => rfl
    | cons c rest =>
        rw [List.dropWhile_cons, first c rfl]
        rfl
  rw [trimChars, begins, dropEndWhile_eq_self last]

theorem not_isBlank_of_trimChars_head? {c : Char} (first : (trimChars chars).head? = some c) :
    isBlank c = false := by
  have kept := List.head?_dropWhile_not isBlank chars
  have begins : trimChars chars <+: chars.dropWhile isBlank := List.rdropWhile_prefix isBlank _
  have same : (chars.dropWhile isBlank).head? = some c :=
    List.singleton_prefix_iff_head?_eq_some.mp
      ((List.singleton_prefix_iff_head?_eq_some.mpr first).trans begins)
  rw [same] at kept
  exact kept

/-- Trimming twice is trimming once. -/
theorem trimChars_trimChars (chars : List Char) : trimChars (trimChars chars) = trimChars chars :=
  trimChars_eq_self (fun _ => not_isBlank_of_trimChars_head?)
    fun _ => not_test_of_dropEndWhile_getLast?

/-- Behind a text that neither begins nor ends with a blank, blanks are dropped at the end only. -/
theorem trimChars_append {front : List Char} (given : front ≠ [])
    (first : ∀ c, front.head? = some c → isBlank c = false)
    (last : ∀ c, front.getLast? = some c → isBlank c = false) (chars : List Char) :
    trimChars (front ++ chars) = front ++ dropEndWhile isBlank chars := by
  have begins : (front ++ chars).dropWhile isBlank = front ++ chars := by
    obtain ⟨c, rest, rfl⟩ := List.exists_cons_of_ne_nil given
    rw [List.cons_append, List.dropWhile_cons, first c rfl]
    rfl
  have ends : front.reverse.dropWhile isBlank = front.reverse := by
    rw [← List.reverse_inj, List.reverse_reverse]
    exact dropEndWhile_eq_self last
  rw [trimChars, begins, dropEndWhile, List.reverse_append, List.dropWhile_append, ends,
    dropEndWhile]
  split
  · rename_i nothing
    rw [List.isEmpty_iff.mp nothing, List.reverse_reverse, List.reverse_nil, List.append_nil]
  · rw [List.reverse_append, List.reverse_reverse]

/-- Blanks behind a text do not change what is left of it. -/
theorem trimChars_append_of_all {tail : List Char} (blank : ∀ c ∈ tail, isBlank c = true) :
    trimChars (chars ++ tail) = trimChars chars := by
  rw [trimChars, trimChars, List.dropWhile_append]
  split
  · rename_i nothing
    rw [List.isEmpty_iff.mp nothing, List.dropWhile_eq_nil_iff.mpr blank]
  · exact dropEndWhile_append_of_all blank

end Runbook.Text
