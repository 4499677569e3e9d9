import Runbook.Http.Client
import Runbook.Proofs.Text.Utf8

/-!
# Quoted bodies

A body that is too long for an error is quoted up to the end of the last character for which there is
room. Such a quotation exists for every body and for any room, even for none, so that each response
with a status that is not accepted can be reported (`Http.quotationLaw`).
-/

namespace Runbook.Http

open Text.Utf8 (encode boundaryUpTo? textBefore? LongestFront exists_longestFront)

variable {text : String} {most : Nat}

theorem truncate?_of_short (short : (encode text).length ≤ most) :
    truncate? text most = some text :=
  if_pos short

/-- A text that is too long is cut behind its longest front. -/
theorem exists_truncate?_of_long (long : most < (encode text).length) :
    ∃ front, LongestFront text most front ∧ truncate? text most = some (front ++ "...") := by
  obtain ⟨index, front, searched, -, cut, longest⟩ := exists_longestFront text most
  refine ⟨front, longest, ?_⟩
  rw [truncate?, if_neg (Nat.not_le.mpr long), searched, Option.bind_eq_bind, Option.bind_some, cut]
  rfl

theorem truncate_eq {cut : String} (formed : truncate? text most = some cut) :
    truncate text most = cut := by
  rw [truncate, formed, Option.getD_some]

theorem exists_truncate? (text : String) (most : Nat) : ∃ cut, truncate? text most = some cut := by
  rcases Nat.lt_or_ge most (encode text).length with long | short
  · obtain ⟨front, -, formed⟩ := exists_truncate?_of_long long
    exact ⟨_, formed⟩
  · exact ⟨text, truncate?_of_short short⟩

/-- A quotation consists of no more bytes of the text than there is room for, and maybe of dots. -/
theorem exists_front_of_truncate (text : String) (most : Nat) :
    ∃ front : String, front.toList <+: text.toList ∧ (encode front).length ≤ most ∧
      (truncate text most = front ∨ truncate text most = front ++ "...") := by
  rcases Nat.lt_or_ge most (encode text).length with long | short
  · obtain ⟨front, longest, formed⟩ := exists_truncate?_of_long long
    exact ⟨front, longest.begins, longest.fits, Or.inr (truncate_eq formed)⟩
  · exact ⟨text, List.prefix_rfl, short, Or.inl (truncate_eq (truncate?_of_short short))⟩

/-- How a text is quoted. -/
structure QuotationLaw (text : String) : Prop where
  whole : ∀ most, (encode text).length ≤ most → truncate text most = text
  cut : ∀ most, most < (encode text).length →
    ∃ front, LongestFront text most front ∧ most ≤ (encode front).length + 3 ∧
      truncate text most = front ++ "..."
  /-- The search for a boundary does not run past the front of the text, and the cut that is made
  there splits no character. -/
  searched : ∀ most, ∃ index front, boundaryUpTo? (encode text) most = some index ∧ index ≤ most ∧
    textBefore? (encode text) index = some front
  formed : ∀ most, truncate? text most = some (truncate text most)
  /-- A response with this body is reported if its status is not accepted, and no more than 512
  bytes of the body are quoted. -/
  reported : ∀ limits request response bytes, response.body = .ok bytes →
    Charset.bodyText response.contentType? bytes = text →
    request.accepts response.status = false →
    ∃ quoted, judge limits request response = .error (.unexpectedStatus response.status quoted) ∧
      truncate? text 512 = some quoted ∧
      ∃ front : String, front.toList <+: text.toList ∧ (encode front).length ≤ 512 ∧
        (quoted = front ∨ quoted = front ++ "...")

/-- **Quotations.** A text is quoted in full if there is room for it, and otherwise up to the end of
the last character that fits. -/
theorem quotationLaw (text : String) : QuotationLaw text where
  whole := fun _ short => truncate_eq (truncate?_of_short short)
  cut := by
    intro most long
    obtain ⟨front, longest, formed⟩ := exists_truncate?_of_long long
    exact ⟨front, longest, longest.room_le long, truncate_eq formed⟩
  searched := by
    intro most
    obtain ⟨index, front, searched, below, cut, -⟩ := exists_longestFront text most
    exact ⟨index, front, searched, below, cut⟩
  formed := by
    intro most
    obtain ⟨cut, formed⟩ := exists_truncate? text most
    rw [formed, truncate_eq formed]
  reported := by
    intro limits request response bytes arrived decoded refuses
    obtain ⟨quoted, formed⟩ := exists_truncate? text 512
    refine ⟨quoted, ?_, formed, ?_⟩
    · rw [judge, arrived]
      dsimp only
      rw [decoded, refuses, if_neg Bool.false_ne_true, mostQuoted, truncate_eq formed]
    · rw [← truncate_eq formed]
      exact exists_front_of_truncate text 512

/-- A character that would not fit is left out. -/
example : truncate "ééé" 3 = "é..." ∧ truncate "é" 1 = "..." ∧ truncate "short" 10 = "short" := by
  decide +kernel

end Runbook.Http
