import Runbook.Document
import Runbook.Proofs.Text.Utf8
import Runbook.Proofs.Yaml.Value

/-!
# Documents in either format

An object that both formats can write is the value of its compact text, which is read as JSON. It is
also the value of the same text with a line of comment behind it, which is no JSON and is read as
YAML (`Document.formatsAgree`). So a workflow does not depend on the format that it is read in.
-/

namespace Runbook

open Json (Portable chars text)
open Yaml (IsComment)

/-- No token of JSON begins with the mark of a comment. -/
theorem Json.tokens_comment {line : List Char} (comment : IsComment line) :
    Json.tokens ('\n' :: line) = none := by
  obtain ⟨body, rfl⟩ : ∃ body, line = '#' :: body := by
    cases comment <;> exact ⟨_, rfl⟩
  have space : Json.isSpace '\n' = true := rfl
  have ink : ¬ Json.isSpace '#' = true := by decide
  rw [Json.tokens, if_pos space, Json.tokens, if_neg ink]
  rfl

namespace Document

/-- The compact text of a value with a line of comment behind it. -/
def commented (value : Json) (line : String) : String := text value ++ "\n" ++ line

/-- What is read of the compact text of a value, and of the same text with a line of comment behind
it. -/
structure FormatsAgree (value : Json) (line : String) : Prop where
  /-- Without the comment, the text is read as JSON. -/
  asJson : Json.ofChars (text value).toList = some value
  /-- With the comment, it is no JSON. -/
  notJson : Json.ofChars (commented value line).toList = none
  /-- With the comment, it is read as YAML. -/
  asYaml : Yaml.ofChars (commented value line).toList = some value
  decoded : decode (Text.Utf8.encode (text value)) = some value
  decoded_commented : decode (Text.Utf8.encode (commented value line)) = some value
  parsed : parse (Text.Utf8.encode (commented value line)) = parse (Text.Utf8.encode (text value))

theorem decode_encode (text : String) :
    decode (Text.Utf8.encode text) = (Json.ofChars text.toList <|> Yaml.ofChars text.toList) := by
  rw [decode, Text.Utf8.encode, Text.Utf8.decodeChars_flatMap_encodeChar]
  rfl

/-- **The formats agree.** Each object of integers, truth values, null and texts up to the tilde, in
which containers are nested no deeper than both readers admit, which is 127 times, and in which
names are short enough to be found as keys, is what either format reads from its compact text. -/
theorem formatsAgree {room : Nat} {value : Json} (portable : Portable room value)
    (inside : room ≤ Json.deepest) (object : value.isObject = true) {line : String}
    (comment : IsComment line.toList) : FormatsAgree value line := by
  have portable := portable.mono inside
  cases value with
  | object members =>
    have written : (text (.object members)).toList = chars (.object members) := String.toList_ofList
    have written_commented : (commented (.object members) line).toList =
        chars (.object members) ++ '\n' :: line.toList := by
      simp [commented, written]
    have asJson : Json.ofChars (text (.object members)).toList = some (.object members) := by
      rw [written, portable.ofChars_chars]
    have notJson : Json.ofChars (commented (.object members) line).toList = none := by
      rw [written_commented, portable.ofChars_append_eq_none (Json.tokens_comment comment)]
    have asYaml : Yaml.ofChars (commented (.object members) line).toList =
        some (.object members) := by
      rw [written_commented, Yaml.ofChars_object portable comment]
    have decoded : decode (Text.Utf8.encode (text (.object members))) = some (.object members) := by
      rw [decode_encode, asJson]
      rfl
    have decoded_commented : decode (Text.Utf8.encode (commented (.object members) line)) =
        some (.object members) := by
      rw [decode_encode, notJson, asYaml]
      rfl
    exact
      { asJson, notJson, asYaml, decoded, decoded_commented
        parsed := by rw [parse, parse, decoded, decoded_commented] }
  | _ => cases object

/-- A tab, an escaped control character and a negative number in an array, with a comment that ends
in a line feed. -/
theorem formatsAgree_nested :
    Portable 100 (.object [("a b", .array [.number (.int (-5)), .string "\t\x01", .null]),
        ("c", .object [])]) ∧
      100 ≤ Json.deepest ∧ IsComment "# c\n".toList ∧
      FormatsAgree (.object [("a b", .array [.number (.int (-5)), .string "\t\x01", .null]),
        ("c", .object [])]) "# c\n" := by
  have portable : Portable 100
      (.object [("a b", .array [.number (.int (-5)), .string "\t\x01", .null]),
        ("c", .object [])]) := by
    have items : ∀ item ∈ [.number (.int (-5)), .string "\t\x01", .null], Portable 98 item := by
      refine List.forall_mem_cons.mpr ⟨.int (by decide) (by decide), ?_⟩
      exact List.forall_mem_cons.mpr ⟨.string (by decide), List.forall_mem_singleton.mpr .null⟩
    have empty : Portable 99 (.object []) :=
      .object (by decide) List.Pairwise.nil nofun nofun
    refine .object (by decide) (List.pairwise_pair.mpr (by decide)) ?_ ?_
    · exact List.forall_mem_cons.mpr
        ⟨⟨by decide, by decide⟩, List.forall_mem_singleton.mpr ⟨by decide, by decide⟩⟩
    · exact List.forall_mem_cons.mpr
        ⟨.array (by decide) items, List.forall_mem_singleton.mpr empty⟩
  have comment : IsComment "# c\n".toList := by
    have kept : ∀ c ∈ [' ', 'c'], Yaml.IsKept c :=
      fun c member => .of_isPrintable (List.all_eq_true.mp rfl c member)
    exact .ended kept (List.forall_mem_cons.mpr ⟨rfl, List.forall_mem_singleton.mpr rfl⟩)
  exact ⟨portable, by decide, comment, formatsAgree portable (by decide) rfl comment⟩

end Document

end Runbook
