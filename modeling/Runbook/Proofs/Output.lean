import Runbook.Proofs.Context
import Runbook.Proofs.Json.RoundTrip
import Runbook.Proofs.Text.Blank

/-!
# Outputs that are handed on

A task that puts out exactly the text of an earlier output publishes the same value
(`Output.handedOn`). JSON objects and arrays are read back from their compact text, and a text that
has not been read as one of them is not read as one later on either.
-/

namespace Runbook

namespace Json

section Ends

variable {tail rest : List Char}

theorem suffix_item (ends : tail <:+ rest) (before : Char) (value : Json) :
    tail <:+ before :: (chars value ++ rest) :=
  (ends.trans (List.suffix_append _ _)).trans (List.suffix_cons _ _)

theorem suffix_member (ends : tail <:+ rest) (before : Char) (name : String) (value : Json) :
    tail <:+ before :: (quote name ++ ':' :: (chars value ++ rest)) :=
  ((suffix_item ends ':' value).trans (List.suffix_append _ _)).trans (List.suffix_cons _ _)

end Ends

theorem suffix_itemsChars (items : List Json) : [']'] <:+ itemsChars items := by
  induction items with
  | nil => exact List.suffix_rfl
  | cons item items ih => exact suffix_item ih ',' item

theorem suffix_membersChars (members : List (String × Json)) :
    ['\x7d'] <:+ membersChars members := by
  induction members with
  | nil => exact List.suffix_rfl
  | cons member members ih => exact suffix_member ih ',' member.1 member.2

/-- The text of a container stands between brackets. -/
theorem brackets_of_isContainer {value : Json} (container : JsonTree.isContainer value = true) :
    ∃ first last : Char, (chars value).head? = some first ∧ [last] <:+ chars value ∧
      Text.isBlank first = false ∧ Text.isBlank last = false := by
  cases value with
  | array items =>
      refine ⟨'[', ']', ?_, ?_, by decide, by decide⟩
      · cases items <;> rfl
      · cases items with
        | nil => exact List.suffix_cons _ _
        | cons item items => exact suffix_item (suffix_itemsChars items) '[' item
  | object members =>
      refine ⟨'\x7b', '\x7d', ?_, ?_, by decide, by decide⟩
      · cases members <;> rfl
      · cases members with
        | nil => exact List.suffix_cons _ _
        | cons member members =>
            exact suffix_member (suffix_membersChars members) '\x7b' member.1 member.2
  | _ => cases container

/-- The text of a container is trimmed already. -/
theorem trimChars_chars {value : Json} (container : JsonTree.isContainer value = true) :
    Text.trimChars (chars value) = chars value := by
  obtain ⟨first, last, begins, ⟨before, ends⟩, firstInk, lastInk⟩ :=
    brackets_of_isContainer container
  refine Text.trimChars_eq_self (fun c found => ?_) fun c found => ?_
  · rw [begins] at found
    cases found
    exact firstInk
  · rw [← ends, List.getLast?_concat] at found
    cases found
    exact lastInk

/-- A container is rendered as its compact text. -/
theorem rendered_of_isContainer {value : Json} (container : JsonTree.isContainer value = true) :
    rendered value = text value := by
  cases value with
  | string text => cases container
  | _ => rfl

end Json

namespace Output

theorem isBlank_of_isLineEnd {c : Char} (lineEnd : isLineEnd c = true) :
    Text.isBlank c = true := by
  simp only [isLineEnd, Bool.or_eq_true, beq_iff_eq] at lineEnd
  rcases lineEnd with rfl | rfl <;> decide

/-- Line ends behind a body do not change the text that is left of it. -/
theorem withoutLineEnds_append {text tail : String}
    (lineEnds : ∀ c ∈ tail.toList, isLineEnd c = true) :
    withoutLineEnds (text ++ tail) = withoutLineEnds text := by
  rw [withoutLineEnds, withoutLineEnds, String.toList_append,
    Text.dropEndWhile_append_of_all lineEnds]

theorem withoutLineEnds_withoutLineEnds (text : String) :
    withoutLineEnds (withoutLineEnds text) = withoutLineEnds text := by
  rw [withoutLineEnds, withoutLineEnds, String.toList_ofList,
    Text.dropEndWhile_eq_self fun _ => Text.not_test_of_dropEndWhile_getLast?]

/-- A text is trimmed alike with its line ends and without them. -/
theorem trimChars_withoutLineEnds (text : String) :
    Text.trimChars (withoutLineEnds text).toList = Text.trimChars text.toList := by
  have split : text.toList.rdropWhile isLineEnd ++ text.toList.rtakeWhile isLineEnd =
      text.toList := List.rdropWhile_append_rtakeWhile
  rw [withoutLineEnds, String.toList_ofList, Text.dropEndWhile_eq_rdropWhile]
  conv_rhs => rw [← split]
  exact (Text.trimChars_append_of_all fun c member =>
    isBlank_of_isLineEnd (List.mem_rtakeWhile_imp member)).symm

/-- Trimming takes line ends away. -/
theorem trimChars_append_lineEnds {text tail : String}
    (lineEnds : ∀ c ∈ tail.toList, isLineEnd c = true) :
    Text.trimChars (text ++ tail).toList = Text.trimChars text.toList := by
  rw [String.toList_append]
  exact Text.trimChars_append_of_all fun c member => isBlank_of_isLineEnd (lineEnds c member)

/-- A body is a container that is written in it, or else its text. -/
theorem decodeBody_cases (body : String) :
    (∃ value, Json.ofChars (Text.trimChars body.toList) = some value ∧
        JsonTree.isContainer value = true ∧ decodeBody body = value) ∨
      (∀ value, Json.ofChars (Text.trimChars body.toList) = some value →
        JsonTree.isContainer value = false) ∧ decodeBody body = .string (withoutLineEnds body) := by
  rw [decodeBody]
  cases Json.ofChars (Text.trimChars body.toList) with
  | none => exact Or.inr ⟨fun _ read => (nomatch read), rfl⟩
  | some value =>
      by_cases container : JsonTree.isContainer value = true
      · exact Or.inl ⟨value, rfl, container, if_pos container⟩
      · refine Or.inr ⟨fun other read => ?_, if_neg container⟩
        cases read
        exact Bool.eq_false_iff.mpr container

/-- A body is text where no container is written in it. -/
theorem decodeBody_of_text {body : String}
    (text : ∀ value, Json.ofChars (Text.trimChars body.toList) = some value →
      JsonTree.isContainer value = false) :
    decodeBody body = .string (withoutLineEnds body) := by
  rcases decodeBody_cases body with ⟨value, read, container, -⟩ | ⟨-, decoded⟩
  · rw [text value read] at container
    cases container
  · exact decoded

/-- Decoding undoes rendering, with any line ends behind. -/
theorem decodeBody_rendered {body tail : String} (integral : (decodeBody body).Integral)
    (lineEnds : ∀ c ∈ tail.toList, isLineEnd c = true) :
    decodeBody (Json.rendered (decodeBody body) ++ tail) = decodeBody body := by
  rcases decodeBody_cases body with ⟨value, read, container, decoded⟩ | ⟨text, decoded⟩
  · -- The compact text of a container has brackets at both ends, so only the tail is trimmed.
    rw [decoded] at integral ⊢
    have back :
        Json.ofChars (Text.trimChars (Json.rendered value ++ tail).toList) = some value := by
      rw [trimChars_append_lineEnds lineEnds, Json.rendered_of_isContainer container, Json.text,
        String.toList_ofList, Json.trimChars_chars container]
      exact Json.ofChars_chars (Json.readable_of_ofChars read) integral
    rw [decodeBody, back]
    exact if_pos container
  · -- What was no container before the line ends were taken away is none without them.
    have same : Text.trimChars (withoutLineEnds body ++ tail).toList =
        Text.trimChars body.toList := by
      rw [trimChars_append_lineEnds lineEnds, trimChars_withoutLineEnds]
    rw [← same] at text
    rw [decoded, Json.rendered, decodeBody_of_text text, withoutLineEnds_append lineEnds,
      withoutLineEnds_withoutLineEnds]

/-- The value of the body is published as the output. -/
theorem lookup_publish_output (context : Context) (task : String) (output : Output) :
    (context.publish task output).lookup ⟨task, ["output"]⟩ = some (decodeBody output.body) := by
  rw [Context.lookup_publish, if_pos rfl, published]
  cases output.statusCode <;> cases output.exitCode <;>
    simp [Json.descend, Json.step, Dictionary.ofList, Dictionary.get?_insert]

/-- What happens to a body that is put out again, with a tail behind it. -/
structure HandedOn (body tail : String) : Prop where
  decoded : decodeBody (Json.rendered (decodeBody body) ++ tail) = decodeBody body
  /-- The value of the body is published by the task that puts it out. -/
  published : ∀ (context : Context) (task : String) (output : Output), output.body = body →
    (context.publish task output).lookup ⟨task, ["output"]⟩ = some (decodeBody body)
  /-- A text of nothing but a reference to this value can be resolved, and a task that puts out what
  it resolves to publishes the value again. -/
  again : ∀ (context : Context) (reference : Reference) (template : Template),
    context.lookup reference = some (decodeBody body) →
    template.segments = [.reference reference] →
    ∃ text, template.resolve context = .ok text ∧
      ∀ (context : Context) (task : String) (later : Output), later.body = text ++ tail →
        (context.publish task later).lookup ⟨task, ["output"]⟩ = some (decodeBody body)

/-- **An output is handed on unchanged.** This holds of all bodies without a fraction in a number,
whatever line ends are added to their text. -/
theorem handedOn {body tail : String} (integral : (decodeBody body).Integral)
    (lineEnds : ∀ c ∈ tail.toList, isLineEnd c = true) : HandedOn body tail := by
  have decoded := decodeBody_rendered integral lineEnds
  refine
    { decoded
      published := fun context task output same => same ▸ lookup_publish_output context task output
      again := fun context reference template bound segments => ?_ }
  refine ⟨Json.rendered (decodeBody body), ?_, fun context task later same => ?_⟩
  · have resolved : Segment.resolve context (.reference reference) =
        .ok (Json.rendered (decodeBody body)) := by
      rw [Segment.resolve, bound]
    rw [Template.resolve, segments, List.mapM_cons, List.mapM_nil, resolved]
    exact congrArg Except.ok String.empty_append
  · rw [lookup_publish_output, same, decoded]

/-- Of two members of one name the last one counts, and line ends do not. -/
theorem handedOn_object :
    decodeBody "\x7b\"b\": [1, -2], \"a\": 0, \"a\": \"\\n\"\x7d\n" =
        .object [("a", .string "\n"), ("b", .array [.number (.int 1), .number (.int (-2))])] ∧
      HandedOn "\x7b\"b\": [1, -2], \"a\": 0, \"a\": \"\\n\"\x7d\n" "\r\n" :=
  ⟨by decide +kernel, handedOn (by decide +kernel) (List.all_eq_true.mp (by decide +kernel))⟩

end Output

end Runbook
