import Mathlib.Data.List.Chain
import Runbook.Proofs.Template.Layout
import Runbook.Proofs.Text.Blank

/-!
# The grammar of templates

A text has at most one layout (`Template.Layout.eq_of_chars_eq`), and it is a template exactly if
the paths of this layout are references. What is read from a text can be written back and read again
(`Template.parse_writeBack`). `Template.parse_grammar` puts the grammar together.
-/

namespace Runbook

/-- The text of a segment in a template. -/
def Segment.writeBack : Segment → String
  | .literal text => text
  | .reference target => "$\x7b" ++ target.text ++ "\x7d"

/-- The characters of a segment that stand for themselves. -/
def Segment.plainChars : Segment → List Char
  | .literal text => text.toList
  | .reference _ => []

/-- Whether a segment is a literal. -/
def Segment.isLiteral : Segment → Bool
  | .literal _ => true
  | .reference _ => false

/-! ## References -/

namespace Reference

variable {path : List Char} {reference : Reference}

theorem parse_ofList (path : List Char) : parse (String.ofList path) = ofChars path := by
  rw [parse, String.toList_ofList]

/-- A path can be read exactly if it is not blank and no piece of it is empty. -/
theorem exists_ofChars_iff :
    (∃ reference, ofChars path = .ok reference) ↔
      Text.trimChars path ≠ [] ∧ ∀ piece ∈ pieces (Text.trimChars path), piece ≠ [] := by
  simp only [ofChars_eq_ok_iff]
  constructor
  · rintro ⟨reference, given, pieces_given, -⟩
    exact ⟨given, pieces_given⟩
  · rintro ⟨given, pieces_given⟩
    obtain ⟨first, others, split⟩ :=
      List.exists_cons_of_ne_nil (List.splitOn_ne_nil '.' (Text.trimChars path))
    refine ⟨⟨String.ofList first, others.map String.ofList⟩, given, pieces_given, ?_⟩
    rw [pieces, split]
    rfl

/-- The dotted form of a reference is its path without the blanks around it. -/
theorem Dotted.text_toList (dotted : Dotted path reference) :
    reference.text.toList = Text.trimChars path := by
  have characters : (reference.segments.map String.toList) = pieces (Text.trimChars path) := by
    rw [dotted.segments, List.map_map]
    exact List.map_id'' (fun _ => String.toList_ofList) _
  rw [text, String.toList_intercalate, characters]
  exact List.intercalate_splitOn '.'

/-- Blanks around a path do not change its reference. -/
theorem Dotted.trimmed (dotted : Dotted path reference) :
    Dotted (Text.trimChars path) reference := by
  constructor
  · rw [Text.trimChars_trimChars]
    exact dotted.given
  · rw [Text.trimChars_trimChars]
    exact dotted.pieces_given
  · rw [Text.trimChars_trimChars]
    exact dotted.segments

/-- The dotted form of a reference is read as that reference. -/
theorem parse_text {raw : String} (read : parse raw = .ok reference) :
    parse reference.text = .ok reference := by
  have dotted := ofChars_eq_ok_iff.mp read
  rw [parse, dotted.text_toList]
  exact ofChars_eq_ok_iff.mpr dotted.trimmed

end Reference

namespace Template

/-- The text of segments: literals as they are, and references between braces. -/
def writeBack (segments : List Segment) : String :=
  String.join (segments.map Segment.writeBack)

theorem opening_infix_append (before behind : List Char) :
    opening <:+: before ++ (opening ++ behind) :=
  ⟨before, behind, List.append_assoc ..⟩

/-- Texts without an opening that stand in front of one can be told from what follows. -/
theorem append_opening_inj {left right leftBehind rightBehind : List Char}
    (leftPlain : ¬ opening <:+: left) (rightPlain : ¬ opening <:+: right)
    (same : left ++ (opening ++ leftBehind) = right ++ (opening ++ rightBehind)) :
    left = right ∧ leftBehind = rightBehind := by
  have first := splitOpening_eq_some_iff.mpr ⟨same.symm, leftPlain⟩
  have second : splitOpening (right ++ (opening ++ rightBehind)) = some (right, rightBehind) :=
    splitOpening_eq_some_iff.mpr ⟨rfl, rightPlain⟩
  exact Prod.mk.inj (Option.some.inj (first.symm.trans second))

/-- Texts without a closing that stand in front of one can be told from what follows. -/
theorem append_closing_inj {left right leftBehind rightBehind : List Char}
    (leftInside : closing ∉ left) (rightInside : closing ∉ right)
    (same : left ++ closing :: leftBehind = right ++ closing :: rightBehind) :
    left = right ∧ leftBehind = rightBehind := by
  have first := splitClosing_eq_some_iff.mpr ⟨same.symm, leftInside⟩
  have second : splitClosing (right ++ closing :: rightBehind) = some (right, rightBehind) :=
    splitClosing_eq_some_iff.mpr ⟨rfl, rightInside⟩
  exact Prod.mk.inj (Option.some.inj (first.symm.trans second))

namespace Layout

/-- The literal texts of a layout, in order. -/
def texts : Layout → List (List Char)
  | .literal text => [text]
  | .placeholder text _ rest => text :: rest.texts

/-- The paths of a layout, in order. -/
def paths : Layout → List (List Char)
  | .literal _ => []
  | .placeholder _ path rest => path :: rest.paths

/-- No literal opens a placeholder, and no path closes one. -/
structure Plain (layout : Layout) : Prop where
  texts_plain : ∀ text ∈ layout.texts, ¬ opening <:+: text
  paths_inside : ∀ path ∈ layout.paths, closing ∉ path

/-- The layout of a text. -/
structure LaysOut (layout : Layout) (raw : String) : Prop where
  chars_eq : layout.chars = raw.toList
  plain : layout.Plain

variable {layout : Layout} {segments : List Segment}

theorem plain_literal_iff {text : List Char} :
    (literal text).Plain ↔ ¬ opening <:+: text := by
  constructor
  · exact fun plain => plain.texts_plain text (List.mem_singleton_self _)
  · intro plain
    refine ⟨fun other member => ?_, fun path member => nomatch member⟩
    rwa [List.mem_singleton.mp member]

theorem plain_placeholder_iff {text path : List Char} {rest : Layout} :
    (placeholder text path rest).Plain ↔
      ¬ opening <:+: text ∧ closing ∉ path ∧ rest.Plain := by
  constructor
  · rintro ⟨texts, paths⟩
    rw [Layout.texts, List.forall_mem_cons] at texts
    rw [Layout.paths, List.forall_mem_cons] at paths
    exact ⟨texts.1, paths.1, texts.2, paths.2⟩
  · rintro ⟨plain, inside, texts, paths⟩
    exact ⟨List.forall_mem_cons.mpr ⟨plain, texts⟩, List.forall_mem_cons.mpr ⟨inside, paths⟩⟩

/-- The pieces of a layout are there when its paths are references. -/
theorem exists_reads_iff :
    (∃ segments, layout.Reads segments) ↔
      layout.Plain ∧ ∀ path ∈ layout.paths, ∃ reference, Reference.Dotted path reference := by
  induction layout with
  | literal text =>
      rw [plain_literal_iff]
      constructor
      · rintro ⟨_, reads⟩
        cases reads with
        | literal plain => exact ⟨plain, fun path member => nomatch member⟩
      · rintro ⟨plain, -⟩
        exact ⟨_, .literal plain⟩
  | placeholder text path rest ih =>
      rw [plain_placeholder_iff, Layout.paths, List.forall_mem_cons]
      constructor
      · rintro ⟨_, reads⟩
        cases reads with
        | placeholder plain inside dotted behind =>
            obtain ⟨plainRest, references⟩ := ih.mp ⟨_, behind⟩
            exact ⟨⟨plain, inside, plainRest⟩, ⟨_, dotted⟩, references⟩
      · rintro ⟨⟨plain, inside, plainRest⟩, ⟨reference, dotted⟩, references⟩
        obtain ⟨segments, behind⟩ := ih.mpr ⟨plainRest, references⟩
        exact ⟨_, .placeholder plain inside dotted behind⟩

theorem Reads.plain (reads : layout.Reads segments) : layout.Plain :=
  (exists_reads_iff.mp ⟨segments, reads⟩).1

/-- **A text has at most one layout.** The first opening ends the first literal, and the next
closing ends the first path. -/
theorem eq_of_chars_eq {other : Layout} (plain : layout.Plain) (otherPlain : other.Plain)
    (same : layout.chars = other.chars) : layout = other := by
  induction layout generalizing other with
  | literal text =>
      cases other with
      | literal found => exact congrArg literal same
      | placeholder found path rest =>
          have split : text = found ++ (opening ++ (path ++ closing :: rest.chars)) := same
          refine (plain_literal_iff.mp plain ?_).elim
          rw [split]
          exact opening_infix_append found _
  | placeholder text path rest ih =>
      obtain ⟨plainText, inside, plainRest⟩ := plain_placeholder_iff.mp plain
      cases other with
      | literal found =>
          have split : text ++ (opening ++ (path ++ closing :: rest.chars)) = found := same
          refine (plain_literal_iff.mp otherPlain ?_).elim
          rw [← split]
          exact opening_infix_append text _
      | placeholder found otherPath others =>
          obtain ⟨plainFound, otherInside, plainOthers⟩ := plain_placeholder_iff.mp otherPlain
          obtain ⟨rfl, behind⟩ := append_opening_inj plainText plainFound same
          obtain ⟨rfl, left⟩ := append_closing_inj inside otherInside behind
          rw [ih plainRest plainOthers left]

theorem LaysOut.eq {other : Layout} {raw : String} (laysOut : layout.LaysOut raw)
    (otherLaysOut : other.LaysOut raw) : layout = other :=
  eq_of_chars_eq laysOut.plain otherLaysOut.plain
    (laysOut.chars_eq.trans otherLaysOut.chars_eq.symm)

/-! ## Pieces -/

theorem not_literal_mem_literalPiece_empty {text : List Char} :
    Segment.literal "" ∉ literalPiece text := by
  unfold literalPiece
  split
  · exact List.not_mem_nil
  · rename_i given
    intro member
    have empty : "" = String.ofList text := Segment.literal.inj (List.mem_singleton.mp member)
    exact given (List.isEmpty_iff.mpr (String.ofList_injective empty.symm))

/-- No literal piece is empty. -/
theorem Reads.literal_ne_empty (reads : layout.Reads segments) {text : String}
    (member : .literal text ∈ segments) : text ≠ "" := by
  rintro rfl
  induction reads with
  | literal plain => exact not_literal_mem_literalPiece_empty member
  | placeholder plain inside dotted behind ih =>
      rcases List.mem_append.mp member with first | later
      · exact not_literal_mem_literalPiece_empty first
      · rcases List.mem_cons.mp later with clash | later
        · cases clash
        · exact ih later

/-- Literals are kept apart by references. -/
theorem Reads.literals_apart (reads : layout.Reads segments) :
    segments.IsChain fun left right => ¬ (left.isLiteral ∧ right.isLiteral) := by
  induction reads with
  | literal plain =>
      unfold literalPiece
      split
      · exact List.isChain_nil
      · exact List.isChain_singleton _
  | @placeholder text path rest reference segments plain inside dotted behind ih =>
      have follows : (Segment.reference reference :: segments).IsChain
          fun left right => ¬ (left.isLiteral ∧ right.isLiteral) :=
        List.isChain_cons.mpr ⟨fun _ _ both => Bool.false_ne_true both.1, ih⟩
      unfold literalPiece
      split
      · exact follows
      · refine List.isChain_cons.mpr ⟨?_, follows⟩
        rintro next ⟨⟩ both
        exact Bool.false_ne_true both.2

theorem flatMap_plainChars_literalPiece (text : List Char) :
    (literalPiece text).flatMap Segment.plainChars = text := by
  cases text with
  | nil => rfl
  | cons c text => simp [literalPiece, Segment.plainChars]

/-- All characters outside placeholders are kept. -/
theorem Reads.plainChars_eq (reads : layout.Reads segments) :
    segments.flatMap Segment.plainChars = layout.texts.flatten := by
  induction reads with
  | @literal text plain =>
      rw [flatMap_plainChars_literalPiece, texts, List.flatten_singleton]
  | @placeholder text path rest reference segments plain inside dotted behind ih =>
      rw [List.flatMap_append, flatMap_plainChars_literalPiece, List.flatMap_cons, ih, texts,
        List.flatten_cons]
      rfl

/-! ## Writing back -/

/-- The layout without blanks around its paths. -/
def trimmed : Layout → Layout
  | .literal text => .literal text
  | .placeholder text path rest => .placeholder text (Text.trimChars path) rest.trimmed

/-- Blanks around paths do not change the pieces. -/
theorem Reads.trimmed (reads : layout.Reads segments) : layout.trimmed.Reads segments := by
  induction reads with
  | literal plain => exact .literal plain
  | placeholder plain inside dotted behind ih =>
      exact .placeholder plain (fun member => inside (Text.mem_of_mem_trimChars member))
        dotted.trimmed ih

end Layout

theorem writeBack_append (left right : List Segment) :
    writeBack (left ++ right) = writeBack left ++ writeBack right := by
  rw [writeBack, List.map_append, String.join_append]
  rfl

theorem writeBack_cons (first : Segment) (segments : List Segment) :
    writeBack (first :: segments) = first.writeBack ++ writeBack segments := by
  rw [writeBack, List.map_cons, String.join_cons]
  rfl

theorem writeBack_literalPiece (text : List Char) :
    writeBack (literalPiece text) = String.ofList text := by
  cases text with
  | nil => rfl
  | cons c text => simp [literalPiece, writeBack, Segment.writeBack]

/-- What is written back has the layout without blanks around its paths. -/
theorem Layout.Reads.chars_trimmed {layout : Layout} {segments : List Segment}
    (reads : layout.Reads segments) : layout.trimmed.chars = (writeBack segments).toList := by
  induction reads with
  | literal plain => rw [writeBack_literalPiece, String.toList_ofList, Layout.trimmed, Layout.chars]
  | placeholder plain inside dotted behind ih =>
      rw [writeBack_append, writeBack_literalPiece, writeBack_cons, Layout.trimmed, Layout.chars,
        ih, Segment.writeBack]
      simp [dotted.text_toList, opening, closing]

/-- What is written back is read as the same pieces. -/
theorem parse_writeBack {raw : String} {template : Template} (read : parse raw = .ok template) :
    parse (writeBack template.segments) =
      .ok ⟨writeBack template.segments, template.segments⟩ := by
  obtain ⟨-, layout, -, reads⟩ := parse_eq_ok_iff.mp read
  exact parse_eq_ok_iff.mpr ⟨rfl, layout.trimmed, reads.chars_trimmed, reads.trimmed⟩

/-- What the grammar says of a text. -/
structure Grammar (raw : String) : Prop where
  /-- A text is a template exactly if it has a layout whose paths are references. -/
  readable_iff : (∃ template, parse raw = .ok template) ↔
    ∃ layout : Layout, layout.LaysOut raw ∧
      ∀ path ∈ layout.paths, ∃ reference, Reference.parse (String.ofList path) = .ok reference
  unambiguous : ∀ left right : Layout, left.LaysOut raw → right.LaysOut raw → left = right
  /-- The segments are the literals that are not empty, and the references, in order. -/
  reads : ∀ template, parse raw = .ok template → template.raw = raw ∧
    ∀ layout : Layout, layout.LaysOut raw → layout.Reads template.segments
  literal_ne_empty : ∀ template, parse raw = .ok template →
    ∀ text, .literal text ∈ template.segments → text ≠ ""
  literals_apart : ∀ template, parse raw = .ok template →
    template.segments.IsChain fun left right => ¬ (left.isLiteral ∧ right.isLiteral)
  /-- All characters outside placeholders are kept. -/
  plainChars_eq : ∀ template, parse raw = .ok template → ∀ layout : Layout, layout.LaysOut raw →
    template.segments.flatMap Segment.plainChars = layout.texts.flatten
  writeBack : ∀ template, parse raw = .ok template →
    ∃ again, parse (writeBack template.segments) = .ok again ∧
      again.segments = template.segments
  path_readable_iff : (∃ reference, Reference.parse raw = .ok reference) ↔
    Text.trimChars raw.toList ≠ [] ∧
      ∀ piece ∈ (Text.trimChars raw.toList).splitOn '.', piece ≠ []
  path_dotted_iff : ∀ reference, Reference.parse raw = .ok reference ↔
    Reference.Dotted raw.toList reference
  path_writeBack : ∀ reference, Reference.parse raw = .ok reference →
    Reference.parse reference.text = .ok reference
  placeholder_iff : ∀ reference, Reference.parsePlaceholder raw = .ok reference ↔
    ∃ path : String, raw = "$\x7b" ++ path ++ "\x7d" ∧ '\x7d' ∉ path.toList ∧
      Reference.parse path = .ok reference

theorem exists_laysOut_of_parse {raw : String} {template : Template}
    (read : parse raw = .ok template) :
    ∃ layout : Layout, layout.LaysOut raw ∧ layout.Reads template.segments := by
  obtain ⟨rfl, layout, written, reads⟩ := parse_eq_ok_iff.mp read
  exact ⟨layout, ⟨written, reads.plain⟩, reads⟩

theorem exists_parse_iff_laysOut {raw : String} :
    (∃ template, parse raw = .ok template) ↔
      ∃ layout : Layout, layout.LaysOut raw ∧
        ∀ path ∈ layout.paths, ∃ reference, Reference.Dotted path reference := by
  rw [exists_parse_iff]
  constructor
  · rintro ⟨layout, written, readable⟩
    obtain ⟨plain, references⟩ := Layout.exists_reads_iff.mp readable
    exact ⟨layout, ⟨written, plain⟩, references⟩
  · rintro ⟨layout, ⟨written, plain⟩, references⟩
    exact ⟨layout, written, Layout.exists_reads_iff.mpr ⟨plain, references⟩⟩

theorem parsePlaceholder_eq_ok_iff_exists {raw : String} {reference : Reference} :
    Reference.parsePlaceholder raw = .ok reference ↔
      ∃ path : String, raw = "$\x7b" ++ path ++ "\x7d" ∧ '\x7d' ∉ path.toList ∧
        Reference.parse path = .ok reference := by
  rw [Reference.parsePlaceholder_eq_ok_iff]
  constructor
  · rintro ⟨path, split, inside, dotted⟩
    refine ⟨String.ofList path, ?_, ?_, ?_⟩
    · rw [← String.toList_inj, split]
      simp [opening, closing]
    · rwa [String.toList_ofList]
    · rw [Reference.parse_ofList]
      exact Reference.ofChars_eq_ok_iff.mpr dotted
  · rintro ⟨path, rfl, inside, read⟩
    refine ⟨path.toList, ?_, inside, Reference.ofChars_eq_ok_iff.mp read⟩
    simp [opening, closing]

/-- **The grammar of templates is exact and unambiguous.** -/
theorem parse_grammar (raw : String) : Grammar raw where
  readable_iff := by
    simp only [Reference.parse_ofList, Reference.ofChars_eq_ok_iff]
    exact exists_parse_iff_laysOut
  unambiguous left right := Layout.LaysOut.eq
  reads template read := by
    obtain ⟨layout, laysOut, reads⟩ := exists_laysOut_of_parse read
    refine ⟨(parse_eq_ok_iff.mp read).1, fun other otherLaysOut => ?_⟩
    rwa [← laysOut.eq otherLaysOut]
  literal_ne_empty template read text := by
    obtain ⟨layout, -, reads⟩ := exists_laysOut_of_parse read
    exact reads.literal_ne_empty
  literals_apart template read := by
    obtain ⟨layout, -, reads⟩ := exists_laysOut_of_parse read
    exact reads.literals_apart
  plainChars_eq template read layout laysOut := by
    obtain ⟨other, otherLaysOut, reads⟩ := exists_laysOut_of_parse read
    rw [laysOut.eq otherLaysOut]
    exact reads.plainChars_eq
  writeBack template read := ⟨_, parse_writeBack read, rfl⟩
  path_readable_iff := Reference.exists_ofChars_iff
  path_dotted_iff reference := Reference.ofChars_eq_ok_iff
  path_writeBack reference := Reference.parse_text
  placeholder_iff reference := parsePlaceholder_eq_ok_iff_exists

/-- A dollar sign in front of an opening and a brace behind a closing stand for themselves. -/
example : (parse "$$\x7ba\x7d\x7d").map Template.segments =
    .ok [.literal "$", .reference ⟨"a", []⟩, .literal "\x7d"] := by
  decide +kernel

end Template

end Runbook
