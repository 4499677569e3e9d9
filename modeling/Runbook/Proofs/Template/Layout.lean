import Mathlib.Data.List.Infix
import Runbook.Proofs.Traversal
import Runbook.Template

/-!
# Layouts of templates

A template is written as literal texts with placeholders between them (`Template.Layout`). Reading
a text finds its pieces exactly if they are those of a layout of the text
(`Template.parse_eq_ok_iff`), and a text is a placeholder if its layout is one placeholder and
nothing else (`Reference.parsePlaceholder_eq_ok_iff`).
-/

namespace Runbook

/-- A dotted path and its reference: the pieces between the dots, blanks around the path apart, all
of which have a character. -/
structure Reference.Dotted (path : List Char) (reference : Reference) : Prop where
  given : Text.trimChars path ≠ []
  pieces_given : ∀ piece ∈ pieces (Text.trimChars path), piece ≠ []
  segments : reference.segments = (pieces (Text.trimChars path)).map String.ofList

namespace Template

/-- The characters that open a placeholder. -/
def opening : List Char := ['$', '\x7b']

/-- The character that closes a placeholder. -/
def closing : Char := '\x7d'

/-- A text as literals and the paths of placeholders between them. -/
inductive Layout where
  /-- The text behind the last placeholder. -/
  | literal (text : List Char)
  /-- A text, a placeholder, and what follows. -/
  | placeholder (text path : List Char) (rest : Layout)

namespace Layout

/-- The text of a layout. -/
def chars : Layout → List Char
  | .literal text => text
  | .placeholder text path rest => text ++ (opening ++ (path ++ closing :: rest.chars))

/-- The layout has the pieces: its literals, as far as they are not empty, and the references of its
paths. No literal opens a placeholder, and no path closes one. -/
inductive Reads : Layout → List Segment → Prop
  | literal {text : List Char} (plain : ¬ opening <:+: text) :
      Reads (.literal text) (literalPiece text)
  | placeholder {text path : List Char} {rest : Layout} {reference : Reference}
      {segments : List Segment} (plain : ¬ opening <:+: text) (inside : closing ∉ path)
      (dotted : Reference.Dotted path reference) (behind : Reads rest segments) :
      Reads (.placeholder text path rest)
        (literalPiece text ++ .reference reference :: segments)

end Layout

/-! ## Openings and closings -/

/-- An opening in a longer text stands at its start or further on. -/
theorem opening_infix_cons_iff {c : Char} {rest : List Char} :
    opening <:+: c :: rest ↔ (∃ behind, c :: rest = opening ++ behind) ∨ opening <:+: rest := by
  rw [List.infix_cons_iff]
  exact or_congr_left ⟨fun ⟨behind, split⟩ => ⟨behind, split.symm⟩,
    fun ⟨behind, split⟩ => ⟨behind, split.symm⟩⟩

theorem not_opening_infix_nil : ¬ opening <:+: [] := fun found =>
  List.cons_ne_nil _ _ (List.infix_nil.mp found)

/-- No opening is found exactly where there is none. -/
theorem splitOpening_eq_none_iff {chars : List Char} :
    splitOpening chars = none ↔ ¬ opening <:+: chars := by
  fun_induction splitOpening chars with
  | case1 => exact iff_of_true rfl not_opening_infix_nil
  | case2 rest => exact iff_of_false (Option.some_ne_none _) fun absent => absent ⟨[], rest, rfl⟩
  | case3 c rest other ih =>
      have elsewhere : ¬ ∃ behind, c :: rest = opening ++ behind := by
        rintro ⟨behind, split⟩
        cases split
        exact other behind rfl rfl
      rw [Option.map_eq_none_iff, ih, opening_infix_cons_iff, or_iff_right elsewhere]

/-- The first opening is found: there is none in the text in front of it. -/
theorem splitOpening_eq_some_iff {chars before behind : List Char} :
    splitOpening chars = some (before, behind) ↔
      chars = before ++ (opening ++ behind) ∧ ¬ opening <:+: before := by
  fun_induction splitOpening chars generalizing before with
  | case1 =>
      refine iff_of_false (Option.some_ne_none _).symm ?_
      rintro ⟨split, -⟩
      exact List.append_ne_nil_of_right_ne_nil _ (List.cons_ne_nil _ _) split.symm
  | case2 rest =>
      constructor
      · intro found
        cases found
        exact ⟨rfl, not_opening_infix_nil⟩
      · rintro ⟨split, plain⟩
        rcases before with _ | ⟨first, _ | ⟨second, text⟩⟩
        · cases split
          rfl
        · cases split
        · cases split
          exact (plain ⟨[], text, rfl⟩).elim
  | case3 c rest other ih =>
      have elsewhere : ∀ behind, c :: rest ≠ opening ++ behind := by
        intro behind split
        cases split
        exact other behind rfl rfl
      constructor
      · intro found
        obtain ⟨⟨text, later⟩, found, same⟩ := Option.map_eq_some_iff.mp found
        cases same
        obtain ⟨rfl, plain⟩ := ih.mp found
        refine ⟨rfl, fun opened => ?_⟩
        rcases opening_infix_cons_iff.mp opened with ⟨further, split⟩ | opened
        · have whole := congrArg (· ++ (opening ++ behind)) split
          exact elsewhere _ (whole.trans (List.append_assoc ..))
        · exact plain opened
      · rintro ⟨split, plain⟩
        cases before with
        | nil => exact (elsewhere behind split).elim
        | cons first text =>
            cases split
            have plainText : ¬ opening <:+: text := fun opened =>
              plain (opening_infix_cons_iff.mpr (Or.inr opened))
            rw [ih.mpr ⟨rfl, plainText⟩]
            rfl

/-- The first closing is found: there is none in the text in front of it. -/
theorem splitClosing_eq_some_iff {chars before behind : List Char} :
    splitClosing chars = some (before, behind) ↔
      chars = before ++ closing :: behind ∧ closing ∉ before := by
  fun_induction splitClosing chars generalizing before with
  | case1 =>
      refine iff_of_false (Option.some_ne_none _).symm ?_
      rintro ⟨split, -⟩
      exact List.append_ne_nil_of_right_ne_nil _ (List.cons_ne_nil _ _) split.symm
  | case2 rest =>
      constructor
      · intro found
        cases found
        exact ⟨rfl, List.not_mem_nil⟩
      · rintro ⟨split, inside⟩
        cases before with
        | nil =>
            cases split
            rfl
        | cons first text =>
            cases split
            exact (inside List.mem_cons_self).elim
  | case3 c rest other ih =>
      constructor
      · intro found
        obtain ⟨⟨text, later⟩, found, same⟩ := Option.map_eq_some_iff.mp found
        cases same
        obtain ⟨rfl, inside⟩ := ih.mp found
        refine ⟨rfl, fun member => ?_⟩
        rcases List.mem_cons.mp member with same | member
        · exact other same.symm
        · exact inside member
      · rintro ⟨split, inside⟩
        cases before with
        | nil =>
            cases split
            exact (other rfl).elim
        | cons first text =>
            cases split
            rw [ih.mpr ⟨rfl, fun member => inside (List.mem_cons_of_mem _ member)⟩]
            rfl

/-! ## Reading -/

end Template

/-- Reading a path gives the reference of its pieces. -/
theorem Reference.ofChars_eq_ok_iff {path : List Char} {reference : Reference} :
    ofChars path = .ok reference ↔ Dotted path reference := by
  unfold ofChars
  by_cases blank : Text.trimChars path = []
  · simp only [blank, List.isEmpty_nil, ↓reduceIte]
    exact iff_of_false (fun done => nomatch done) fun dotted => dotted.given blank
  · simp only [List.isEmpty_iff, blank, ↓reduceIte]
    by_cases missing : (pieces (Text.trimChars path)).any List.isEmpty
    · simp only [missing, ↓reduceIte]
      obtain ⟨piece, member, empty⟩ := List.any_eq_true.mp missing
      exact iff_of_false (fun done => nomatch done) fun dotted =>
        dotted.pieces_given piece member (List.isEmpty_iff.mp empty)
    · have given : ∀ piece ∈ pieces (Text.trimChars path), piece ≠ [] := fun piece member empty =>
        missing (List.any_eq_true.mpr ⟨piece, member, List.isEmpty_iff.mpr empty⟩)
      simp only [missing, Bool.false_eq_true, ↓reduceIte]
      cases found : (pieces (Text.trimChars path)).map String.ofList with
      | nil =>
          refine iff_of_false (fun done => nomatch done) fun dotted => ?_
          have segments := dotted.segments
          rw [found] at segments
          cases segments
      | cons space rest =>
          constructor
          · intro done
            cases done
            exact ⟨blank, given, found.symm⟩
          · intro dotted
            have segments := dotted.segments
            rw [found] at segments
            cases reference
            cases segments
            rfl

namespace Template

/-- A text with a placeholder is read piece by piece. -/
theorem pieces_of_splitOpening {raw : String} {chars before path rest : List Char}
    (found : splitOpening chars = some (before, path ++ closing :: rest))
    (inside : closing ∉ path) :
    pieces raw chars = do
      let reference ← Reference.ofChars path
      return literalPiece before ++ .reference reference :: (← pieces raw rest) := by
  have closed : splitClosing (path ++ closing :: rest) = some (path, rest) :=
    splitClosing_eq_some_iff.mpr ⟨rfl, inside⟩
  -- The branches without an opening or a closing are ruled out by the splits that are known.
  fun_cases pieces raw chars with
  | case1 absent => exact nomatch found.symm.trans absent
  | case2 _ _ first absent =>
      cases found.symm.trans first
      exact nomatch closed.symm.trans absent
  | case3 _ _ first _ _ second =>
      cases found.symm.trans first
      cases closed.symm.trans second
      rfl

/-- Reading a text gives the pieces of its layout. -/
theorem pieces_eq_ok_iff {raw : String} {chars : List Char} {segments : List Segment} :
    pieces raw chars = .ok segments ↔
      ∃ layout : Layout, layout.chars = chars ∧ layout.Reads segments := by
  constructor
  · intro done
    fun_induction pieces raw chars generalizing segments with
    | case1 chars absent =>
        cases done
        exact ⟨.literal chars, rfl, .literal (splitOpening_eq_none_iff.mp absent)⟩
    | case2 chars before behind _ _ => cases done
    | case3 chars before behind found path rest closed shorter ih =>
        obtain ⟨rfl, plain⟩ := splitOpening_eq_some_iff.mp found
        obtain ⟨rfl, inside⟩ := splitClosing_eq_some_iff.mp closed
        obtain ⟨reference, read, done⟩ := bind_eq_ok_iff.mp done
        obtain ⟨later, behind, built⟩ := bind_eq_ok_iff.mp done
        cases built
        obtain ⟨layout, rfl, reads⟩ := ih behind
        exact ⟨.placeholder before path layout, rfl,
          .placeholder plain inside (Reference.ofChars_eq_ok_iff.mp read) reads⟩
  · rintro ⟨layout, rfl, reads⟩
    induction reads with
    | @literal text plain =>
        have absent : splitOpening text = none := splitOpening_eq_none_iff.mpr plain
        rw [pieces, Layout.chars]
        split
        · rfl
        · rename_i found
          exact nomatch absent.symm.trans found
    | @placeholder text path rest reference segments plain inside dotted behind ih =>
        rw [Layout.chars, pieces_of_splitOpening (splitOpening_eq_some_iff.mpr ⟨rfl, plain⟩) inside]
        exact bind_eq_ok_iff.mpr ⟨reference, Reference.ofChars_eq_ok_iff.mpr dotted,
          bind_eq_ok_iff.mpr ⟨segments, ih, rfl⟩⟩

/-- The pieces of a template are those of a layout of its text. -/
def Written (template : Template) : Prop :=
  ∃ layout : Layout, layout.chars = template.raw.toList ∧ layout.Reads template.segments

/-- A text is well formed when it has a layout with readable paths. -/
def WellFormed (raw : String) : Prop :=
  ∃ layout : Layout, layout.chars = raw.toList ∧ ∃ segments, layout.Reads segments

/-- Reading a text gives the template of a layout of the text. -/
theorem parse_eq_ok_iff {raw : String} {template : Template} :
    parse raw = .ok template ↔ template.raw = raw ∧ template.Written := by
  rw [parse, bind_eq_ok_iff]
  constructor
  · rintro ⟨segments, read, built⟩
    cases built
    exact ⟨rfl, pieces_eq_ok_iff.mp read⟩
  · rintro ⟨rfl, written⟩
    exact ⟨template.segments, pieces_eq_ok_iff.mpr written, rfl⟩

/-- A text can be read exactly if it is well formed. -/
theorem exists_parse_iff {raw : String} :
    (∃ template, parse raw = .ok template) ↔ WellFormed raw := by
  constructor
  · rintro ⟨template, read⟩
    obtain ⟨rfl, layout, written, reads⟩ := parse_eq_ok_iff.mp read
    exact ⟨layout, written, template.segments, reads⟩
  · rintro ⟨layout, written, segments, reads⟩
    exact ⟨⟨raw, segments⟩, parse_eq_ok_iff.mpr ⟨rfl, layout, written, reads⟩⟩

/-- A literal has no piece only if it is empty. -/
theorem literalPiece_eq_nil_iff {text : List Char} : literalPiece text = [] ↔ text = [] := by
  cases text with
  | nil => exact iff_of_true rfl rfl
  | cons c text => exact iff_of_false (List.cons_ne_nil _ _) (List.cons_ne_nil _ _)

/-- Only the empty layout has no piece. -/
theorem Layout.eq_of_reads_nil {layout : Layout} (reads : layout.Reads []) :
    layout = .literal [] := by
  generalize listed : ([] : List Segment) = segments at reads
  cases reads with
  | literal plain => rw [literalPiece_eq_nil_iff.mp listed.symm]
  | placeholder =>
      exact (List.append_ne_nil_of_right_ne_nil _ (List.cons_ne_nil _ _) listed.symm).elim

/-- A single reference is read from a layout of one placeholder and nothing else. -/
theorem Layout.reads_singleton_iff {layout : Layout} {reference : Reference} :
    layout.Reads [.reference reference] ↔
      ∃ path, layout = .placeholder [] path (.literal []) ∧ closing ∉ path ∧
        Reference.Dotted path reference := by
  constructor
  · intro reads
    generalize listed : [Segment.reference reference] = segments at reads
    cases reads with
    | @literal text plain =>
        rw [literalPiece] at listed
        split at listed
        · cases listed
        · cases listed
    | @placeholder text path rest _ segments plain inside dotted behind =>
        cases text with
        | cons c text => cases listed
        | nil =>
            obtain ⟨same, rfl⟩ := List.cons.inj listed
            cases same
            rw [eq_of_reads_nil behind]
            exact ⟨path, rfl, inside, dotted⟩
  · rintro ⟨path, rfl, inside, dotted⟩
    exact .placeholder not_opening_infix_nil inside dotted (.literal not_opening_infix_nil)

/-- A path between braces is a single reference if the path can be read and is not closed before
its end. -/
theorem parse_single_iff {path : String} {reference : Reference} :
    parse ("$\x7b" ++ path ++ "\x7d") = .ok ⟨"$\x7b" ++ path ++ "\x7d", [.reference reference]⟩ ↔
      closing ∉ path.toList ∧ Reference.Dotted path.toList reference := by
  have written : ("$\x7b" ++ path ++ "\x7d").toList =
      (Layout.placeholder [] path.toList (.literal [])).chars := by
    simp [Layout.chars, opening, closing]
  rw [parse_eq_ok_iff, Written]
  constructor
  · rintro ⟨-, layout, laidOut, reads⟩
    obtain ⟨other, rfl, closed, dotted⟩ := Layout.reads_singleton_iff.mp reads
    have same := laidOut.trans written
    obtain rfl : other = path.toList :=
      List.append_cancel_right (List.append_cancel_left same)
    exact ⟨closed, dotted⟩
  · rintro ⟨closed, dotted⟩
    exact ⟨rfl, _, written.symm, Layout.reads_singleton_iff.mpr ⟨_, rfl, closed, dotted⟩⟩

end Template

/-- The text is one placeholder with the path of the reference. -/
def Reference.Placeholder (raw : String) (reference : Reference) : Prop :=
  ∃ path, raw.toList = Template.opening ++ (path ++ [Template.closing]) ∧
    Template.closing ∉ path ∧ Dotted path reference

/-- A reference is read exactly from its placeholders. -/
theorem Reference.parsePlaceholder_eq_ok_iff {raw : String} {reference : Reference} :
    parsePlaceholder raw = .ok reference ↔ Placeholder raw reference := by
  rw [parsePlaceholder, bind_eq_ok_iff]
  constructor
  · rintro ⟨template, read, single⟩
    split at single
    · rename_i found listed
      cases single
      obtain ⟨rfl, layout, written, reads⟩ := Template.parse_eq_ok_iff.mp read
      rw [listed] at reads
      obtain ⟨path, rfl, inside, dotted⟩ := Template.Layout.reads_singleton_iff.mp reads
      exact ⟨path, written.symm, inside, dotted⟩
    · cases single
  · rintro ⟨path, split, inside, dotted⟩
    have reads := Template.Layout.reads_singleton_iff.mpr ⟨path, rfl, inside, dotted⟩
    exact ⟨⟨raw, [.reference reference]⟩,
      Template.parse_eq_ok_iff.mpr ⟨rfl, .placeholder [] path (.literal []), split.symm, reads⟩,
      rfl⟩

end Runbook
