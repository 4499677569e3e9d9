import Runbook.Proofs.Substitution
import Runbook.Proofs.Template.Layout

/-!
# JSON templates

A JSON value whose texts are templates resolves to the value with each of these texts replaced, and
with everything else in its place (`JsonTemplate.shapeLaw`). What is put in for a reference always
becomes part of a text, so that no input can add members or items, or change a text into another
kind of value.
-/

namespace Runbook

/-- All of a tree but its texts: names and order of members, items, and all other values. -/
def JsonTree.shape {α : Type} (value : JsonTree α) : JsonTree Unit :=
  value.map fun _ => ()

namespace Template

variable {context : Context} {text : String}

/-- A text without an opening is read as itself. -/
theorem parse_of_plain (plain : ¬ opening <:+: text.toList) :
    parse text = .ok ⟨text, literalPiece text.toList⟩ :=
  parse_eq_ok_iff.mpr ⟨rfl, .literal text.toList, rfl, .literal plain⟩

theorem references_of_plain (raw : String) (chars : List Char) :
    references ⟨raw, literalPiece chars⟩ = [] := by
  cases chars <;> rfl

theorem filled_of_plain (raw text : String) :
    filled context ⟨raw, literalPiece text.toList⟩ = text := by
  rw [filled, literalPiece]
  split
  · rename_i empty
    rw [String.toList_eq_nil_iff.mp (List.isEmpty_iff.mp empty)]
    rfl
  · simp [Segment.filled]

/-- The text with the values of a context put in, if it is a template. -/
def fill (context : Context) (text : String) : String :=
  match parse text with
  | .ok template => template.filled context
  | .error _ => text

theorem fill_of_parse {template : Template} (read : parse text = .ok template) :
    fill context text = template.filled context := by
  rw [fill, read]

theorem fill_of_plain (plain : ¬ opening <:+: text.toList) : fill context text = text := by
  rw [fill_of_parse (parse_of_plain plain), filled_of_plain]

end Template

namespace JsonTemplate

variable {value : Json} {template : JsonTemplate} {context : Context}

theorem exists_parse_iff :
    (∃ template, parse value = .ok template) ↔ ∀ text ∈ value.leaves, Template.WellFormed text := by
  simp only [parse, JsonTree.exists_traverse_iff, Template.exists_parse_iff]

/-- The first of the references that has no value is the reason why a value cannot be resolved. -/
theorem resolve_eq_error_iff_firstMissing {cause : ResolutionError} :
    template.resolve context = .error cause ↔
      context.firstMissing template.references = some cause := by
  rw [resolve, JsonTree.traverse_eq_error_iff]
  exact mapM_eq_error_iff_firstMissing fun _ _ => Template.resolve_eq_error_iff_firstMissing

theorem exists_resolve_iff :
    (∃ image, template.resolve context = .ok image) ↔
      ∀ reference ∈ template.references, context.lookup reference ≠ none :=
  Context.exists_ok_iff_of_firstMissing fun _ => resolve_eq_error_iff_firstMissing

theorem eq_map_fill_of_resolve (read : parse value = .ok template) {image : Json}
    (resolved : template.resolve context = .ok image) :
    image = value.map (Template.fill context) := by
  have filled : image = template.map (Template.filled context) :=
    JsonTree.eq_map_of_traverse Template.eq_filled_of_resolve resolved
  rw [filled]
  exact JsonTree.map_eq_map_of_traverse
    (fun found => (Template.fill_of_parse found).symm) value read

/-- Each text of a value that is resolved is a template that is resolved to what replaces it. -/
theorem resolve_fill_of_mem_leaves (read : parse value = .ok template) {image : Json}
    (resolved : template.resolve context = .ok image) {text : String}
    (member : text ∈ value.leaves) :
    ∃ found, Template.parse text = .ok found ∧
      found.resolve context = .ok (Template.fill context text) := by
  obtain ⟨found, listed, parsed⟩ :=
    exists_image_of_mem_mapM (JsonTree.mapM_leaves_of_traverse read) member
  have bound : ∀ reference ∈ found.references, context.lookup reference ≠ none :=
    fun reference inside => exists_resolve_iff.mp ⟨image, resolved⟩ reference
      (List.mem_flatMap.mpr ⟨found, listed, inside⟩)
  obtain ⟨filled, done⟩ := Template.exists_resolve_iff.mpr bound
  refine ⟨found, parsed, ?_⟩
  rw [done, Template.fill_of_parse parsed, Template.eq_filled_of_resolve done]

/-- What becomes of a JSON value that is read as a template and resolved. -/
structure ShapeLaw (value : Json) : Prop where
  /-- Names of members are not read. -/
  readable_iff : (∃ template, parse value = .ok template) ↔
    ∀ text ∈ value.leaves, Template.WellFormed text
  resolvable_iff : ∀ template, parse value = .ok template → ∀ context : Context,
    (∃ image, template.resolve context = .ok image) ↔
      ∀ reference ∈ template.references, context.lookup reference ≠ none
  /-- Each text is replaced by the text that its template is resolved to. -/
  filled : ∀ template, parse value = .ok template → ∀ (context : Context) (image : Json),
    template.resolve context = .ok image →
      ∃ fill : String → String, image = value.map fill ∧
        ∀ text ∈ value.leaves, ∃ found, Template.parse text = .ok found ∧
          found.resolve context = .ok (fill text)
  shape : ∀ template, parse value = .ok template → ∀ (context : Context) (image : Json),
    template.resolve context = .ok image → image.shape = value.shape
  plain : (∀ text ∈ value.leaves, ¬ Template.opening <:+: text.toList) →
    ∃ template, parse value = .ok template ∧
      ∀ context : Context, template.resolve context = .ok value

/-- **JSON values keep their shape.** Nothing but their texts is read or replaced. -/
theorem shapeLaw (value : Json) : ShapeLaw value where
  readable_iff := exists_parse_iff
  resolvable_iff _ _ _ := exists_resolve_iff
  filled template read context image resolved :=
    ⟨Template.fill context, eq_map_fill_of_resolve read resolved,
      fun _ => resolve_fill_of_mem_leaves read resolved⟩
  shape template read context image resolved := by
    have blank : image.shape = template.shape :=
      JsonTree.map_eq_map_of_traverse (fun _ => rfl) template resolved
    rw [blank]
    exact JsonTree.map_eq_map_of_traverse (fun _ => rfl) value read
  plain texts := by
    obtain ⟨template, read⟩ := exists_parse_iff.mpr fun text member =>
      Template.exists_parse_iff.mp ⟨_, Template.parse_of_plain (texts text member)⟩
    refine ⟨template, read, fun context => ?_⟩
    have bound : ∀ reference ∈ template.references, context.lookup reference ≠ none := by
      intro reference member
      obtain ⟨leaf, listed, inside⟩ := List.mem_flatMap.mp member
      obtain ⟨text, among, parsed⟩ :=
        exists_of_mem_mapM (JsonTree.mapM_leaves_of_traverse read) listed
      cases (Template.parse_of_plain (texts text among)).symm.trans parsed
      rw [Template.references_of_plain] at inside
      cases inside
    obtain ⟨image, resolved⟩ := exists_resolve_iff.mpr bound
    have same : value.map (Template.fill context) = value.map id :=
      JsonTree.map_congr value fun text member => Template.fill_of_plain (texts text member)
    rw [resolved, eq_map_fill_of_resolve read resolved, same, JsonTree.map_id]

/-- A name with an opening is left alone, and a value that looks like JSON stays a text. -/
example : (parse (.object [("$\x7b", .array [.string "$\x7ba\x7d", .null])])).map
      (·.resolve ⟨[("a", .array [.bool true])]⟩) =
    .ok (.ok (.object [("$\x7b", .array [.string "[true]", .null])])) := by
  decide +kernel

end JsonTemplate

end Runbook
