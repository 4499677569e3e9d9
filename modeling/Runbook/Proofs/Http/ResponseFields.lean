import Runbook.Http.Client
import Runbook.Proofs.Context
import Runbook.Proofs.Image

/-!
# Fields of responses

The collected fields of a response hold the joined values of each name, in the order in which they
came, however the fields of other names stand between them. They are published as they are under the
name of the task (`Http.collectionLaw`).
-/

namespace Runbook

theorem Dictionary.get?_mapValues {α β : Type} (g : α → β) (entries : Dictionary α) (key : String) :
    (mapValues g entries).get? key = (entries.get? key).map g := by
  induction entries with
  | nil => rfl
  | cons entry rest ih =>
      rw [mapValues, List.map_cons, get?_cons, get?_cons, ← mapValues, ih]
      by_cases same : entry.1 = key
      · rw [if_pos same, if_pos same, Option.map_some]
      · rw [if_neg same, if_neg same]

namespace Http

namespace ResponseHeaders

/-- The texts of the values of a name, in order. -/
def texts (headers : ResponseHeaders) (name : String) : List String :=
  (headers.filter (·.1 == name)).map (valueText ·.2)

theorem texts_concat (headers : ResponseHeaders) (field : String × List UInt8) (name : String) :
    texts (headers ++ [field]) name =
      if field.1 = name then texts headers name ++ [valueText field.2] else texts headers name := by
  unfold texts
  rw [List.filter_append, List.map_append]
  by_cases own : field.1 = name
  · simp [own]
  · simp [own]

theorem texts_eq_nil_iff {headers : ResponseHeaders} {name : String} :
    texts headers name = [] ↔ ∀ value, (name, value) ∉ headers := by
  unfold texts
  rw [List.map_eq_nil_iff, List.filter_eq_nil_iff]
  constructor
  · intro others value member
    simpa using others _ member
  · rintro absent ⟨other, value⟩ member own
    exact absent value (beq_iff_eq.mp own ▸ member)

theorem isVisible_iff {byte : UInt8} :
    isVisible byte = true ↔ 32 ≤ byte.toNat ∧ byte.toNat < 127 ∨ byte.toNat = 9 := by
  simp [isVisible, UInt8.le_iff_toNat_le, UInt8.lt_iff_toNat_lt, ← UInt8.toNat_inj]

/-- Visible bytes are characters of their own. -/
theorem decodeLossyChars_of_visible {bytes : List UInt8}
    (visible : ∀ byte ∈ bytes, isVisible byte = true) :
    Text.Utf8.decodeLossyChars bytes = bytes.map Text.Octets.char := by
  induction bytes with
  | nil =>
      rw [Text.Utf8.decodeLossyChars]
      rfl
  | cons byte bytes ih =>
      obtain ⟨first, rest⟩ := List.forall_mem_cons.mp visible
      have small : byte.toNat < 0x80 := by
        rcases isVisible_iff.mp first with shown | tab
        · omega
        · omega
      have read : Text.Utf8.front (byte :: bytes) = .char (Text.Octets.char byte) bytes := by
        rw [Text.Utf8.front, if_pos small]
        rfl
      rw [Text.Utf8.decodeLossyChars]
      split
      · rename_i found
        cases read.symm.trans found
      · rename_i found
        cases read.symm.trans found
        rw [ih rest, List.map_cons]
      · rename_i found
        cases read.symm.trans found

theorem valueText_of_visible {bytes : List UInt8}
    (visible : ∀ byte ∈ bytes, isVisible byte = true) :
    valueText bytes = Text.Octets.ofBytes bytes := by
  rw [valueText, if_pos (List.all_eq_true.mpr visible), Text.Utf8.decodeLossy,
    decodeLossyChars_of_visible visible]
  rfl

theorem valueText_of_hidden {bytes : List UInt8} {byte : UInt8} (member : byte ∈ bytes)
    (hidden : ¬ isVisible byte = true) : valueText bytes = "" := by
  refine if_neg fun visible => hidden ?_
  exact List.all_eq_true.mp visible byte member

theorem collect_concat (headers : ResponseHeaders) (field : String × List UInt8) :
    collect (headers ++ [field]) = collectField (collect headers) field := by
  rw [collect, List.foldl_append]
  rfl

theorem sorted_collectField {collected : Dictionary String} (sorted : collected.Sorted)
    (field : String × List UInt8) : (collectField collected field).Sorted := by
  unfold collectField
  dsimp only
  split
  · exact Dictionary.sorted_insert _ _ sorted
  · exact Dictionary.sorted_insert _ _ sorted

theorem sorted_collect (headers : ResponseHeaders) : headers.collect.Sorted := by
  induction headers using List.reverseRecOn with
  | nil => exact List.Pairwise.nil
  | append_singleton headers field ih =>
      rw [collect_concat]
      exact sorted_collectField ih field

/-- A field is entered under its name, behind what stands there. -/
theorem get?_collectField (collected : Dictionary String) (field : String × List UInt8)
    (name : String) :
    (collectField collected field).get? name =
      if name = field.1 then
        some (match collected.get? field.1 with
          | some earlier => earlier ++ ", " ++ valueText field.2
          | none => valueText field.2)
      else collected.get? name := by
  unfold collectField
  dsimp only
  cases collected.get? field.1 with
  | none => exact Dictionary.get?_insert ..
  | some earlier => exact Dictionary.get?_insert ..

/-- **Fields are collected by name.** The values of a name are joined, and no other field has a part
in that. -/
theorem get?_collect (headers : ResponseHeaders) (name : String) :
    headers.collect.get? name =
      if texts headers name = [] then none else some (", ".intercalate (texts headers name)) := by
  induction headers using List.reverseRecOn with
  | nil => rfl
  | append_singleton headers field ih =>
      rw [collect_concat, get?_collectField, texts_concat]
      by_cases own : name = field.1
      · subst own
        rw [if_pos rfl, if_pos rfl, ih, if_neg (List.concat_ne_nil _ _)]
        by_cases fresh : texts headers field.1 = []
        · rw [if_pos fresh, fresh, List.nil_append, String.intercalate_singleton]
        · rw [if_neg fresh, String.intercalate_append_of_ne_nil fresh (List.cons_ne_nil _ _),
            String.intercalate_singleton]
      · rw [if_neg own, if_neg (Ne.symm own), ih]

/-- Fields may be reordered as long as those of each name stay in order. -/
theorem collect_congr {headers other : ResponseHeaders}
    (same : ∀ name, other.filter (·.1 == name) = headers.filter (·.1 == name)) :
    other.collect = headers.collect := by
  refine Dictionary.eq_of_get?_eq (sorted_collect other) (sorted_collect headers) fun name => ?_
  have texts : texts other name = texts headers name := by
    rw [texts, texts, same]
  rw [get?_collect, get?_collect, texts]

end ResponseHeaders

theorem fields_of_judge {limits : Limits} {request : HttpRequest} {response : Response}
    {output : Output} (accepted : judge limits request response = .ok output) :
    output.headers = response.headers.collect ∧ output.statusCode = some response.status := by
  unfold judge at accepted
  split at accepted
  · cases accepted
  · dsimp only at accepted
    split_ifs at accepted
    cases accepted
    exact ⟨rfl, rfl⟩

end Http

/-- The fields of an output with a status are published as an object of texts. -/
theorem Context.lookup_publish_headers (context : Context) (task : String) {output : Output}
    {status : UInt16} (answered : output.statusCode = some status) :
    (context.publish task output).lookup ⟨task, ["headers"]⟩ =
      some (.object (output.headers.mapValues .string)) := by
  rw [lookup_publish, if_pos rfl, Output.published, answered]
  cases output.exitCode <;>
    simp [Json.descend, Json.step, Dictionary.ofList, Dictionary.get?_insert,
      Dictionary.mapValues]

theorem Context.lookup_concat (context : Context) (space : String) (path : List String)
    (segment : String) :
    context.lookup ⟨space, path ++ [segment]⟩ =
      (context.lookup ⟨space, path⟩).bind fun value => value.step segment := by
  unfold lookup Json.descend
  cases context.bindings.get? space with
  | none => rfl
  | some value =>
      simp only [Option.bind_eq_bind, Option.bind_some, List.foldlM_append, List.foldlM_cons,
        List.foldlM_nil, pure, Option.bind_fun_some]

namespace Http

/-- What becomes of the fields of a response. -/
structure CollectionLaw (headers : ResponseHeaders) : Prop where
  sorted : headers.collect.Sorted
  keys : ∀ name, name ∈ headers.collect.keys ↔ ∃ value, (name, value) ∈ headers
  joined : ∀ name, (∃ value, (name, value) ∈ headers) →
    headers.collect.get? name = some (", ".intercalate (headers.texts name))
  /-- The text of a value has its bytes as characters, -/
  shown : ∀ bytes,
    (∀ byte ∈ bytes, 32 ≤ byte.toNat ∧ byte.toNat < 127 ∨ byte.toNat = 9) →
      ResponseHeaders.valueText bytes = Text.Octets.ofBytes bytes
  /-- unless one of them is not visible. -/
  hidden : ∀ bytes : List UInt8, ∀ byte ∈ bytes,
    ¬ (32 ≤ byte.toNat ∧ byte.toNat < 127 ∨ byte.toNat = 9) →
      ResponseHeaders.valueText bytes = ""
  /-- Fields may be reordered as long as those of each name stay in order. -/
  reordered : ∀ other : ResponseHeaders,
    (∀ name, other.filter (·.1 == name) = headers.filter (·.1 == name)) →
    other.collect = headers.collect
  /-- What a task publishes of a response with these fields. -/
  published : ∀ limits request response output, response.headers = headers →
    judge limits request response = .ok output → ∀ (context : Context) (task : String),
      (context.publish task output).lookup ⟨task, ["headers"]⟩ =
          some (.object (headers.collect.mapValues .string)) ∧
        ∀ name, (context.publish task output).lookup ⟨task, ["headers", name]⟩ =
          (headers.collect.get? name).map .string

/-- **The fields of a response.** No value of a field is lost: those of each name are joined in the
order in which they came, and published as one text. -/
theorem collectionLaw (headers : ResponseHeaders) : CollectionLaw headers where
  sorted := headers.sorted_collect
  keys := by
    intro name
    rw [Dictionary.mem_keys_iff, ResponseHeaders.get?_collect]
    by_cases absent : headers.texts name = []
    · rw [if_pos absent]
      have none := ResponseHeaders.texts_eq_nil_iff.mp absent
      exact iff_of_false Bool.false_ne_true fun ⟨value, member⟩ => none value member
    · rw [if_neg absent]
      refine iff_of_true rfl ?_
      simpa [ResponseHeaders.texts_eq_nil_iff] using absent
  joined := by
    rintro name ⟨value, member⟩
    have present : headers.texts name ≠ [] := fun absent =>
      ResponseHeaders.texts_eq_nil_iff.mp absent value member
    rw [ResponseHeaders.get?_collect, if_neg present]
  shown := by
    intro bytes visible
    refine ResponseHeaders.valueText_of_visible fun byte member => ?_
    exact ResponseHeaders.isVisible_iff.mpr (visible byte member)
  hidden := by
    intro bytes byte member outside
    refine ResponseHeaders.valueText_of_hidden member fun visible => ?_
    exact outside (ResponseHeaders.isVisible_iff.mp visible)
  reordered := fun _ same => ResponseHeaders.collect_congr same
  published := by
    rintro limits request response output rfl accepted context task
    obtain ⟨fields, status⟩ := fields_of_judge accepted
    have whole := context.lookup_publish_headers task status
    rw [fields] at whole
    refine ⟨whole, fun name => ?_⟩
    have inside := context.publish task output |>.lookup_concat task ["headers"] name
    rw [whole] at inside
    exact inside.trans (Dictionary.get?_mapValues _ _ name)

end Http

end Runbook
