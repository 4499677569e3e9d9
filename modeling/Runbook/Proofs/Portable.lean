import Runbook.Proofs.Json.RoundTrip
import Runbook.Proofs.Yaml.Scan

/-!
# Values that both formats can write

The compact texts of these values consist of characters that either format admits in a document
(`Json.Portable.isPrintable_of_mem_chars`), and read as JSON they are the values that were written
(`Json.Portable.ofChars_chars`).
-/

namespace Runbook.Json

/-- The characters up to the tilde. -/
def IsAscii (text : String) : Prop := ∀ c ∈ text.toList, c.toNat ≤ 0x7E

instance (text : String) : Decidable (IsAscii text) :=
  decidable_of_iff (text.toList.all (·.toNat ≤ 0x7E) = true) (by simp [IsAscii])

/-- The name of a member that is found as a key, since its colon is not too far behind: with its
quotes and escapes it takes no more than 1024 bytes. -/
structure IsKey (name : String) : Prop where
  ascii : IsAscii name
  short : (quote name).length ≤ Yaml.Lexer.longestKey

/-- The values without fractions, of texts up to the tilde and names that are not too long, in which
containers are nested at most `room` times. -/
inductive Portable : (room : Nat) → Json → Prop
  | null {room : Nat} : Portable room .null
  | bool {room : Nat} (value : Bool) : Portable room (.bool value)
  | int {room : Nat} {n : Int} (least : Number.leastInt ≤ n) (greatest : n ≤ Number.greatestInt) :
      Portable room (.number (.int n))
  | string {room : Nat} {text : String} (ascii : IsAscii text) : Portable room (.string text)
  | array {room : Nat} {items : List Json} (inside : 0 < room)
      (each : ∀ item ∈ items, Portable (room - 1) item) : Portable room (.array items)
  | object {room : Nat} {members : List (String × Json)} (inside : 0 < room)
      (sorted : Dictionary.Sorted members) (named : ∀ member ∈ members, IsKey member.1)
      (each : ∀ member ∈ members, Portable (room - 1) member.2) : Portable room (.object members)

namespace Portable

variable {room : Nat} {value : Json}

/-- A value may be written where containers may be nested more deeply. -/
theorem mono (portable : Portable room value) {more : Nat} (deeper : room ≤ more) :
    Portable more value := by
  induction portable generalizing more with
  | null => exact .null
  | bool value => exact .bool value
  | int least greatest => exact .int least greatest
  | string ascii => exact .string ascii
  | array inside _ ih =>
      exact .array (Nat.lt_of_lt_of_le inside deeper) fun item member => ih item member (by omega)
  | object inside sorted named _ ih =>
      exact .object (Nat.lt_of_lt_of_le inside deeper) sorted named
        fun member listed => ih member listed (by omega)

theorem readable (portable : Portable room value) : Readable room value := by
  induction portable with
  | null => exact .null
  | bool value => exact .bool value
  | int least greatest => exact .number ⟨least, greatest⟩
  | string => exact .string _
  | array inside _ ih => exact .array inside ih
  | object inside sorted _ _ ih => exact .object inside sorted ih

theorem integral (portable : Portable room value) : value.Integral := by
  induction portable with
  | int =>
      intro number member
      cases List.mem_singleton.mp member
      rfl
  | array _ _ ih => exact JsonTree.integral_array_iff.mpr ih
  | object _ _ _ _ ih => exact JsonTree.integral_object_iff.mpr ih
  | _ => exact fun _ member => nomatch member

/-- Read as JSON, the compact text of a value is the value. -/
theorem ofChars_chars (portable : Portable deepest value) : ofChars (chars value) = some value :=
  Json.ofChars_chars portable.readable portable.integral

/-- What is no JSON behind an object makes the whole text no JSON. -/
theorem ofChars_append_eq_none {members : List (String × Json)}
    (portable : Portable deepest (.object members)) {rest : List Char}
    (failed : tokens rest = none) : ofChars (chars (.object members) ++ rest) = none := by
  cases portable.readable with
  | object inside sorted each =>
      have integers := JsonTree.integral_object_iff.mp portable.integral
      have fits : ([] : List Frame).length + deepest ≤ deepest := Nat.le_of_eq (Nat.zero_add _)
      rw [ofChars_eq_readFrom, readFrom_object inside sorted (fun member listed =>
        (each member listed).readsBack (integers member listed)) fits rest, readFrom, failed]
      rfl

end Portable

/-! ## Characters -/

open Yaml (isPrintable)

theorem isPrintable_of_mem_escapeChar {c : Char} (ascii : c.toNat ≤ 0x7E) :
    ∀ written ∈ escapeChar c, isPrintable written = true := by
  refine List.all_eq_true.mp ?_
  rcases escapeChar_cases c with
    ⟨same, -, -, printable⟩ | ⟨letter, listed, same⟩ | ⟨control, same⟩
  · have bounds : 0x20 ≤ c.toNat ∧ c.toNat ≤ 0x7E := ⟨Nat.le_of_not_lt printable, ascii⟩
    simp [same, Yaml.isPrintable_iff, bounds]
  · have all : letterEscapes.all (fun pair => ['\\', pair.1].all isPrintable) = true := by decide
    rw [same]
    exact List.all_eq_true.mp all _ listed
  · have all : ∀ code < 0x20,
        ('\\' :: 'u' :: '0' :: '0' :: hexPair code).all isPrintable = true := by decide
    rw [same]
    exact all _ control

theorem isPrintable_of_mem_quote {text : String} (ascii : IsAscii text) :
    ∀ c ∈ quote text, isPrintable c = true := by
  refine List.forall_mem_cons.mpr ⟨rfl, List.forall_mem_append.mpr
    ⟨fun c member => ?_, List.forall_mem_singleton.mpr rfl⟩⟩
  obtain ⟨source, listed, written⟩ := List.mem_flatMap.mp member
  exact isPrintable_of_mem_escapeChar (ascii source listed) c written

/-- An integer is written with characters of names, and no hyphen stands alone. -/
theorem exists_intChars_eq (n : Int) : ∃ first more, intChars n = first :: more ∧
    (∀ c ∈ first :: more, Yaml.isNameChar c = true) ∧ (first = '-' → more ≠ []) := by
  have digits : ∀ c ∈ Nat.toDigits 10 n.natAbs, Yaml.isNameChar c = true := by
    intro c member
    have digit := isDigit_of_mem_toDigits member
    simp only [isDigit] at digit
    simp [Yaml.isNameChar, digit]
  rw [intChars]
  split_ifs with negative
  · exact ⟨_, _, rfl, List.forall_mem_cons.mpr ⟨rfl, digits⟩, fun _ => Nat.toDigits_ne_nil⟩
  · cases written : Nat.toDigits 10 n.natAbs with
    | nil => exact (Nat.toDigits_ne_nil written).elim
    | cons first more =>
        have digit := isDigit_of_mem_toDigits (written ▸ List.mem_cons_self)
        refine ⟨first, more, rfl, written ▸ digits, ?_⟩
        rintro rfl
        cases digit

section Containers

variable {items : List Json} {members : List (String × Json)}

theorem isPrintable_of_mem_itemsChars
    (each : ∀ item ∈ items, ∀ c ∈ chars item, isPrintable c = true) :
    ∀ c ∈ itemsChars items, isPrintable c = true := by
  induction items with
  | nil => exact List.forall_mem_singleton.mpr rfl
  | cons item items ih =>
      obtain ⟨first, later⟩ := List.forall_mem_cons.mp each
      exact List.forall_mem_cons.mpr ⟨rfl, List.forall_mem_append.mpr ⟨first, ih later⟩⟩

theorem isPrintable_of_mem_membersChars (named : ∀ member ∈ members, IsKey member.1)
    (each : ∀ member ∈ members, ∀ c ∈ chars member.2, isPrintable c = true) :
    ∀ c ∈ membersChars members, isPrintable c = true := by
  induction members with
  | nil => exact List.forall_mem_singleton.mpr rfl
  | cons member members ih =>
      obtain ⟨name, names⟩ := List.forall_mem_cons.mp named
      obtain ⟨first, later⟩ := List.forall_mem_cons.mp each
      exact List.forall_mem_cons.mpr ⟨rfl, List.forall_mem_append.mpr
        ⟨isPrintable_of_mem_quote name.ascii, List.forall_mem_cons.mpr
          ⟨rfl, List.forall_mem_append.mpr ⟨first, ih names later⟩⟩⟩⟩

end Containers

/-- The text of a value consists of printable characters. -/
theorem Portable.isPrintable_of_mem_chars {room : Nat} {value : Json}
    (portable : Portable room value) : ∀ c ∈ chars value, isPrintable c = true := by
  induction portable with
  | null => exact List.all_eq_true.mp rfl
  | bool value => cases value <;> exact List.all_eq_true.mp rfl
  | @int _ n =>
      obtain ⟨first, more, written, names, -⟩ := exists_intChars_eq n
      intro c member
      rw [chars, numberChars, written] at member
      exact Yaml.isPrintable_of_isNameChar (names c member)
  | string ascii => exact isPrintable_of_mem_quote ascii
  | @array _ items _ _ ih =>
      cases items with
      | nil => exact List.all_eq_true.mp rfl
      | cons item items =>
          obtain ⟨first, later⟩ := List.forall_mem_cons.mp ih
          exact List.forall_mem_cons.mpr ⟨rfl,
            List.forall_mem_append.mpr ⟨first, isPrintable_of_mem_itemsChars later⟩⟩
  | @object _ members _ _ named _ ih =>
      cases members with
      | nil => exact List.all_eq_true.mp rfl
      | cons member members =>
          obtain ⟨name, names⟩ := List.forall_mem_cons.mp named
          obtain ⟨first, later⟩ := List.forall_mem_cons.mp ih
          exact List.forall_mem_cons.mpr ⟨rfl, List.forall_mem_append.mpr
            ⟨isPrintable_of_mem_quote name.ascii, List.forall_mem_cons.mpr
              ⟨rfl, List.forall_mem_append.mpr
                ⟨first, isPrintable_of_mem_membersChars names later⟩⟩⟩⟩

end Runbook.Json
