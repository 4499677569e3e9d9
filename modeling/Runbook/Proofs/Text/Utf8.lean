import Mathlib.Data.List.Lex
import Mathlib.Data.String.Basic
import Runbook.Text.Utf8

/-!
# Laws of UTF-8

A text is read back from its bytes (`Text.Utf8.decodeChars_flatMap_encodeChar`), and bytes are
ordered as their texts are (`Text.Utf8.encode_lt_encode_iff`). An index into the bytes is a boundary
exactly if a front of the text ends there (`Text.Utf8.isBoundary_flatMap_iff`), so that the search
which goes back from an index finds the end of the longest front that fits
(`Text.Utf8.exists_longestFront`).
-/

namespace Runbook.Text.Utf8

theorem encodeChar_ne_nil (c : Char) : encodeChar c ≠ [] := by
  unfold encodeChar
  dsimp only
  split_ifs <;> exact List.cons_ne_nil _ _

/-- The byte of a small number. -/
theorem toNat_toUInt8 {n : Nat} (small : n < 256) : n.toUInt8.toNat = n := by
  rw [Nat.toUInt8_eq, UInt8.toNat_ofNat', Nat.mod_eq_of_lt small]

/-- There is a last code. -/
theorem toNat_lt (c : Char) : c.toNat < 0x110000 := by
  have valid := c.valid
  simp only [UInt32.isValidChar, Nat.isValidChar] at valid
  change c.val.toNat < _
  omega

/-- The bytes of a character with a smaller code come first, whatever stands behind them. -/
theorem encodeChar_append_lt {c d : Char} (less : c < d) (left right : List UInt8) :
    encodeChar c ++ left < encodeChar d ++ right := by
  have codes : c.toNat < d.toNat := less
  have range : d.toNat < 0x110000 := toNat_lt d
  unfold encodeChar
  dsimp only
  split_ifs
  all_goals
    simp (disch := omega) only [List.cons_append, List.nil_append, List.cons_lt_cons_iff,
      UInt8.lt_iff_toNat_lt, ← UInt8.toNat_inj, toNat_toUInt8]
    omega

/-- A continuation byte adds its six bits. -/
theorem continuation_byte {count code low high n : Nat} (above : low ≤ n) (below : n ≤ high)
    (small : n < 256) (rest : List UInt8) :
    continuation (count + 1) code low high (n.toUInt8 :: rest) =
      continuation count (code * 64 + (n - 0x80)) 0x80 0xBF rest := by
  rw [continuation, toNat_toUInt8 small, if_pos ⟨above, below⟩]

/-- No character has the code of a surrogate. -/
theorem not_surrogate (c : Char) : c.toNat < 0xD800 ∨ 0xE000 ≤ c.toNat := by
  have valid := c.valid
  simp only [UInt32.isValidChar, Nat.isValidChar] at valid
  change c.val.toNat < _ ∨ _ ≤ c.val.toNat
  omega

/-- A character is read back from its bytes. -/
theorem front_encodeChar_append (c : Char) (rest : List UInt8) :
    front (encodeChar c ++ rest) = .char c rest := by
  have range : c.toNat < 0x110000 := toNat_lt c
  have valid := not_surrogate c
  have same {code : Nat} (equal : code = c.toNat) : Char.ofNat code = c := by
    rw [equal, Char.ofNat_toNat]
  unfold encodeChar
  dsimp only
  split_ifs with one two three
  · rw [List.singleton_append, front]
    simp only [toNat_toUInt8 (show c.toNat < 256 by omega)]
    rw [if_pos one, continuation, Char.ofNat_toNat]
  · rw [List.cons_append, List.singleton_append, front]
    simp only [toNat_toUInt8 (show 0xC0 + c.toNat / 64 < 256 by omega)]
    rw [if_neg (by omega), if_neg (by omega), if_pos (by omega),
      continuation_byte (by omega) (by omega) (by omega), continuation, same (by omega)]
  · rw [List.cons_append, List.cons_append, List.singleton_append, front]
    simp only [toNat_toUInt8 (show 0xE0 + c.toNat / 4096 < 256 by omega)]
    rw [if_neg (by omega), if_neg (by omega), if_neg (by omega)]
    split_ifs
    any_goals omega
    all_goals
      rw [continuation_byte (by omega) (by omega) (by omega),
        continuation_byte (by omega) (by omega) (by omega), continuation, same (by omega)]
  · rw [List.cons_append, List.cons_append, List.cons_append, List.singleton_append, front]
    simp only [toNat_toUInt8 (show 0xF0 + c.toNat / 262144 < 256 by omega)]
    rw [if_neg (by omega), if_neg (by omega), if_neg (by omega), if_neg (by omega),
      if_neg (by omega), if_neg (by omega)]
    split_ifs
    any_goals omega
    all_goals
      rw [continuation_byte (by omega) (by omega) (by omega),
        continuation_byte (by omega) (by omega) (by omega),
        continuation_byte (by omega) (by omega) (by omega), continuation, same (by omega)]

/-- **A text is read back from its bytes.** -/
theorem decodeChars_flatMap_encodeChar (chars : List Char) :
    decodeChars (chars.flatMap encodeChar) = some chars := by
  induction chars with
  | nil =>
      rw [decodeChars]
      rfl
  | cons c chars ih =>
      rw [List.flatMap_cons, decodeChars]
      split
      · rename_i found
        cases (front_encodeChar_append c _).symm.trans found
      · rename_i found
        cases (front_encodeChar_append c _).symm.trans found
        rw [ih]
        rfl
      · rename_i found
        cases (front_encodeChar_append c _).symm.trans found

theorem flatMap_encodeChar_lt {left right : List Char} (less : left < right) :
    left.flatMap encodeChar < right.flatMap encodeChar := by
  induction less with
  | nil =>
      rename_i c rest
      rw [List.flatMap_nil, List.flatMap_cons]
      obtain ⟨byte, bytes, split⟩ := List.exists_cons_of_ne_nil (encodeChar_ne_nil c)
      rw [split]
      exact .nil
  | cons _ ih => exact ih.append_left _ _
  | rel less => exact encodeChar_append_lt less _ _

/-- **Texts are ordered by their bytes.** -/
theorem encode_lt_encode_iff {left right : String} : encode left < encode right ↔ left < right := by
  constructor
  · intro less
    rcases lt_trichotomy left right with before | rfl | behind
    · exact before
    · exact (List.lt_irrefl _ less).elim
    · exact (List.lt_asymm less (flatMap_encodeChar_lt (String.lt_iff.mp behind))).elim
  · exact fun less => flatMap_encodeChar_lt (String.lt_iff.mp less)

theorem encode_le_encode_iff {left right : String} : encode left ≤ encode right ↔ left ≤ right :=
  not_congr encode_lt_encode_iff

/-! ## Boundaries -/

theorem isContinuation_toUInt8 {n : Nat} (small : n < 256) :
    isContinuation n.toUInt8 = true ↔ 0x80 ≤ n ∧ n < 0xC0 := by
  simp [isContinuation, UInt8.le_iff_toNat_le, UInt8.lt_iff_toNat_lt, toNat_toUInt8 small]

/-- Of the bytes of a character, which are four at most, all but the first one go on with it. -/
theorem exists_encodeChar_eq_cons (c : Char) :
    ∃ first rest, encodeChar c = first :: rest ∧ isContinuation first = false ∧
      (∀ byte ∈ rest, isContinuation byte = true) ∧ rest.length ≤ 3 := by
  have range : c.toNat < 0x110000 := toNat_lt c
  unfold encodeChar
  dsimp only
  split_ifs
  all_goals
    refine ⟨_, _, rfl, ?_, ?_, by simp⟩
  all_goals
    simp (disch := omega) only [← Bool.not_eq_true, isContinuation_toUInt8, List.forall_mem_cons,
      List.not_mem_nil, false_imp_iff, implies_true, and_true]
  all_goals omega

theorem isBoundary_iff {bytes : List UInt8} {index : Nat} :
    isBoundary bytes index = true ↔
      index = 0 ∨ index = bytes.length ∨
        ∃ byte, bytes[index]? = some byte ∧ isContinuation byte = false := by
  unfold isBoundary
  rw [Bool.or_eq_true, beq_iff_eq]
  refine or_congr_right ?_
  cases found : bytes[index]? with
  | none => simp
  | some byte =>
      have inside : index ≠ bytes.length := by
        rintro rfl
        simp at found
      simp [inside]

theorem isBoundary_zero (bytes : List UInt8) : isBoundary bytes 0 = true := rfl

theorem isBoundary_of_append {front back : List UInt8} {index : Nat}
    (boundary : isBoundary (front ++ back) (front.length + index) = true) :
    isBoundary back index = true := by
  have behind : (front ++ back)[front.length + index]? = back[index]? := by
    rw [List.getElem?_append_right (Nat.le_add_right ..), Nat.add_sub_cancel_left]
  rw [isBoundary_iff, behind, List.length_append] at boundary
  rcases boundary with none | whole | begins
  · exact isBoundary_iff.mpr (Or.inl (Nat.add_eq_zero_iff.mp none).2)
  · exact isBoundary_iff.mpr (Or.inr (Or.inl (Nat.add_left_cancel whole)))
  · exact isBoundary_iff.mpr (Or.inr (Or.inr begins))

/-- No boundary lies inside a character. -/
theorem length_le_of_isBoundary {c : Char} {back : List UInt8} {index : Nat} (entered : index ≠ 0)
    (boundary : isBoundary (encodeChar c ++ back) index = true) :
    (encodeChar c).length ≤ index := by
  obtain ⟨first, rest, encoded, -, goesOn, -⟩ := exists_encodeChar_eq_cons c
  by_contra inside
  obtain ⟨index, rfl⟩ := Nat.exists_eq_succ_of_ne_zero entered
  have inRest : index < rest.length := by
    rw [encoded, List.length_cons] at inside
    omega
  rcases isBoundary_iff.mp boundary with none | whole | ⟨byte, found, begins⟩
  · exact entered none
  · rw [whole, List.length_append] at inside
    exact inside (Nat.le_add_right ..)
  · rw [encoded, List.cons_append, List.getElem?_cons_succ, List.getElem?_append_left inRest] at found
    rw [goesOn byte (List.mem_of_getElem? found)] at begins
    cases begins

/-- A boundary stands behind each front of a text. -/
theorem isBoundary_append (bytes : List UInt8) (chars : List Char) :
    isBoundary (bytes ++ chars.flatMap encodeChar) bytes.length = true := by
  cases chars with
  | nil =>
      rw [List.flatMap_nil, List.append_nil]
      exact isBoundary_iff.mpr (Or.inr (Or.inl rfl))
  | cons c chars =>
      obtain ⟨first, rest, encoded, begins, -, -⟩ := exists_encodeChar_eq_cons c
      refine isBoundary_iff.mpr (Or.inr (Or.inr ⟨first, ?_, begins⟩))
      rw [List.getElem?_append_right (Nat.le_refl _), Nat.sub_self, List.flatMap_cons, encoded]
      rfl

/-- **Boundaries are the ends of fronts.** -/
theorem isBoundary_flatMap_iff {chars : List Char} {index : Nat} :
    isBoundary (chars.flatMap encodeChar) index = true ↔
      ∃ front, front <+: chars ∧ (front.flatMap encodeChar).length = index := by
  constructor
  · intro boundary
    induction chars generalizing index with
    | nil =>
        have empty : index = 0 := by
          simpa [isBoundary_iff] using boundary
        exact ⟨[], List.prefix_rfl, empty.symm⟩
    | cons c chars ih =>
        rw [List.flatMap_cons] at boundary
        by_cases entered : index = 0
        · exact ⟨[], List.nil_prefix, entered.symm⟩
        · have behind := length_le_of_isBoundary entered boundary
          obtain ⟨index, rfl⟩ := Nat.exists_eq_add_of_le behind
          obtain ⟨front, begins, ends⟩ := ih (isBoundary_of_append boundary)
          refine ⟨c :: front, List.cons_prefix_cons.mpr ⟨rfl, begins⟩, ?_⟩
          rw [List.flatMap_cons, List.length_append, ends]
  · rintro ⟨front, ⟨back, rfl⟩, rfl⟩
    rw [List.flatMap_append]
    exact isBoundary_append _ back

/-- The search for a boundary finds the last one up to where it begins. -/
theorem exists_boundaryUpTo? (bytes : List UInt8) (index : Nat) :
    ∃ found, boundaryUpTo? bytes index = some found ∧ found ≤ index ∧
      isBoundary bytes found = true ∧
      ∀ other ≤ index, isBoundary bytes other = true → other ≤ found := by
  induction index with
  | zero => exact ⟨0, rfl, Nat.le_refl 0, isBoundary_zero bytes, fun _ below _ => below⟩
  | succ index ih =>
      by_cases boundary : isBoundary bytes (index + 1) = true
      · refine ⟨index + 1, ?_, Nat.le_refl _, boundary, fun _ below _ => below⟩
        rw [boundaryUpTo?, if_pos boundary]
      · obtain ⟨found, searched, below, stands, last⟩ := ih
        refine ⟨found, ?_, Nat.le_succ_of_le below, stands, fun other upTo also => ?_⟩
        · rw [boundaryUpTo?, if_neg boundary, searched]
        · rcases Nat.le_or_eq_of_le_succ upTo with earlier | rfl
          · exact last other earlier also
          · exact absurd also boundary

/-! ## Fronts -/

/-- A front of a text has no more bytes than there is room for, and no longer one does. -/
structure LongestFront (text : String) (room : Nat) (front : String) : Prop where
  begins : front.toList <+: text.toList
  fits : (encode front).length ≤ room
  longest : ∀ other : String, other.toList <+: text.toList → (encode other).length ≤ room →
    other.toList <+: front.toList

/-- Of two fronts, the one with fewer bytes is a front of the other. -/
theorem prefix_of_length_le {chars front other : List Char} (begins : front <+: chars)
    (also : other <+: chars)
    (fewer : (other.flatMap encodeChar).length ≤ (front.flatMap encodeChar).length) :
    other <+: front := by
  rcases List.prefix_or_prefix_of_prefix also begins with shorter | ⟨rest, rfl⟩
  · exact shorter
  · cases rest with
    | nil => simp
    | cons c rest =>
        have some := List.length_pos_iff.mpr (encodeChar_ne_nil c)
        simp only [List.flatMap_append, List.flatMap_cons, List.length_append] at fewer
        omega

/-- The search and the cut behind it give the longest front that there is room for. -/
theorem exists_longestFront (text : String) (room : Nat) :
    ∃ index front, boundaryUpTo? (encode text) room = some index ∧ index ≤ room ∧
      textBefore? (encode text) index = some front ∧ LongestFront text room front := by
  obtain ⟨index, searched, below, boundary, last⟩ := exists_boundaryUpTo? (encode text) room
  obtain ⟨front, begins, ends⟩ := isBoundary_flatMap_iff.mp boundary
  have bytes : encode (String.ofList front) = front.flatMap encodeChar := by
    rw [encode, String.toList_ofList]
  refine ⟨index, String.ofList front, searched, below, ?_, ?_, ?_, ?_⟩
  · obtain ⟨back, split⟩ := begins
    have taken : (encode text).take index = front.flatMap encodeChar := by
      rw [encode, ← split, List.flatMap_append, ← ends, List.take_left]
    rw [textBefore?, if_pos boundary, taken, decode, decodeChars_flatMap_encodeChar]
    rfl
  · rwa [String.toList_ofList]
  · rwa [bytes, ends]
  · intro other also fits
    rw [String.toList_ofList]
    refine prefix_of_length_le begins also ?_
    rw [ends]
    exact last _ fits (isBoundary_flatMap_iff.mpr ⟨other.toList, also, rfl⟩)

/-- Less room is left than another character might need. -/
theorem LongestFront.room_le {text front : String} {room : Nat}
    (longest : LongestFront text room front) (long : room < (encode text).length) :
    room ≤ (encode front).length + 3 := by
  obtain ⟨back, split⟩ := longest.begins
  cases back with
  | nil =>
      have whole := longest.fits
      rw [List.append_nil] at split
      rw [encode, split] at whole
      exact absurd long (Nat.not_lt.mpr whole)
  | cons c back =>
      obtain ⟨first, rest, encoded, -, -, few⟩ := exists_encodeChar_eq_cons c
      by_contra left
      have next : (encode (String.ofList (front.toList ++ [c]))).length =
          (encode front).length + (rest.length + 1) := by
        simp [encode, encoded]
      have longer : front.toList ++ [c] <+: front.toList := by
        have begins : front.toList ++ [c] <+: text.toList :=
          ⟨back, by rw [List.append_assoc, List.singleton_append, split]⟩
        have fits : (encode (String.ofList (front.toList ++ [c]))).length ≤ room := by
          omega
        simpa using longest.longest (String.ofList (front.toList ++ [c])) (by simpa using begins)
          fits
      have impossible := longer.length_le
      rw [List.length_append, List.length_singleton] at impossible
      omega

end Runbook.Text.Utf8
