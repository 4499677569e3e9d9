import Runbook.Json.Reader
import Runbook.Proofs.Dictionary

/-!
# Values that are read

What the reader of JSON texts gives (`Json.Readable`): the members of objects stand in order of
their names, integers fit in 64 bits, and containers are not nested too deeply. Every step of the
reader keeps this up (`Json.Progress.Sound.step`), so that all values that are read have it
(`Json.readable_of_ofChars`).
-/

namespace Runbook

/-- An integer fits in 64 bits. -/
def Number.Fits : Number → Prop
  | .int n => leastInt ≤ n ∧ n ≤ greatestInt
  | .float _ => True

namespace Json

/-- A value that can be read where containers may be nested as deeply as the room says. -/
inductive Readable : (room : Nat) → Json → Prop
  | null {room : Nat} : Readable room .null
  | bool {room : Nat} (value : Bool) : Readable room (.bool value)
  | number {room : Nat} {value : Number} (fits : value.Fits) : Readable room (.number value)
  | string {room : Nat} (text : String) : Readable room (.string text)
  | array {room : Nat} {items : List Json} (inside : 0 < room)
      (each : ∀ item ∈ items, Readable (room - 1) item) : Readable room (.array items)
  | object {room : Nat} {members : List (String × Json)} (inside : 0 < room)
      (sorted : Dictionary.Sorted members)
      (each : ∀ member ∈ members, Readable (room - 1) member.2) : Readable room (.object members)

/-! ## Tokens -/

/-- The number of a token fits. -/
def Token.Fits : Token → Prop
  | .number value => value.Fits
  | _ => True

/-- Digits are appended only as long as the significand fits in 64 bits. -/
theorem appendDigits_lt {digits : List Char} {significand : Nat} (fits : significand < 2 ^ 64) :
    (Numeral.appendDigits significand digits).1 < 2 ^ 64 := by
  induction digits generalizing significand with
  | nil => exact fits
  | cons digit digits ih =>
      rw [Numeral.appendDigits]
      by_cases longer : significand * 10 + Numeral.digitValue digit < 2 ^ 64
      · simp only [longer, ↓reduceIte]
        exact ih longer
      · simp only [longer, ↓reduceIte]
        exact fits

theorem fits_of_wholeValue {negative : Bool} {magnitude : Nat} {value : Number}
    (fits : magnitude < 2 ^ 64) (found : Numeral.wholeValue negative magnitude = some value) :
    value.Fits := by
  unfold Numeral.wholeValue at found
  split_ifs at found with signed inside
  · cases found
    simp only [Number.Fits, Number.leastInt, Number.greatestInt]
    omega
  · obtain ⟨magnitude, -, rfl⟩ := Option.map_eq_some_iff.mp found
    trivial
  · cases found
    simp only [Number.Fits, Number.leastInt, Number.greatestInt]
    omega

theorem fits_of_value {numeral : Numeral} {value : Number} (found : numeral.value = some value) :
    value.Fits := by
  have fits : (Numeral.appendDigits 0 numeral.whole).1 < 2 ^ 64 := appendDigits_lt (by decide)
  unfold Numeral.value at found
  generalize Numeral.appendDigits 0 numeral.whole = taken at fits found
  obtain ⟨significand, used⟩ := taken
  dsimp only at fits found
  split at found
  · exact fits_of_wholeValue fits found
  · obtain ⟨float, -, rfl⟩ := Option.map_eq_some_iff.mp found
    trivial

theorem fits_of_token {chars rest : List Char} {read : Token}
    (found : token chars = some (read, rest)) : read.Fits := by
  unfold token at found
  split at found
  all_goals try (cases found; trivial)
  · obtain ⟨body, -, built⟩ := Option.bind_eq_some_iff.mp found
    cases built
    trivial
  all_goals
    obtain ⟨numeral, -, valued⟩ := Option.bind_eq_some_iff.mp found
    obtain ⟨value, read, built⟩ := Option.bind_eq_some_iff.mp valued
    cases built
    exact fits_of_value read

theorem fits_of_tokens {chars : List Char} {read : List Token} (found : tokens chars = some read) :
    ∀ token ∈ read, token.Fits := by
  fun_induction tokens chars generalizing read with
  | case1 =>
      cases found
      exact fun _ member => nomatch member
  | case2 _ _ _ ih => exact ih found
  | case3 => cases found
  | case4 _ _ _ first behind written _ ih =>
      obtain ⟨later, rest, rfl⟩ := Option.map_eq_some_iff.mp found
      exact List.forall_mem_cons.mpr ⟨fits_of_token written, ih rest⟩

/-! ## Steps of the reader -/

section Containers

variable {room : Nat} {value : Json} {items : List Json} {members : Dictionary Json}

theorem Readable.cons (opened : Readable room (.array items)) (read : Readable (room - 1) value) :
    Readable room (.array (value :: items)) := by
  cases opened with
  | array inside each => exact .array inside (List.forall_mem_cons.mpr ⟨read, each⟩)

theorem Readable.reverse (opened : Readable room (.array items)) :
    Readable room (.array items.reverse) := by
  cases opened with
  | array inside each =>
      exact .array inside fun item member => each item (List.mem_reverse.mp member)

theorem Readable.insert (opened : Readable room (.object members)) (name : String)
    (read : Readable (room - 1) value) : Readable room (.object (members.insert name value)) := by
  cases opened with
  | object inside sorted each =>
      refine .object inside (Dictionary.sorted_insert name value sorted) fun member listed => ?_
      rcases Dictionary.mem_insert listed with rfl | earlier
      · exact read
      · exact each member earlier

end Containers

/-- What an open container holds so far. -/
def Frame.content : Frame → Json
  | .array items => .array items
  | .object members _ => .object members

/-- What is open can be read at its depth. -/
inductive Opened : List Frame → Prop
  | nil : Opened []
  | cons {frame : Frame} {outer : List Frame}
      (content : Readable (deepest - outer.length) frame.content) (below : Opened outer) :
      Opened (frame :: outer)

/-- All that has been read so far can be read at its depth. -/
def Progress.Sound : Progress → Prop
  | .awaitValue opened => Opened opened
  | .awaitItem opened => Opened opened ∧ Readable (deepest - opened.length) (.array [])
  | .awaitMember opened => Opened opened ∧ Readable (deepest - opened.length) (.object [])
  | .awaitName opened members =>
    Opened opened ∧ Readable (deepest - opened.length) (.object members)
  | .awaitColon opened members _ =>
    Opened opened ∧ Readable (deepest - opened.length) (.object members)
  | .complete opened value => Opened opened ∧ Readable (deepest - opened.length) value

theorem Progress.sound_of_begin {opened : List Frame} (below : Opened opened) {next : Token}
    (fits : next.Fits) {after : Progress} (read : Progress.begin opened next = some after) :
    after.Sound := by
  have room (deeper : opened.length < deepest) : 0 < deepest - opened.length :=
    Nat.sub_pos_of_lt deeper
  unfold Progress.begin at read
  split at read
  · cases read
    exact ⟨below, .null⟩
  · cases read
    exact ⟨below, .bool _⟩
  · cases read
    exact ⟨below, .number fits⟩
  · cases read
    exact ⟨below, .string _⟩
  · split_ifs at read with deeper
    cases read
    exact ⟨below, .array (room deeper) fun _ member => nomatch member⟩
  · split_ifs at read with deeper
    cases read
    exact ⟨below, .object (room deeper) List.Pairwise.nil fun _ member => nomatch member⟩
  · cases read

theorem Progress.sound_of_extend {opened : List Frame} (below : Opened opened) {value : Json}
    (readable : Readable (deepest - opened.length) value) {next : Token} {after : Progress}
    (read : Progress.extend opened value next = some after) : after.Sound := by
  unfold Progress.extend at read
  split at read
  · cases read
    cases below with
    | cons content outer => exact .cons (content.cons readable) outer
  · cases read
    cases below with
    | cons content outer => exact ⟨outer, (content.cons readable).reverse⟩
  · cases read
    cases below with
    | cons content outer => exact ⟨outer, content.insert _ readable⟩
  · cases read
    cases below with
    | cons content outer => exact ⟨outer, content.insert _ readable⟩
  · cases read

/-- Each step of the reader keeps this up. -/
theorem Progress.Sound.step {before after : Progress} (sound : before.Sound) {next : Token}
    (fits : next.Fits) (read : before.step next = some after) : after.Sound := by
  unfold Progress.step at read
  split at read
  · exact sound_of_begin sound fits read
  · cases read
    exact sound
  · exact sound_of_begin (.cons sound.2 sound.1) fits read
  · cases read
    exact sound
  · cases read
    exact sound
  · cases read
  · cases read
    exact sound
  · cases read
  · cases read
    exact .cons sound.2 sound.1
  · cases read
  · exact sound_of_extend sound.1 sound.2 read

theorem Progress.Sound.foldlM {read : List Token} (fits : ∀ token ∈ read, token.Fits)
    {before after : Progress} (sound : before.Sound)
    (done : read.foldlM Progress.step before = some after) : after.Sound := by
  induction read generalizing before with
  | nil =>
      cases done
      exact sound
  | cons next read ih =>
      obtain ⟨first, rest⟩ := List.forall_mem_cons.mp fits
      obtain ⟨middle, moved, done⟩ := Option.bind_eq_some_iff.mp done
      exact ih rest (sound.step first moved) done

/-- **Every value that is read keeps to the limits of the reader.** -/
theorem readable_of_ofChars {chars : List Char} {value : Json}
    (read : ofChars chars = some value) : Readable deepest value := by
  obtain ⟨found, lexed, read⟩ := Option.bind_eq_some_iff.mp read
  obtain ⟨last, done, result⟩ := Option.bind_eq_some_iff.mp read
  have start : Progress.Sound (.awaitValue []) := .nil
  have sound := start.foldlM (fits_of_tokens lexed) done
  unfold Progress.result at result
  split at result
  · cases result
    exact sound.2
  · cases result

end Json

end Runbook
