/-!
# Labels in ASCII

A label with characters beyond ASCII is written as its ASCII characters and, behind a hyphen, the
places of the others: as differences between one place and the next, in increasing order of codes,
written with the digits `a` to `z` and `0` to `9`.
-/

namespace Runbook.Http.Domain.Punycode

/-- A digit: letters stand for 0 to 25 and digits for 26 to 35. -/
def digitChar (n : Nat) : Char := Char.ofNat (if n < 26 then 97 + n else 22 + n)

/-- The value of a digit; a letter may be of either case. -/
def digitValue (c : Char) : Option Nat :=
  if 'a' ≤ c ∧ c ≤ 'z' then some (c.toNat - 97)
  else if 'A' ≤ c ∧ c ≤ 'Z' then some (c.toNat - 65)
  else if '0' ≤ c ∧ c ≤ '9' then some (c.toNat - 22)
  else none

/-- The threshold below which the digit at a place is the last one. -/
def threshold (place bias : Nat) : Nat := min 26 (max 1 (place - bias))

theorem threshold_bounds (place bias : Nat) :
    1 ≤ threshold place bias ∧ threshold place bias ≤ 26 := by
  unfold threshold
  omega

/-- Reduce a large difference, and count the steps. -/
def shrink (delta bias : Nat) : Nat :=
  if 455 < delta then shrink (delta / 35) (bias + 36) else bias + 36 * delta / (delta + 38)
termination_by delta
decreasing_by omega

/-- How far the thresholds are moved behind a difference: the more, the larger it was. -/
def adapt (delta count : Nat) (first : Bool) : Nat :=
  let delta := if first then delta / 700 else delta / 2
  shrink (delta + delta / count) 0

/-- A difference as digits, of which the last one is below its threshold. -/
def writeDelta (delta place bias : Nat) : List Char :=
  if delta < threshold place bias then [digitChar delta]
  else
    let above := delta - threshold place bias
    let base := 36 - threshold place bias
    digitChar (threshold place bias + above % base) :: writeDelta (above / base) (place + 36) bias
termination_by delta
decreasing_by
  have bounds := threshold_bounds place bias
  have := Nat.div_le_self (delta - threshold place bias) (36 - threshold place bias)
  omega

/-- The state of writing a label. -/
structure Encoding where
  /-- The least code that has not been written. -/
  code : Nat
  delta : Nat
  bias : Nat
  /-- How many characters have been written. -/
  handled : Nat
  written : List Char

namespace Encoding

/-- Write one occurrence of the current code, or count a lower one. -/
def occurrence (basic target : Nat) (state : Encoding) (c : Char) : Encoding :=
  if c.toNat < target then { state with delta := state.delta + 1 }
  else if c.toNat = target then
    { state with
      written := state.written ++ writeDelta state.delta 36 state.bias
      bias := adapt state.delta (state.handled + 1) (state.handled == basic)
      delta := 0
      handled := state.handled + 1 }
  else state

/-- Write all occurrences of the codes of a label that are not ASCII, in increasing order. -/
def occurrences (label : List Char) (basic : Nat) : List Nat → Encoding → Encoding
  | [], state => state
  | target :: targets, state =>
    let state :=
      { state with delta := state.delta + (target - state.code) * (state.handled + 1) }
    let state := label.foldl (occurrence basic target) state
    occurrences label basic targets { state with code := target + 1, delta := state.delta + 1 }

end Encoding

/-- Whether a character is one of ASCII. -/
def isBasic (c : Char) : Bool := c.toNat < 0x80

/-- A label in ASCII, without what marks it. -/
def encode (label : List Char) : List Char :=
  let basic := label.filter isBasic
  let targets := ((label.filter (!isBasic ·)).map Char.toNat).mergeSort.eraseDups
  let front := if basic.isEmpty then [] else basic ++ ['-']
  front ++ (Encoding.occurrences label basic.length targets ⟨0x80, 0, 72, basic.length, []⟩).written

/-- The state of reading a label. -/
structure Decoding where
  chars : List Char
  code : Nat
  bias : Nat
  /-- Where the next character is inserted, counted on from one code to the next. -/
  position : Nat
  /-- Where the one before it stands. -/
  previous : Nat
  /-- The place of the next digit, and what a digit there counts. -/
  place : Nat
  weight : Nat

namespace Decoding

/-- A label of which only the ASCII characters have been read. -/
def start (basic : List Char) : Decoding := ⟨basic, 0x80, 72, 0, 0, 36, 1⟩

/-- Whether a difference is complete. -/
def isComplete (state : Decoding) : Bool := state.place == 36

/-- Insert the character that a complete difference leads to. -/
def insert (state : Decoding) (position : Nat) : Option Decoding :=
  let count := state.chars.length + 1
  let code := state.code + position / count
  if code.isValidChar then
    let place := position % count
    some
      { chars := state.chars.take place ++ Char.ofNat code :: state.chars.drop place
        code := code
        bias := adapt (position - state.previous) count (state.previous == 0)
        position := place + 1
        previous := place + 1
        place := 36
        weight := 1 }
  else none

/-- Read a digit. -/
def step (state : Decoding) (c : Char) : Option Decoding := do
  let digit ← digitValue c
  let limit := threshold state.place state.bias
  let position := state.position + digit * state.weight
  if digit < limit then state.insert position
  else
    return { state with
      position := position
      place := state.place + 36
      weight := state.weight * (36 - limit) }

end Decoding

/-- The parts of a label in front of its last hyphen and behind it. Nothing stands in front of it if
there is none. -/
def splitBasic (label : List Char) : List Char × List Char :=
  match (label.reverse.dropWhile (· != '-')).reverse with
  | [] => ([], label)
  | front => (front.dropLast, label.drop front.length)

/-- The label that is written in ASCII, if it is written correctly. -/
def decode (label : List Char) : Option (List Char) := do
  let (basic, digits) := splitBasic label
  if basic.isEmpty && label.contains '-' then none
  let state ← digits.foldlM Decoding.step (.start basic)
  if state.isComplete then return state.chars else none

end Runbook.Http.Domain.Punycode
