/-!
# Tables of codes

A property of characters is written as a text of entries with blanks between them, in ascending
order. An entry is a hexadecimal code, or a range `first-last`, or every second code of a range
`first~last`. Behind it may stand what its codes stand for: `=` and some codes with dots between
them, or `>` and a single code if the image moves along with the code.
-/

namespace Runbook.Text

/-- Codes with one rule for what they stand for. -/
structure CodeRun where
  first : Nat
  last : Nat
  /-- Whether every second code is left out. -/
  alternating : Bool
  /-- Whether the image moves along with the code. -/
  moving : Bool
  /-- What the first code stands for. -/
  image : List Nat
deriving DecidableEq, Repr, Inhabited

namespace CodeRun

/-- The number that hexadecimal digits in upper case write. -/
def readCode (digits : List Char) : Nat :=
  digits.foldl (fun value c =>
    value * 16 + if c ≤ '9' then c.toNat - '0'.toNat else c.toNat + 10 - 'A'.toNat) 0

/-- Read an entry of a table. -/
def ofChars (entry : List Char) : CodeRun :=
  let (codes, image) := entry.span fun c => c != '=' && c != '>'
  let (first, last) := codes.span fun c => c != '-' && c != '~'
  { first := readCode first
    last := readCode (if last.isEmpty then first else last.tail)
    alternating := last.head? == some '~'
    moving := image.head? == some '>'
    image := if image.isEmpty then [] else (image.tail.splitOn '.').map readCode }

/-- Whether a code belongs to the run. -/
def contains (run : CodeRun) (code : Nat) : Bool :=
  run.first ≤ code && code ≤ run.last && !(run.alternating && (code - run.first) % 2 == 1)

/-- What a code of the run stands for. -/
def imageOf (run : CodeRun) (code : Nat) : List Nat :=
  if run.moving then run.image.map (· + (code - run.first)) else run.image

end CodeRun

/-- Runs in ascending order, none of which reaches into another one. -/
structure CodeTable where
  runs : Array CodeRun
deriving Repr, Inhabited

namespace CodeTable

/-- Read a table. -/
def ofText (text : String) : CodeTable :=
  let entries := text.toList.splitOnP fun c => c == ' ' || c == '\n'
  ⟨((entries.filter (!·.isEmpty)).map CodeRun.ofChars).toArray⟩

/-- The number of runs that begin at a code or in front of it, if these are at least `low` and at
most `high` ones. -/
def countUpTo (table : CodeTable) (code low high : Nat) : Nat :=
  if low < high then
    let middle := (low + high) / 2
    if (table.runs.getD middle default).first ≤ code then
      table.countUpTo code (middle + 1) high
    else table.countUpTo code low middle
  else low
termination_by high - low

/-- The run that a code belongs to. -/
def find? (table : CodeTable) (code : Nat) : Option CodeRun :=
  match table.countUpTo code 0 table.runs.size with
  | 0 => none
  | count + 1 => (table.runs[count]?).filter (·.contains code)

/-- Whether a code is in the table. -/
def contains (table : CodeTable) (code : Nat) : Bool := (table.find? code).isSome

/-- What a code stands for. -/
def image? (table : CodeTable) (code : Nat) : Option (List Nat) :=
  (table.find? code).map (·.imageOf code)

end CodeTable

end Runbook.Text
