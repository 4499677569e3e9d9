import Runbook.Program.Lines

/-!
# Parts of lines

The program that writes parts of each line, and how its arguments list the parts.
-/

namespace Runbook.Program.Tool

/-- Places from a first one to a last one; without a last one they go on to the end. -/
structure PlaceRange where
  first : Nat
  last? : Option Nat
deriving DecidableEq, Repr, Inhabited

namespace PlaceRange

/-- Whether a place lies in a range. -/
def contains (range : PlaceRange) (place : Nat) : Bool :=
  range.first ≤ place && range.last?.all (place ≤ ·)

/-- What places are called in complaints. -/
structure Wording where
  origin : String
  range : String
  value : String

/-- The wording for fields, and for bytes. -/
def wording (fields : Bool) : Wording :=
  if fields then ⟨"fields are numbered from 1", "invalid field range", "invalid field value "⟩
  else
    ⟨"byte/character positions are numbered from 1", "invalid byte or character range",
      "invalid byte/character position "⟩

/-- Read one range: a place, or two places with a dash between them, of which one may be left
out. -/
def read (wording : Wording) (chars behind : List Char) : Except String PlaceRange := do
  let digits := chars.takeWhile Char.isDigit
  let rest := chars.drop digits.length
  let first? := Decimal.readNatural (2 ^ 64) digits
  match rest with
  | [] =>
    match first? with
    | some n => if n = 0 then throw wording.origin else return ⟨n, some n⟩
    | none => throw wording.origin
  | '-' :: rest =>
    if first? = some 0 then throw wording.origin
    let digits := rest.takeWhile Char.isDigit
    match rest.drop digits.length with
    | '-' :: _ => throw wording.range
    | c :: more => throw (wording.value ++ Mention.marked (String.ofList (c :: more ++ behind)))
    | [] => pure ()
    match first?, Decimal.readNatural (2 ^ 64) digits with
    | none, none => throw "invalid range with no endpoint: -"
    | some n, none => return ⟨n, none⟩
    | first?, some last =>
      if last < first?.getD 1 then throw "invalid decreasing range"
      return ⟨first?.getD 1, some last⟩
  | rest => throw (wording.value ++ Mention.marked (String.ofList (rest ++ behind)))

/-- Read ranges with commas or blanks between them. -/
def readAll (wording : Wording) : (fuel : Nat) → List Char → Except String (List PlaceRange)
  | 0, _ => .ok []
  | fuel + 1, chars => do
    let (front, rest) := chars.span fun c => !(c == ',' || c == ' ' || c == '\t')
    let range ← read wording front rest
    match rest with
    | [] => return [range]
    | _ :: rest => return range :: (← readAll wording fuel rest)

/-- Whether a range begins at a place that no range before it reaches. -/
def startsAt (ranges : List PlaceRange) (place : Nat) : Bool :=
  ranges.any (·.first == place)
    && !ranges.any fun range => range.first < place && range.last?.all (place ≤ ·)

end PlaceRange

/-- Which parts of a line are written. -/
structure Selection where
  ranges : List PlaceRange
  /-- The other parts are written. -/
  inverted : Bool

/-- Whether a part is written. -/
def Selection.takes (selection : Selection) (place : Nat) : Bool :=
  selection.ranges.any (·.contains place) != selection.inverted

/-- The items that are selected, by their places. -/
def Selection.of {α : Type} (selection : Selection) (items : List α) : List (α × Nat) :=
  (items.zipIdx 1).filter fun (_, place) => selection.takes place

/-- Whether a place begins a row of places that are selected. -/
def Selection.starts (selection : Selection) (place : Nat) : Bool :=
  if selection.inverted then place = 1 || !selection.takes (place - 1)
  else PlaceRange.startsAt selection.ranges place

/-- The bytes of a line that are selected, with a text between rows of them that do not touch. -/
def cutBytes (selection : Selection) (joint? : Option (List UInt8)) (line : List UInt8) :
    List UInt8 :=
  match joint? with
  | none => (selection.of line).map (·.1)
  | some joint =>
    ((selection.of line).foldl (fun (written, any) (byte, place) =>
      (written ++ (if any && selection.starts place then joint else []) ++ [byte], true))
      ([], false)).1

/-- The fields of a line that are selected. A line without a delimiter is taken whole, or not at
all. -/
def cutFields (selection : Selection) (delimiter : UInt8) (joint : List UInt8)
    (onlyDelimited : Bool)
    (line : List UInt8) : Option (List UInt8) :=
  if line.contains delimiter then
    some (joint.intercalate ((selection.of (line.splitOn delimiter)).map (·.1)))
  else if onlyDelimited then none
  else some line

/-- Write parts of each line: bytes, or fields between delimiters. -/
def cut : Tool := fun arguments supply =>
  let table := "b|bytes: c|characters: f|fields: d|delimiter: n s|only-delimited |output-delimiter:
    |complement z|zero-terminated"
  withOptions supply.name table arguments fun options =>
    let lists := options.given.filter fun (key, _) => ["b", "c", "f"].contains key
    let delimiters := ((options.value? "d").map Text.Octets.toBytes)
    let joint? := (options.value? "output-delimiter").map Text.Octets.toBytes
    match lists with
    | [] => refuse supply.name "you must specify a list of bytes, characters, or fields"
    | _ :: _ :: _ => refuse supply.name "only one type of list may be specified"
    | [(key, value?)] =>
      let ofFields := key == "f"
      let list := value?.getD ""
      if delimiters.any (1 < ·.length) then
        refuse supply.name "the delimiter must be a single character"
      else if delimiters.isSome && !ofFields then
        refuse supply.name "an input delimiter may be specified only when operating on fields"
      else if options.has "s" && !ofFields then
        refuse supply.name
          "suppressing non-delimited lines makes sense\n\tonly when operating on fields"
      else
        match PlaceRange.readAll (PlaceRange.wording ofFields) (list.length + 1) list.toList with
        | .error text => refuse supply.name text
        | .ok ranges =>
          let selection : Selection := ⟨ranges, options.has "complement"⟩
          let delimiter := (delimiters.map (·.headD 0)).getD 9
          let cutAll (bytes : List UInt8) : List UInt8 :=
            let lines := bareRecords (recordMark options) bytes
            joinRecords (recordMark options) (if ofFields then
                lines.filterMap (cutFields selection delimiter (joint?.getD [delimiter])
                  (options.has "s"))
              else lines.map (cutBytes selection joint?))
          concludeWith 1
            ((readPieces (complainOf supply.name) supply options.operands).writeEach cutAll)

end Runbook.Program.Tool
