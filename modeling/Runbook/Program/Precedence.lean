import Runbook.Program.Lines

/-!
# Precedence

Words in an order in which each comes before those that it has to precede. Words without another in
front of them come first, in the order of their bytes.
-/

namespace Runbook.Program

namespace Precedence

/-- A word, how many words still have to come before it, and those that it comes before, the last
one first. -/
structure Item where
  word : List UInt8
  before : Nat
  after : List (List UInt8)
deriving DecidableEq, Repr, Inhabited

/-- Add a word if it is not there. -/
def add (items : List Item) (word : List UInt8) : List Item :=
  if items.any (·.word == word) then items else ⟨word, 0, []⟩ :: items

/-- One word comes before another. -/
def relate (items : List Item) (first second : List UInt8) : List Item :=
  let items := add (add items first) second
  if first = second then items
  else items.map fun item =>
    if item.word = first then { item with after := second :: item.after }
    else if item.word = second then { item with before := item.before + 1 }
    else item

/-- The relations of words in pairs. -/
def ofWords : (items : List Item) → List (List UInt8) → List Item
  | items, first :: second :: rest => ofWords (relate items first second) rest
  | items, _ => items

/-- Take out words that no other word has to precede, beginning with some in a row: the order of
the words, and the items that are left. -/
def release : (fuel : Nat) → (queue : List (List UInt8)) → List Item →
    List (List UInt8) × List Item
  | 0, _, items => ([], items)
  | _ + 1, [], items => ([], items)
  | fuel + 1, word :: queue, items =>
    let after := (items.find? (·.word == word)).elim [] (·.after)
    let (freed, items) := after.foldl (fun (freed, items) other =>
      let items := items.map fun item : Item =>
        if item.word = other then { item with before := item.before - 1 } else item
      let isFree := items.any fun item => item.word == other && item.before == 0
      (if isFree then freed ++ [other] else freed, items)) ([], items)
    let (words, items) := release fuel (queue ++ freed) (items.filter (·.word != word))
    (word :: words, items)

/-- A way along words that each have to precede the one before, until one comes twice. -/
def loopFrom (items : List Item) : (fuel : Nat) → (way : List (List UInt8)) → List UInt8 →
    List (List UInt8)
  | 0, way, _ => way
  | fuel + 1, way, word =>
    if way.contains word then
      (way.takeWhile (· != word)) ++ [word]
    else
      match items.find? fun item => item.after.contains word with
      | some item => loopFrom items fuel (word :: way) item.word
      | none => way

/-- Whether bytes come before others. -/
def precedes (a b : Item) : Bool := decide (a.word ≤ b.word)

/-- The words in order, and loops among them, each of which is broken at its end. -/
def order : (fuel : Nat) → List Item → List (List UInt8) × List (List (List UInt8))
  | 0, _ => ([], [])
  | fuel + 1, items =>
    let sorted := items.mergeSort precedes
    let free := (sorted.filter (·.before == 0)).map (·.word)
    let (words, left) := release (items.length + 1) free sorted
    match left with
    | [] => (words, [])
    | item :: _ =>
      let loop := loopFrom left (left.length + 1) [] item.word
      let last := loop.getLastD []
      let first := loop.headD []
      let broken := left.map fun item =>
        let item := if item.word = last then { item with after := item.after.erase first } else item
        if item.word = first then { item with before := item.before - 1 } else item
      let (later, loops) := order fuel broken
      (words ++ later, loop :: loops)

end Precedence

/-- Write words in an order that respects pairs. -/
def Tool.tsort : Tool := fun arguments supply =>
  withOptions supply.name "" arguments fun options =>
    match options.operands with
    | _ :: extra :: _ => refuse supply.name (extraOperand extra)
    | operands =>
      let path := operands.headD "-"
      match supplied supply path with
      | .error cause =>
        let why := reason cause
        fail 1 [] [if cause = .isADirectory then supply.name ++ ": " ++ Mention.shellWord path
          ++ ": read error: " ++ why else complainOf supply.name path why]
      | .ok bytes =>
        let words := (bytes.splitOnP isWhite).filter (!·.isEmpty)
        if words.length % 2 = 1 then
          fail 1 [] [supply.name ++ ": " ++ Mention.shellWord path
            ++ ": input contains an odd number of tokens"]
        else
          let items := Precedence.ofWords [] words
          let (order, loops) := Precedence.order (words.length + 1) items
          conclude 1 (joinLines order) (loops.flatMap fun loop =>
            (supply.name ++ ": " ++ Mention.shellWord path ++ ": input contains a loop:")
              :: loop.map fun word => supply.name ++ ": " ++ Text.Octets.ofBytes word)

end Runbook.Program
